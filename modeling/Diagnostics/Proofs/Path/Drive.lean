import Diagnostics.Proofs.Path.Parse
import Mathlib.Data.List.TakeWhile

/-!
# Windows drives

A Windows path starts with a drive letter, with a machine and a share, or with neither, and
a mark for extended paths may stand before them. `IsDrive` lists the drives that are read
and their roots. Not every drive with its root is read as itself again: `IsSettled` tells
those that are.
-/

namespace Diagnostics

/-! ### The start of a text -/

/-- A letter is none of the characters that have a meaning in paths. -/
theorem ne_of_isAlpha {c d : Char} (h : c.isAlpha = true) (hd : d.isAlpha = false) :
  c ≠ d
  := by
  rintro rfl
  rw [h] at hd
  contradiction

/-- The mark before an extended path. -/
def extendedMark : List Char := ['\\', '\\', '?', '\\']

/-- The mark before a network share in an extended path. -/
def networkMark : List Char := extendedMark ++ ['U', 'N', 'C']

theorem splitExtended_cases (text : List Char) :
  (∃ rest, text = networkMark ++ '\\' :: rest
      ∧ splitExtended text = (networkMark, '\\' :: '\\' :: rest))
    ∨ (∃ rest, text = extendedMark ++ rest ∧ splitExtended text = (extendedMark, rest))
    ∨ ¬ extendedMark <+: text ∧ splitExtended text = ([], text)
  := by
  fun_cases splitExtended text with
  | case1 rest =>
    left
    use rest, rfl
    rfl
  | case2 rest =>
    right
    left
    use rest, rfl
    rfl
  | case3 _ _ h =>
    right
    right
    refine ⟨?_, rfl⟩
    rintro ⟨rest, rfl⟩
    exact h rest rfl

theorem bne_of_separator_not_mem {text : List Char} (h : '\\' ∉ text) :
  ∀ c ∈ text, (c != '\\') = true
  := by
  intro c hc
  rw [bne_iff_ne]
  rintro rfl
  exact h hc

theorem takeWhile_of_separator_not_mem {text : List Char} (h : '\\' ∉ text) :
  text.takeWhile (· != '\\') = text ∧ text.dropWhile (· != '\\') = []
  := by
  rw [List.takeWhile_eq_self_iff, List.dropWhile_eq_nil_iff, and_self]
  apply bne_of_separator_not_mem h

theorem takeWhile_append_of_separator_not_mem {before : List Char} (h : '\\' ∉ before)
    (after : List Char) :
  (before ++ '\\' :: after).takeWhile (· != '\\') = before
    ∧ (before ++ '\\' :: after).dropWhile (· != '\\') = '\\' :: after
  := by
  have hbefore := bne_of_separator_not_mem h
  rw [List.takeWhile_append_of_pos hbefore, List.dropWhile_append_of_pos hbefore]
  simp

theorem head?_append_ne_separator {text : List Char} (hnil : text ≠ []) (h : '\\' ∉ text)
    (tail : List Char) :
  (text ++ tail).head? ≠ some '\\'
  := by
  obtain ⟨c, text, rfl⟩ := List.exists_cons_of_ne_nil hnil
  simpa using Ne.symm (List.ne_of_not_mem_cons h)

theorem splitShare?_of_not_mem {body : List Char} (h : '\\' ∉ body) :
  splitShare? ('\\' :: '\\' :: body) = none
  := by
  rw [splitShare?, (takeWhile_of_separator_not_mem h).2]
  simp

/-- A share follows a machine unless there is a separator in its place. -/
theorem splitShare?_append {machine : List Char} (hnil : machine ≠ []) (h : '\\' ∉ machine)
    (tail : List Char) :
  splitShare? ('\\' :: '\\' :: machine ++ '\\' :: tail)
    = if tail.head? = some '\\' then none
      else some (machine, tail.takeWhile (· != '\\'), (tail.dropWhile (· != '\\')).drop 1)
  := by
  obtain ⟨htake, hdrop⟩ := takeWhile_append_of_separator_not_mem h tail
  rw [List.cons_append, List.cons_append, splitShare?,
    if_neg (head?_append_ne_separator hnil h _), hdrop, htake]

/-- A machine and a share mention no separator, the machine is not empty, and the share is
empty only at the end. -/
theorem splitShare?_eq_some {text machine share rest : List Char}
    (h : splitShare? text = some (machine, share, rest)) :
  (machine ≠ [] ∧ '\\' ∉ machine ∧ '\\' ∉ share)
    ∧ ∃ after, text = '\\' :: '\\' :: machine ++ '\\' :: (share ++ after)
      ∧ (after = [] ∧ rest = [] ∨ after = '\\' :: rest ∧ share ≠ [])
  := by
  obtain ⟨body, rfl⟩ : ∃ body, text = '\\' :: '\\' :: body := by
    unfold splitShare? at h
    split at h
    · exact ⟨_, rfl⟩
    · simp at h
  by_cases hbody : '\\' ∈ body
  · obtain ⟨before, tail, rfl, hbefore⟩ := List.eq_append_cons_of_mem hbody
    cases before with
    | nil => simp [splitShare?] at h
    | cons c before =>
      have hnil : c :: before ≠ [] := List.cons_ne_nil c before
      rw [← List.cons_append, ← List.cons_append, splitShare?_append hnil hbefore] at h
      split at h
      · simp at h
      · rename_i htail
        by_cases hshare : '\\' ∈ tail
        · obtain ⟨before', rest', rfl, hbefore'⟩ := List.eq_append_cons_of_mem hshare
          obtain ⟨htake, hdrop⟩ := takeWhile_append_of_separator_not_mem hbefore' rest'
          rw [htake, hdrop] at h
          obtain ⟨rfl, rfl, rfl⟩ := by simpa using h
          refine ⟨⟨hnil, hbefore, hbefore'⟩, '\\' :: rest', rfl, Or.inr ⟨rfl, ?_⟩⟩
          rintro rfl
          simp at htail
        · obtain ⟨htake, hdrop⟩ := takeWhile_of_separator_not_mem hshare
          rw [htake, hdrop] at h
          obtain ⟨rfl, rfl, rfl⟩ := by simpa using h
          refine ⟨⟨hnil, hbefore, hshare⟩, [], ?_, Or.inl ⟨rfl, rfl⟩⟩
          rw [List.append_nil]
          rfl
  · rw [splitShare?_of_not_mem hbody] at h
    simp at h

theorem splitShare?_eq_none {text : List Char} (h : ¬ ['\\', '\\'] <+: text) :
  splitShare? text = none
  := by
  cases hshare : splitShare? text with
  | none => rfl
  | some found =>
    obtain ⟨-, after, rfl, -⟩ := splitShare?_eq_some hshare
    exact absurd ⟨_, rfl⟩ h

theorem splitExtended_of_not_startsWith {text : List Char} (h : ¬ extendedMark <+: text) :
  splitExtended text = ([], text)
  := by
  obtain ⟨rest, rfl, -⟩ | ⟨rest, rfl, -⟩ | ⟨-, hrest⟩ := splitExtended_cases text
  · exact absurd ⟨['U', 'N', 'C'] ++ '\\' :: rest, rfl⟩ h
  · exact absurd ⟨rest, rfl⟩ h
  · exact hrest

theorem splitExtended_extendedMark {rest : List Char} (h : ¬ ['U', 'N', 'C', '\\'] <+: rest) :
  splitExtended (extendedMark ++ rest) = (extendedMark, rest)
  := by
  obtain ⟨rest', htext, -⟩ | ⟨rest', htext, hrest⟩ | ⟨hstart, -⟩ :=
    splitExtended_cases (extendedMark ++ rest)
  · rw [networkMark, List.append_assoc, List.append_cancel_left_eq] at htext
    exact absurd ⟨rest', htext.symm⟩ h
  · rw [List.append_cancel_left_eq] at htext
    rw [hrest, htext]
  · exact absurd ⟨rest, rfl⟩ hstart

theorem splitLetter_cases (text : List Char) :
  (∃ c rest, c.isAlpha = true ∧ text = c :: ':' :: rest ∧ splitLetter text = ([c, ':'], rest))
    ∨ splitLetter text = ([], text)
  := by
  fun_cases splitLetter text with
  | case1 c rest h =>
    left
    use c, rest, h, rfl
  | case2 c rest h =>
    right
    rfl
  | case3 =>
    right
    rfl

theorem splitWindows_of_share {text mark tail machine share rest : List Char}
    (h : splitExtended text = (mark, tail))
    (hshare : splitShare? tail = some (machine, share, rest)) :
  splitWindows text
    = ((if mark = [] then ['\\'] else mark) ++ '\\' :: machine ++ '\\' :: share, .single, rest)
  := by
  simp only [splitWindows, h, hshare]
  split <;> simp

theorem splitWindows_of_no_share {text mark tail : List Char}
    (h : splitExtended text = (mark, tail)) (hshare : splitShare? tail = none) :
  splitWindows text
    = (mark ++ (splitLetter tail).1,
      if (splitLetter tail).2.head? = some '\\' then .single else .relative,
      (splitLetter tail).2.dropWhile (· == '\\'))
  := by
  simp only [splitWindows, h, hshare]

theorem exists_letter (text : List Char) :
  (splitLetter text).1 = [] ∨ ∃ c, c.isAlpha = true ∧ (splitLetter text).1 = [c, ':']
  := by
  obtain ⟨c, rest, hc, -, h⟩ | h := splitLetter_cases text
  · right
    use c, hc
    rw [h]
  · left
    rw [h]

/-! ### Drives -/

/-- The drives of Windows paths, each with the roots it can have. -/
inductive IsDrive : List Char → Root → Prop where
  | letter {mark drive : List Char} {root : Root} (hmark : mark = [] ∨ mark = extendedMark)
      (hletter : drive = [] ∨ ∃ c, c.isAlpha = true ∧ drive = [c, ':'])
      (hroot : root = .relative ∨ root = .single) : IsDrive (mark ++ drive) root
  | network : IsDrive networkMark .single
  | share {mark machine share : List Char}
      (hmark : mark = ['\\'] ∧ machine ≠ ['?'] ∨ mark = extendedMark ∨ mark = networkMark)
      (hnil : machine ≠ []) (hmachine : '\\' ∉ machine) (hshare : '\\' ∉ share)
      (hslash : '/' ∉ machine ++ share) :
      IsDrive (mark ++ '\\' :: machine ++ '\\' :: share) .single

theorem isDrive_of_share {text mark tail machine share rest : List Char} (h : '/' ∉ text)
    (hextended : splitExtended text = (mark, tail))
    (hshare : splitShare? tail = some (machine, share, rest)) :
  IsDrive (splitWindows text).1 (splitWindows text).2.1
  := by
  rw [splitWindows_of_share hextended hshare]
  obtain ⟨⟨hnil, hmachine, hbody⟩, after, htail, -⟩ := splitShare?_eq_some hshare
  -- whatever the mark, the text goes on with machine and share
  have hslash : (∃ before, text = before ++ (machine ++ '\\' :: (share ++ after))) →
      '/' ∉ machine ++ share := by
    rintro ⟨before, rfl⟩ hmem
    apply h
    simp only [List.mem_append, List.mem_cons] at hmem ⊢
    tauto
  obtain ⟨rest', rfl, hrest⟩ | ⟨rest', rfl, hrest⟩ | ⟨hmark, hrest⟩ := splitExtended_cases text
  · obtain ⟨rfl, rfl⟩ := Prod.mk.inj (hextended.symm.trans hrest)
    obtain rfl : rest' = machine ++ '\\' :: (share ++ after) := by simpa using htail
    apply IsDrive.share (Or.inr (Or.inr rfl)) hnil hmachine hbody
    apply hslash
    use networkMark ++ ['\\']
    simp
  · obtain ⟨rfl, rfl⟩ := Prod.mk.inj (hextended.symm.trans hrest)
    obtain rfl := htail
    apply IsDrive.share (Or.inr (Or.inl rfl)) hnil hmachine hbody
    apply hslash
    use extendedMark ++ ['\\', '\\']
    simp
  · obtain ⟨rfl, rfl⟩ := Prod.mk.inj (hextended.symm.trans hrest)
    obtain rfl := htail
    refine IsDrive.share (Or.inl ⟨rfl, ?_⟩) hnil hmachine hbody ?_
    · rintro rfl
      apply hmark
      use share ++ after
      rfl
    · apply hslash
      use ['\\', '\\']
      simp

theorem isDrive_of_no_share {text mark tail : List Char}
    (hextended : splitExtended text = (mark, tail)) (hshare : splitShare? tail = none) :
  IsDrive (splitWindows text).1 (splitWindows text).2.1
  := by
  rw [splitWindows_of_no_share hextended hshare]
  have hroot : ∀ rest : List Char,
      (if rest.head? = some '\\' then Root.single else .relative) = .relative
        ∨ (if rest.head? = some '\\' then Root.single else .relative) = .single := by
    intro rest
    split
    · right
      rfl
    · left
      rfl
  obtain ⟨rest, -, hrest⟩ | ⟨rest, -, hrest⟩ | ⟨-, hrest⟩ := splitExtended_cases text
  · obtain ⟨rfl, rfl⟩ := Prod.mk.inj (hextended.symm.trans hrest)
    apply IsDrive.network
  · obtain ⟨rfl, rfl⟩ := Prod.mk.inj (hextended.symm.trans hrest)
    apply IsDrive.letter (Or.inr rfl) (exists_letter _) (hroot _)
  · obtain ⟨rfl, rfl⟩ := Prod.mk.inj (hextended.symm.trans hrest)
    apply IsDrive.letter (Or.inl rfl) (exists_letter _) (hroot _)

/-- Reading a text gives one of the drives. -/
theorem isDrive_splitWindows {text : List Char} (h : '/' ∉ text) :
  IsDrive (splitWindows text).1 (splitWindows text).2.1
  := by
  obtain ⟨mark, tail, hextended⟩ : ∃ mark tail, splitExtended text = (mark, tail) :=
    ⟨_, _, rfl⟩
  cases hshare : splitShare? tail with
  | none => apply isDrive_of_no_share hextended hshare
  | some found => apply isDrive_of_share h hextended hshare

/-! ### Drives that are read again -/

/-- Whether a drive with its root is read as itself: its share is not empty, and it does not
follow the mark of extended paths directly. -/
def IsSettled (drive : List Char) : Prop :=
  (drive.getLast? = some '\\' → drive = extendedMark)
    ∧ ¬ extendedMark ++ ['\\'] <+: drive

instance (drive : List Char) : Decidable (IsSettled drive) :=
  inferInstanceAs (Decidable (_ ∧ _))

theorem splitWindows_letter {mark drive : List Char} {root : Root}
    (hmark : mark = [] ∨ mark = extendedMark)
    (hletter : drive = [] ∨ ∃ c, c.isAlpha = true ∧ drive = [c, ':'])
    (hroot : root = .relative ∨ root = .single) :
  splitWindows (mark ++ drive ++ root.text .windows) = (mark ++ drive, root, [])
  := by
  obtain rfl | ⟨c, hc, rfl⟩ := hletter
  · obtain rfl | rfl := hmark <;> obtain rfl | rfl := hroot <;> rfl
  · have hne : c ≠ '\\' := ne_of_isAlpha hc rfl
    have hextended : splitExtended (mark ++ [c, ':'] ++ root.text .windows)
        = (mark, c :: ':' :: root.text .windows) := by
      rw [List.append_assoc]
      obtain rfl | rfl := hmark
      · apply splitExtended_of_not_startsWith
        simp [extendedMark, Ne.symm hne]
      · apply splitExtended_extendedMark
        simp
    have hshare : splitShare? (c :: ':' :: root.text .windows) = none := by
      apply splitShare?_eq_none
      simp [Ne.symm hne]
    rw [splitWindows_of_no_share hextended hshare, splitLetter, if_pos hc]
    obtain rfl | rfl := hroot <;> rfl

theorem splitLetter_separator (rest : List Char) :
  splitLetter ('\\' :: rest) = ([], '\\' :: rest)
  := by
  obtain ⟨c, rest', hc, htext, -⟩ | h := splitLetter_cases ('\\' :: rest)
  · obtain ⟨rfl, -⟩ := List.cons_eq_cons.mp htext
    simp at hc
  · exact h

theorem not_startsWith_extendedMark {machine : List Char} (h : '\\' ∉ machine)
    (hne : machine ≠ ['?']) (tail : List Char) :
  ¬ extendedMark <+: '\\' :: '\\' :: machine ++ '\\' :: tail
  := by
  rintro ⟨rest, htext⟩
  match machine with
  | [] => simp [extendedMark] at htext
  | [c] =>
    apply hne
    simp only [extendedMark, List.cons_append, List.cons.injEq] at htext
    rw [htext.2.2.1]
  | c :: c' :: machine =>
    simp only [extendedMark, List.cons_append, List.cons.injEq] at htext
    simp [← htext.2.2.2.1] at h

/-- A machine and a share that is not empty are read again. -/
theorem splitWindows_share {mark machine share : List Char}
    (hmark : mark = ['\\'] ∧ machine ≠ ['?'] ∨ mark = networkMark)
    (hnil : machine ≠ []) (hmachine : '\\' ∉ machine) (hshare : '\\' ∉ share)
    (hshare' : share ≠ []) :
  splitWindows (mark ++ '\\' :: machine ++ '\\' :: share ++ ['\\'])
    = (mark ++ '\\' :: machine ++ '\\' :: share, .single, [])
  := by
  have hread : splitShare? ('\\' :: '\\' :: machine ++ '\\' :: (share ++ ['\\']))
      = some (machine, share, []) := by
    obtain ⟨htake, hdrop⟩ := takeWhile_append_of_separator_not_mem hshare []
    rw [splitShare?_append hnil hmachine,
      if_neg (head?_append_ne_separator hshare' hshare _), htake, hdrop]
    rfl
  obtain ⟨rfl, hne⟩ | rfl := hmark
  · have hextended : splitExtended ('\\' :: '\\' :: machine ++ '\\' :: (share ++ ['\\'])) = _ :=
      splitExtended_of_not_startsWith (not_startsWith_extendedMark hmachine hne _)
    simpa using splitWindows_of_share hextended hread
  · have hextended : splitExtended (networkMark ++ '\\' :: (machine ++ '\\' :: (share ++ ['\\'])))
        = (networkMark, '\\' :: '\\' :: machine ++ '\\' :: (share ++ ['\\'])) := rfl
    simpa [networkMark] using splitWindows_of_share hextended hread

/-- A machine whose share is empty is not read again. -/
theorem splitWindows_machine {mark machine : List Char}
    (hmark : mark = ['\\'] ∧ machine ≠ ['?'] ∨ mark = networkMark)
    (hnil : machine ≠ []) (hmachine : '\\' ∉ machine) :
  ∃ shorter rest, splitWindows (mark ++ '\\' :: machine ++ ['\\'] ++ ['\\'])
      = (shorter, .single, rest)
    ∧ (shorter = [] ∨ shorter = extendedMark ∨ shorter = networkMark)
    ∧ shorter.length ≤ mark.length
  := by
  have hread : splitShare? ('\\' :: '\\' :: machine ++ '\\' :: ['\\']) = none := by
    rw [splitShare?_append hnil hmachine]
    rfl
  obtain ⟨rfl, hne⟩ | rfl := hmark
  · have hextended : splitExtended ('\\' :: '\\' :: machine ++ '\\' :: ['\\']) = _ :=
      splitExtended_of_not_startsWith (not_startsWith_extendedMark hmachine hne _)
    have hsplit := splitWindows_of_no_share hextended hread
    rw [List.cons_append, splitLetter_separator] at hsplit
    exact ⟨[], _, by simpa using hsplit, Or.inl rfl, Nat.zero_le _⟩
  · have hextended : splitExtended (networkMark ++ '\\' :: (machine ++ '\\' :: ['\\']))
        = (networkMark, '\\' :: '\\' :: machine ++ '\\' :: ['\\']) := rfl
    have hsplit := splitWindows_of_no_share hextended hread
    rw [List.cons_append, splitLetter_separator] at hsplit
    exact ⟨networkMark, _, by simpa using hsplit, Or.inr (Or.inr rfl), Nat.le_refl _⟩

/-- Machine and share are not read again where they follow the mark of extended paths. -/
theorem splitWindows_extended_share {machine : List Char} (hnil : machine ≠ [])
    (hmachine : '\\' ∉ machine) (tail : List Char) :
  ∃ rest, splitWindows (extendedMark ++ '\\' :: machine ++ tail) = (extendedMark, .single, rest)
  := by
  have hextended : splitExtended (extendedMark ++ '\\' :: (machine ++ tail))
      = (extendedMark, '\\' :: (machine ++ tail)) := rfl
  have hread : splitShare? ('\\' :: (machine ++ tail)) = none := by
    obtain ⟨c, machine, rfl⟩ := List.exists_cons_of_ne_nil hnil
    apply splitShare?_eq_none
    simp [List.ne_of_not_mem_cons hmachine]
  have hsplit := splitWindows_of_no_share hextended hread
  rw [splitLetter_separator] at hsplit
  use ('\\' :: (machine ++ tail)).dropWhile (· == '\\')
  simpa using hsplit

theorem isSettled_letter {mark drive : List Char} (hmark : mark = [] ∨ mark = extendedMark)
    (hletter : drive = [] ∨ ∃ c, c.isAlpha = true ∧ drive = [c, ':']) :
  IsSettled (mark ++ drive)
  := by
  obtain rfl | ⟨c, hc, rfl⟩ := hletter
  · obtain rfl | rfl := hmark <;> simp [IsSettled, extendedMark]
  · have hne : c ≠ '\\' := ne_of_isAlpha hc rfl
    obtain rfl | rfl := hmark <;> simp [IsSettled, extendedMark, Ne.symm hne]

/-- A machine and a share are settled when the share is not empty and no mark but that of
network shares stands before them. -/
theorem isSettled_share_iff {mark machine share : List Char}
    (hmark : mark = ['\\'] ∧ machine ≠ ['?'] ∨ mark = extendedMark ∨ mark = networkMark)
    (hmachine : '\\' ∉ machine) (hshare : '\\' ∉ share) :
  IsSettled (mark ++ '\\' :: machine ++ '\\' :: share) ↔ mark ≠ extendedMark ∧ share ≠ []
  := by
  constructor
  · rintro ⟨hlast, hstart⟩
    constructor
    · rintro rfl
      apply hstart
      use machine ++ '\\' :: share
      simp
    · rintro rfl
      have hdrive := hlast List.getLast?_concat
      obtain ⟨rfl, hne⟩ | rfl | rfl := hmark
      · apply not_startsWith_extendedMark hmachine hne []
        rw [← hdrive]
        apply List.prefix_rfl
      · simp at hdrive
      · simp [networkMark, extendedMark] at hdrive
  · rintro ⟨hextended, hnil⟩
    constructor
    · intro hlast
      have hend := List.getLast?_eq_some_getLast hnil
      rw [List.getLast?_append, List.getLast?_cons_of_ne_nil hnil, hend, Option.some_or,
        Option.some.injEq] at hlast
      have hmem := List.mem_of_getLast? hend
      rw [hlast] at hmem
      exact absurd hmem hshare
    · obtain ⟨rfl, hne⟩ | rfl | rfl := hmark
      · intro hstart
        apply not_startsWith_extendedMark hmachine hne share
        apply (List.prefix_append _ _).trans hstart
      · contradiction
      · simp [networkMark, extendedMark]

/-- A settled drive is read again with its root. -/
theorem splitWindows_of_isSettled {drive : List Char} {root : Root} (h : IsDrive drive root)
    (hsettled : IsSettled drive) :
  splitWindows (drive ++ root.text .windows) = (drive, root, [])
  := by
  cases h with
  | letter hmark hletter hroot => apply splitWindows_letter hmark hletter hroot
  | network => rfl
  | share hmark hnil hmachine hshare hslash =>
    obtain ⟨hextended, hshare'⟩ := (isSettled_share_iff hmark hmachine hshare).mp hsettled
    apply splitWindows_share _ hnil hmachine hshare hshare'
    tauto

/-- In place of any other drive a shorter one is read. -/
theorem exists_shorter_of_not_isSettled {drive : List Char} {root : Root}
    (h : IsDrive drive root) (hsettled : ¬ IsSettled drive) :
  root = .single
    ∧ ∃ shorter rest, splitWindows (drive ++ ['\\']) = (shorter, .single, rest)
      ∧ (shorter = [] ∨ shorter = extendedMark ∨ shorter = networkMark)
      ∧ shorter.length < drive.length
  := by
  cases h with
  | letter hmark hletter hroot => exact absurd (isSettled_letter hmark hletter) hsettled
  | network => exact absurd (by simp [IsSettled, networkMark, extendedMark]) hsettled
  | @share mark machine share hmark hnil hmachine hshare hslash =>
    refine ⟨rfl, ?_⟩
    by_cases hextended : mark = extendedMark
    · obtain rfl := hextended
      obtain ⟨rest, hsplit⟩ :=
        splitWindows_extended_share hnil hmachine ('\\' :: share ++ ['\\'])
      refine ⟨extendedMark, rest, ?_, Or.inr (Or.inl rfl), ?_⟩
      · simpa using hsplit
      · simp
    · obtain rfl : share = [] := by
        by_contra hshare'
        exact hsettled ((isSettled_share_iff hmark hmachine hshare).mpr ⟨hextended, hshare'⟩)
      obtain ⟨shorter, rest, hsplit, hshorter, hlength⟩ :=
        splitWindows_machine (by tauto) hnil hmachine
      refine ⟨shorter, rest, hsplit, hshorter, ?_⟩
      apply Nat.lt_of_le_of_lt hlength
      simp

/-! ### What is left of a text -/

theorem splitExtended_subset (text : List Char) :
  (splitExtended text).2 ⊆ text
  := by
  intro c hc
  obtain ⟨rest, rfl, hrest⟩ | ⟨rest, rfl, hrest⟩ | ⟨-, hrest⟩ := splitExtended_cases text
  · rw [hrest] at hc
    simp only [networkMark, extendedMark, List.mem_append, List.mem_cons] at hc ⊢
    tauto
  · rw [hrest] at hc
    apply List.mem_append_right _ hc
  · rw [hrest] at hc
    exact hc

theorem splitLetter_subset (text : List Char) :
  (splitLetter text).2 ⊆ text
  := by
  intro c hc
  obtain ⟨c', rest, -, rfl, hrest⟩ | hrest := splitLetter_cases text
  · rw [hrest] at hc
    apply List.mem_cons_of_mem _ (List.mem_cons_of_mem _ hc)
  · rw [hrest] at hc
    exact hc

theorem splitWindows_subset (text : List Char) :
  (splitWindows text).2.2 ⊆ text
  := by
  obtain ⟨mark, tail, hextended⟩ : ∃ mark tail, splitExtended text = (mark, tail) :=
    ⟨_, _, rfl⟩
  have htail := splitExtended_subset text
  rw [hextended] at htail
  cases hshare : splitShare? tail with
  | none =>
    rw [splitWindows_of_no_share hextended hshare]
    exact fun c hc =>
      htail (splitLetter_subset tail ((List.dropWhile_sublist _).subset hc))
  | some found =>
    obtain ⟨machine, share, rest⟩ := found
    rw [splitWindows_of_share hextended hshare]
    intro c hc
    apply htail
    obtain ⟨-, after, rfl, ⟨rfl, rfl⟩ | ⟨rfl, -⟩⟩ := splitShare?_eq_some hshare
    · simp at hc
    · simp only [List.mem_append, List.mem_cons] at hc ⊢
      tauto

end Diagnostics
