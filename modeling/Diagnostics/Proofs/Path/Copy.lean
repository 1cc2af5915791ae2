import Diagnostics.Cache
import Diagnostics.Message.Basic
import Diagnostics.Proofs.Path.Drive
import Diagnostics.Proofs.Path.Format
import Mathlib.Data.List.Induction

/-!
# Copies of paths

A location is made to own its file name by rebuilding the path from its own parts, each
read as a path text again. `Path.IsSettled` says when that gives the same path: always by
the POSIX rules, and by the Windows rules when the drive is read as itself and no name
starts like a drive. In every other case the copy can be told from the original, which
`Location.agrees_toOwned_iff` states of the locations themselves.
-/

namespace Diagnostics

namespace Text

theorem length_pos_lowerChar (c : Char) :
  0 < (lowerChar c).length
  := by
  unfold lowerChar
  split
  · exact Nat.two_pos
  · split
    · exact Nat.one_pos
    · exact Nat.one_pos

theorem length_le_length_lowerAfter (before text : List Char) :
  text.length ≤ (lowerAfter before text).length
  := by
  induction text generalizing before with
  | nil => apply Nat.zero_le
  | cons c text ih =>
    have hc := length_pos_lowerChar c
    have htext := ih (c :: before)
    rw [lowerAfter, List.length_append, List.length_cons]
    split
    · rw [List.length_singleton]
      omega
    · omega

/-- The lower-case form of a text is not shorter. -/
theorem length_le_length_lower (text : List Char) :
  text.length ≤ (lower text).length
  := length_le_length_lowerAfter [] text

end Text

/-! ### Reading by the Windows rules -/

/-- A text with a backslash for every slash. -/
def backslashed (text : List Char) : List Char :=
  text.map (fun c => if c = '/' then '\\' else c)

theorem slash_not_mem_backslashed (text : List Char) :
  '/' ∉ backslashed text
  := by
  intro h
  obtain ⟨c, -, hc⟩ := List.mem_map.mp h
  split at hc
  · simp at hc
  · contradiction

theorem backslashed_eq_self {text : List Char} (h : '/' ∉ text) :
  backslashed text = text
  := by
  conv_rhs => rw [← List.map_id text]
  apply List.map_congr_left
  intro c hc
  rw [if_neg]
  · rfl
  · rintro rfl
    exact h hc

/-- Whether a text can be a name in a Windows path, where a slash is a separator too. -/
structure IsWindowsName (name : List Char) : Prop extends Flavour.windows.IsName name where
  slash_not_mem : '/' ∉ name

namespace Parts

theorem parse_windows (text : List Char) :
  parse .windows text
    = ⟨(splitWindows (backslashed text)).1, (splitWindows (backslashed text)).2.1,
      Text.names '\\' (splitWindows (backslashed text)).2.2⟩
  := rfl

theorem isDrive_parse (text : List Char) :
  IsDrive (parse .windows text).drive (parse .windows text).root
  := isDrive_splitWindows (slash_not_mem_backslashed text)

theorem isWindowsName_of_mem_names {text name : List Char}
    (h : name ∈ (parse .windows text).names) :
  IsWindowsName name
  := by
  refine ⟨isName_of_mem_names h, ?_⟩
  intro hmem
  apply slash_not_mem_backslashed text
  apply splitWindows_subset
  rw [parse_windows] at h
  exact Text.mem_of_mem_split (List.mem_filter.mp h).1 hmem

/-- A name is read as itself after the drive letter it may start with. -/
theorem parse_of_isWindowsName {name : List Char} (h : IsWindowsName name) :
  parse .windows name
    = ⟨(splitLetter name).1, .relative,
      [(splitLetter name).2].filter (fun n => n ≠ [] ∧ n ≠ ['.'])⟩
  := by
  have hseparator : '\\' ∉ (splitLetter name).2 :=
    fun hmem => h.separator_not_mem (splitLetter_subset name hmem)
  have hextended : splitExtended name = ([], name) := by
    apply splitExtended_of_not_startsWith
    rintro ⟨rest, rfl⟩
    apply h.separator_not_mem
    apply List.mem_cons_self
  have hshare : splitShare? name = none := by
    apply splitShare?_eq_none
    rintro ⟨rest, rfl⟩
    apply h.separator_not_mem
    apply List.mem_cons_self
  have hhead : (splitLetter name).2.head? ≠ some '\\' :=
    fun hhead => hseparator (List.mem_of_head? hhead)
  rw [parse_windows, backslashed_eq_self h.slash_not_mem, splitWindows_of_no_share hextended hshare]
  simp only [if_neg hhead, Text.names_dropWhile, List.nil_append]
  rw [Text.names, Text.split_of_not_mem hseparator]

/-- A name that does not start with a drive letter is read as itself. -/
theorem parse_of_splitLetter_eq_nil {name : List Char} (h : IsWindowsName name)
    (hletter : (splitLetter name).1 = []) :
  parse .windows name = ⟨[], .relative, [name]⟩
  := by
  obtain ⟨c, rest, -, -, hsplit⟩ | hsplit := splitLetter_cases name
  · simp [hsplit] at hletter
  · rw [parse_of_isWindowsName h, hsplit]
    simp [h.ne_nil, h.ne_point]

end Parts

/-! ### Parts that are read again -/

/-- Whether parts are read again as themselves. -/
def Parts.IsSettled : Flavour → Parts → Prop
  | .posix, _ => True
  | .windows, p => Diagnostics.IsSettled p.drive ∧ ∀ n ∈ p.names, (splitLetter n).1 = []

theorem IsDrive.slash_not_mem {drive : List Char} {root : Root} (h : IsDrive drive root) :
  '/' ∉ drive
  := by
  cases h with
  | letter hmark hletter hroot =>
    obtain rfl | ⟨c, hc, rfl⟩ := hletter
    · obtain rfl | rfl := hmark <;> simp [extendedMark]
    · have hne : c ≠ '/' := ne_of_isAlpha hc rfl
      obtain rfl | rfl := hmark <;> simp [extendedMark, Ne.symm hne]
  | network => decide
  | share hmark hnil hmachine hshare hslash =>
    rw [List.mem_append, not_or] at hslash
    obtain ⟨rfl, -⟩ | rfl | rfl := hmark <;> simp [networkMark, extendedMark, hslash]

namespace Parts

/-- A Windows path without a drive letter in its names is rebuilt from what its anchor is
read as. -/
theorem reparse_windows {text drive rest : List Char} {root : Root}
    (hnames : ∀ n ∈ (parse .windows text).names, (splitLetter n).1 = [])
    (hsplit : splitWindows ((parse .windows text).anchor .windows) = (drive, root, rest)) :
  (parse .windows text).reparse .windows
    = ⟨drive, root, Text.names '\\' rest ++ (parse .windows text).names⟩
  := by
  have hslash : '/' ∉ (parse .windows text).anchor .windows := by
    have hdrive := (isDrive_parse text).slash_not_mem
    rw [anchor, List.mem_append, not_or]
    refine ⟨hdrive, ?_⟩
    cases (parse .windows text).root <;> decide
  have hself : ∀ n ∈ (parse .windows text).names, parse .windows n = ⟨[], .relative, [n]⟩ := by
    intro n hn
    apply parse_of_splitLetter_eq_nil (isWindowsName_of_mem_names hn) (hnames n hn)
  rw [reparse_of_names hself, parse_windows ((parse .windows text).anchor _),
    backslashed_eq_self hslash, hsplit]

/-- Settled parts are rebuilt as they are. -/
theorem reparse_of_isSettled {f : Flavour} {text : List Char} (h : (parse f text).IsSettled f) :
  (parse f text).reparse f = parse f text
  := by
  cases f with
  | posix =>
    rw [reparse_of_names (fun n hn => (isName_of_mem_names hn).parse_posix)]
    have hanchor : ∀ root : Root, parse .posix (root.text .posix) = ⟨[], root, []⟩ := by
      intro root
      cases root <;> rfl
    have hdrive : (parse .posix text).drive = [] := rfl
    rw [anchor, hdrive, List.nil_append, hanchor, List.nil_append]
    rfl
  | windows =>
    obtain ⟨hdrive, hnames⟩ := h
    rw [reparse_windows hnames (splitWindows_of_isSettled (isDrive_parse text) hdrive)]
    rfl

end Parts

/-! ### Counting colons -/

/-- How many colons there are in names. -/
def colons (names : List (List Char)) : Nat :=
  names.flatten.count ':'

@[simp]
theorem colons_append (names names' : List (List Char)) :
  colons (names ++ names') = colons names + colons names'
  := by
  rw [colons, List.flatten_append, List.count_append]
  rfl

@[simp]
theorem colons_singleton (name : List Char) :
  colons [name] = name.count ':'
  := by
  rw [colons, List.flatten_singleton]

namespace Parts

/-- A name that starts with a drive letter loses its colon when it is read. -/
theorem colons_parse_lt {name : List Char} (h : IsWindowsName name)
    (hletter : (splitLetter name).1 ≠ []) :
  colons (parse .windows name).names < name.count ':'
  := by
  have hrest : colons (parse .windows name).names ≤ (splitLetter name).2.count ':' := by
    rw [parse_of_isWindowsName h, List.filter_cons, List.filter_nil]
    split
    · apply Nat.le_of_eq (colons_singleton _)
    · apply Nat.zero_le
  apply Nat.lt_of_le_of_lt hrest
  obtain ⟨c, rest, hc, rfl, hsplit⟩ | hsplit := splitLetter_cases name
  · have hne : c ≠ ':' := ne_of_isAlpha hc rfl
    simp [hsplit, hne]
  · simp [hsplit] at hletter

/-- The last name that starts with a drive letter replaces what stands before it, so there
is at least one colon less in the names. -/
theorem colons_combine_lt {texts names : List (List Char)}
    (h : ∀ n ∈ names, IsWindowsName n) (hletter : ∃ n ∈ names, (splitLetter n).1 ≠ []) :
  colons (combine .windows (texts ++ names)).names < colons names
  := by
  induction names using List.reverseRecOn with
  | nil => simp at hletter
  | append_singleton names name ih =>
    have hname := h name List.mem_concat_self
    rw [← List.append_assoc, colons_append, colons_singleton]
    by_cases hlast : (splitLetter name).1 = []
    · have hearlier : ∃ n ∈ names, (splitLetter n).1 ≠ [] := by
        obtain ⟨n, hn, hn'⟩ := hletter
        obtain hn | hn := List.mem_append.mp hn
        · use n
        · obtain rfl := List.mem_singleton.mp hn
          contradiction
      have hlt := ih (fun n hn => h n (List.mem_append_left _ hn)) hearlier
      rw [combine_concat_of_relative (parse_of_splitLetter_eq_nil hname hlast)]
      simpa using hlt
    · have hdrive : (parse .windows name).drive ≠ [] := by
        rw [parse_of_isWindowsName hname]
        exact hlast
      rw [combine_concat_of_drive hdrive]
      apply Nat.lt_of_lt_of_le (colons_parse_lt hname hlast)
      apply Nat.le_add_left

theorem colons_reparse_lt {text : List Char}
    (h : ∃ n ∈ (parse .windows text).names, (splitLetter n).1 ≠ []) :
  colons ((parse .windows text).reparse .windows).names < colons (parse .windows text).names
  := by
  obtain ⟨before, hbefore⟩ : ∃ before,
      (parse .windows text).toTexts .windows = before ++ (parse .windows text).names := by
    rw [toTexts]
    split
    · use [(parse .windows text).anchor .windows]
      rfl
    · use []
      rfl
  rw [reparse, hbefore]
  apply colons_combine_lt _ h
  intro n hn
  apply isWindowsName_of_mem_names hn

theorem head?_key {p : Parts} (h : p.root = .single) :
  (p.key .windows).head? = some (Text.lower (p.drive ++ ['\\']))
  := by
  have hanchored : p.isAnchored = true := by simp [isAnchored, h]
  rw [key, toTexts, if_pos hanchored, anchor, h]
  rfl

/-- Parts with a drive that is not read again are rebuilt with a shorter anchor. -/
theorem key_reparse_ne {text : List Char}
    (hnames : ∀ n ∈ (parse .windows text).names, (splitLetter n).1 = [])
    (h : ¬ Diagnostics.IsSettled (parse .windows text).drive) :
  ((parse .windows text).reparse .windows).key .windows ≠ (parse .windows text).key .windows
  := by
  obtain ⟨hroot, shorter, rest, hsplit, hshorter, hlength⟩ :=
    exists_shorter_of_not_isSettled (isDrive_parse text) h
  have hanchor : (parse .windows text).anchor .windows
      = (parse .windows text).drive ++ ['\\'] := by
    rw [anchor, hroot]
    rfl
  rw [reparse_windows hnames (hanchor ▸ hsplit)]
  intro hkey
  -- an anchor is no shorter in lower case, and the shorter ones are not longer either
  have hhead := congrArg List.head? hkey
  rw [head?_key rfl, head?_key hroot, Option.some.injEq] at hhead
  have hshort : (Text.lower (shorter ++ ['\\'])).length = (shorter ++ ['\\']).length := by
    obtain rfl | rfl | rfl := hshorter <;> decide +kernel
  have hlong := Text.length_le_length_lower ((parse .windows text).drive ++ ['\\'])
  rw [← hhead, hshort, List.length_append, List.length_append] at hlong
  omega

end Parts

/-! ### Locations -/

/-- Whether a path is one that rebuilding gives back. -/
def Path.IsSettled : Path → Prop
  | written _ => True
  | parsed f p => p.IsSettled f

instance (f : Flavour) (p : Parts) : Decidable (p.IsSettled f) :=
  match f with
  | .posix => inferInstanceAs (Decidable True)
  | .windows => inferInstanceAs (Decidable (_ ∧ _))

instance (p : Path) : Decidable p.IsSettled :=
  match p with
  | .written _ => inferInstanceAs (Decidable True)
  | .parsed f p => inferInstanceAs (Decidable (p.IsSettled f))

/-- The paths that are made from a text. -/
inductive Path.IsRead : Path → Prop where
  | written (text : String) : IsRead (.written text)
  | ofText (f : Flavour) (text : String) : IsRead (.ofText f text)

/-- Spans that cannot be told apart: by their paths, the sources these name, their display
and their numbers. -/
structure Span.Agrees (s t : Span) : Prop where
  path : s.path.same t.path = true
  text : s.path.text = t.path.text
  source (sources : Sources) : sources.textOf s.path = sources.textOf t.path
  display : s.display = t.display
  line : s.line = t.line
  column : s.column = t.column
  length : s.length = t.length

theorem Path.same_self (p : Path) :
  p.same p = true
  := by
  cases p <;> simp [same]

theorem Span.Agrees.refl (s : Span) :
  s.Agrees s
  where
  path := s.path.same_self
  text := rfl
  source _ := rfl
  display := rfl
  line := rfl
  column := rfl
  length := rfl

theorem Path.copy_of_isSettled {p : Path} (hread : p.IsRead) (h : p.IsSettled) :
  p.copy = p
  := by
  cases hread with
  | written text => rfl
  | ofText f text => exact congrArg (parsed f) (Parts.reparse_of_isSettled h)

/-- A copy of a path that is not settled is another path or is displayed in another way. -/
theorem Path.copy_of_not_isSettled {p : Path} (hread : p.IsRead) (h : ¬ p.IsSettled) :
  p.copy.same p = false ∨ p.copy.display.toList.count ':' < p.display.toList.count ':'
  := by
  cases hread with
  | written text => exact absurd trivial h
  | ofText f text =>
    cases f with
    | posix => exact absurd trivial h
    | windows =>
      by_cases hnames : ∀ n ∈ (Parts.parse .windows text.toList).names, (splitLetter n).1 = []
      · left
        have hkey := Parts.key_reparse_ne hnames (fun hdrive => h ⟨hdrive, hnames⟩)
        simpa [copy, same, ofText] using hkey
      · right
        push Not at hnames
        rw [ofText, copy, count_display (by decide), count_display (by decide)]
        apply Parts.colons_reparse_lt hnames

/-- A location agrees with its own copy, and with the messages made at it, when its path is
settled. -/
theorem Location.agrees_toOwned_iff {s : Span} (h : s.path.IsRead) :
  ((shared s).toOwned.Agrees s
      ∧ ∀ c m, Message.new (shared s) c = .ok m → m.span.Agrees s)
    ↔ s.path.IsSettled
  := by
  constructor
  · rintro ⟨hagrees, -⟩
    by_contra hsettled
    obtain hpath | hdisplay := Path.copy_of_not_isSettled h hsettled
    · rw [show s.path.copy.same s.path = true from hagrees.path] at hpath
      contradiction
    · have hcount := congrArg (fun d => d.toList.count ':') hagrees.display
      simp only [Span.display, toOwned, String.toList_append, List.count_append] at hcount
      omega
  · intro hsettled
    have howned : (shared s).toOwned = s := by
      rw [toOwned, Path.copy_of_isSettled h hsettled]
    constructor
    · rw [howned]
      apply Span.Agrees.refl
    · intro c m hm
      rw [(Message.new_eq_ok_iff.mp hm).1, howned]
      apply Span.Agrees.refl

/-- The copy of a path with a drive letter, a root and two names. -/
theorem Location.agrees_toOwned_drive :
  let s : Span := ⟨.ofText .windows "C:\\src/main.an", 1, 1, 0, Nat.one_pos, Nat.one_pos⟩
  s.path.IsRead ∧ (shared s).toOwned.Agrees s
    ∧ ∀ c m, Message.new (shared s) c = .ok m → m.span.Agrees s
  := by
  refine ⟨.ofText _ _, (agrees_toOwned_iff (.ofText _ _)).mpr ?_⟩
  decide

/-- A name that starts like a drive takes the place of the directory before it. -/
theorem Location.not_forall_agrees_toOwned :
  ¬ ∀ s : Span, s.path.IsRead → (shared s).toOwned.Agrees s
      ∧ ∀ c m, Message.new (shared s) c = .ok m → m.span.Agrees s
  := by
  intro h
  have hagrees :=
    (h ⟨.ofText .windows "a/C:b", 1, 1, 0, Nat.one_pos, Nat.one_pos⟩ (.ofText _ _)).1
  have hdisplay := hagrees.display
  revert hdisplay
  decide

end Diagnostics
