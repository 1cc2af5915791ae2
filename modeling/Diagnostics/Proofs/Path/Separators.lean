import Diagnostics.Proofs.Path.Copy

/-!
# Windows paths displayed with slashes

A Windows path with neither a drive nor a root of two separators is displayed like the POSIX path
whose text has a slash for every backslash, and no Windows path is displayed with a backslash:
`Path.display_ofText_windows`.
-/

namespace Diagnostics

/-! ### Separators of both flavours -/

/-- Whether a character separates names by the Windows rules. -/
def isSeparator (c : Char) : Bool :=
  c = '/' ∨ c = '\\'

/-- A text with a slash for every backslash. -/
def slashed (text : List Char) : List Char :=
  text.map (fun c => if c = '\\' then '/' else c)

/-- The separators of a text part it in the same places, whichever of them is written for all. -/
theorem split_backslashed (text : List Char) :
  Text.split '\\' (backslashed text) = Text.split '/' (slashed text)
  := by
  induction text with
  | nil => rfl
  | cons c text ih =>
    rw [backslashed, slashed, List.map_cons, List.map_cons, ← backslashed, ← slashed, Text.split,
      Text.split, ih]
    by_cases hslash : c = '/'
    · simp [hslash]
    · by_cases hbackslash : c = '\\'
      · simp [hbackslash]
      · simp [hslash, hbackslash]

theorem names_backslashed (text : List Char) :
  Text.names '\\' (backslashed text) = Text.names '/' (slashed text)
  := by
  rw [Text.names, split_backslashed]
  rfl

theorem head?_backslashed_iff {text : List Char} :
  (backslashed text).head? = some '\\' ↔ (slashed text).head? = some '/'
  := by
  cases text with
  | nil => simp [backslashed, slashed]
  | cons c text =>
    by_cases hslash : c = '/'
    · simp [backslashed, slashed, hslash]
    · by_cases hbackslash : c = '\\'
      · simp [backslashed, slashed, hbackslash]
      · simp [backslashed, slashed, hslash, hbackslash]

theorem length_takeWhile_backslashed (text : List Char) :
  ((backslashed text).takeWhile (· == '\\')).length = (text.takeWhile isSeparator).length
  := by
  have hseparator : (fun c : Char => (if c = '/' then '\\' else c) == '\\') = isSeparator := by
    funext c
    by_cases hslash : c = '/'
    · simp [isSeparator, hslash]
    · rw [if_neg hslash, Bool.beq_eq_decide_eq]
      simp [isSeparator, hslash]
  rw [backslashed, List.takeWhile_map, List.length_map, ← hseparator]
  rfl

/-- No other character is written as one that is no backslash. -/
theorem eq_of_backslashed {c d : Char} (h : (if c = '/' then '\\' else c) = d) (hd : d ≠ '\\') :
  c = d
  := by
  split at h
  · exact absurd h.symm hd
  · exact h

/-- A letter and a colon start a text whichever separators it has. -/
theorem splitLetter_backslashed {text : List Char}
    (h : ¬ ∃ c rest, c.isAlpha = true ∧ text = c :: ':' :: rest) :
  splitLetter (backslashed text) = ([], backslashed text)
  := by
  obtain ⟨c, rest, hc, htext, -⟩ | hsplit := splitLetter_cases (backslashed text)
  · obtain ⟨letter, tail, rfl, hletter, htail⟩ := List.map_eq_cons_iff.mp htext
    obtain ⟨colon, _, rfl, hcolon, -⟩ := List.map_eq_cons_iff.mp htail
    obtain rfl := eq_of_backslashed hletter (ne_of_isAlpha hc rfl)
    obtain rfl := eq_of_backslashed hcolon (by decide)
    exact absurd ⟨_, _, hc, rfl⟩ h
  · exact hsplit

/-! ### Texts without a drive -/

/-- A text that starts with neither a letter and a colon nor exactly two separators has no drive. -/
theorem splitWindows_of_no_drive {text : List Char} (hletter : splitLetter text = ([], text))
    (hseparators : (text.takeWhile (· == '\\')).length ≠ 2) :
  splitWindows text
    = ([], if text.head? = some '\\' then .single else .relative, text.dropWhile (· == '\\'))
  := by
  have hextended : splitExtended text = ([], text) := by
    apply splitExtended_of_not_startsWith
    rintro ⟨rest, rfl⟩
    apply hseparators
    rfl
  have hshare : splitShare? text = none := by
    by_cases htwo : ['\\', '\\'] <+: text
    · obtain ⟨body, rfl⟩ := htwo
      have hbody : body.head? = some '\\' := by
        by_contra hbody
        apply hseparators
        simp [Text.takeWhile_eq_nil hbody]
      simp [splitShare?, hbody]
    · apply splitShare?_eq_none htwo
  rw [splitWindows_of_no_share hextended hshare, hletter]
  rfl

theorem Parts.parse_windows_of_no_drive {text : List Char}
    (hletter : ¬ ∃ c rest, c.isAlpha = true ∧ text = c :: ':' :: rest)
    (hseparators : (text.takeWhile isSeparator).length ≠ 2) :
  parse .windows text
    = ⟨[], if (slashed text).head? = some '/' then .single else .relative,
      Text.names '/' (slashed text)⟩
  := by
  rw [← length_takeWhile_backslashed] at hseparators
  rw [parse_windows, splitWindows_of_no_drive (splitLetter_backslashed hletter) hseparators,
    ← names_backslashed]
  simp only [head?_backslashed_iff, Text.names_dropWhile]

/-! ### Display -/

namespace Path

/-- Paths of any flavour that are both rooted or both relative have the same components when their
drives and names are the same. -/
theorem components_congr {f g : Flavour} {drive : List Char} {root root' : Root}
    {names : List (List Char)} (h : root = .relative ↔ root' = .relative) :
  (parsed f ⟨drive, root, names⟩).components = (parsed g ⟨drive, root', names⟩).components
  := by
  have hroot : (if root ≠ .relative then [Component.root] else [])
      = if root' ≠ .relative then [Component.root] else [] := if_congr (not_congr h) rfl rfl
  rw [components_parsed, components_parsed, hroot]

/-- No name of a Windows path has a backslash, and nothing else brings one into its display. -/
theorem backslash_not_mem_display (text : String) :
  '\\' ∉ (ofText .windows text).display.toList
  := by
  rw [← List.count_eq_zero, ofText, count_display (by decide), List.count_eq_zero]
  intro hmem
  obtain ⟨name, hname, hbackslash⟩ := List.mem_flatten.mp hmem
  exact (Parts.isName_of_mem_names hname).separator_not_mem hbackslash

/-- A Windows path that starts with neither a letter and a colon nor exactly two separators is
displayed like the POSIX path whose text has a slash for every backslash. No Windows path is
displayed with a backslash. -/
theorem display_ofText_windows (text : String) :
  ((¬ ∃ c rest, c.isAlpha = true ∧ text.toList = c :: ':' :: rest) →
      (text.toList.takeWhile isSeparator).length ≠ 2 →
      (ofText .windows text).display
        = (ofText .posix (String.ofList (slashed text.toList))).display)
    ∧ '\\' ∉ (ofText .windows text).display.toList
  := by
  refine ⟨?_, backslash_not_mem_display text⟩
  intro hletter hseparators
  have hposix := Parts.parse_posix (slashed text.toList)
  have hwindows := Parts.parse_windows_of_no_drive hletter hseparators
  have hroot : (if (slashed text.toList).head? = some '/' then Root.single else .relative)
        = .relative
      ↔ (splitPosix (slashed text.toList)).1 = .relative := by
    rw [splitPosix_eq_relative_iff]
    simp
  rw [display, display, ofText, ofText, String.toList_ofList, hposix, hwindows]
  exact congrArg Component.format (components_congr hroot)

/-- A path with three separators of both kinds in front, and with names that start like a drive and
like the directory above. -/
theorem display_ofText_windows_mixed :
  let text := "\\/\\src\\./C:x//..\\a b\\"
  (¬ ∃ c rest, c.isAlpha = true ∧ text.toList = c :: ':' :: rest)
    ∧ (text.toList.takeWhile isSeparator).length ≠ 2
    ∧ (ofText .windows text).display = (ofText .posix "///src/./C:x//../a b/").display
  := by
  intro text
  have hletter : ¬ ∃ c rest, c.isAlpha = true ∧ text.toList = c :: ':' :: rest := by
    rintro ⟨c, rest, -, htext⟩
    simp [text] at htext
  have hseparators : (text.toList.takeWhile isSeparator).length ≠ 2 := by decide
  have hdisplay := (display_ofText_windows text).1 hletter hseparators
  have hslashed : String.ofList (slashed text.toList) = "///src/./C:x//../a b/" := by decide
  rw [hslashed] at hdisplay
  exact ⟨hletter, hseparators, hdisplay⟩

end Path

end Diagnostics
