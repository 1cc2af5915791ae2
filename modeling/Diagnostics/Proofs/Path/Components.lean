import Diagnostics.Proofs.Path.Parse
import Mathlib.Data.List.Basic

/-!
# Components of a written path

`Path.spelled` reads the components of a text off its segments between slashes: a root or a point at
its start, and a component for every other segment that is neither empty nor a point. A path as
somebody wrote it has these components unless it starts with a point and a backslash, which is taken
for a point in a segment of its own: `Path.components_written_iff`.
-/

namespace Diagnostics

/-! ### Components of segments -/

/-- The component that a segment stands for, if it stands for one. -/
def Component.ofSegment? (segment : List Char) : Option Component :=
  if segment = [] ∨ segment = ['.'] then none
  else if segment = ['.', '.'] then some parentDir
  else some (normal (String.ofList segment))

/-- The components that a text spells, segment by segment. -/
def Path.spelled (text : String) : List Component :=
  (if text.toList.head? = some '/' then [.root]
    else if (Text.split '/' text.toList).head? = some ['.'] then [.currentDir] else [])
    ++ (Text.split '/' text.toList).filterMap Component.ofSegment?

/-- The texts of components that are no roots. -/
def Component.texts (cs : List Component) : List (List Char) :=
  (cs.filter (fun c => c.kind ≠ .root)).map (fun c => c.text.toList)

namespace Component

/-- The segments that stand for components are the names. -/
theorem filterMap_ofSegment? (segments : List (List Char)) :
  segments.filterMap ofSegment?
    = (segments.filter (fun n => n ≠ [] ∧ n ≠ ['.'])).map ofName
  := by
  induction segments with
  | nil => rfl
  | cons segment segments ih =>
    by_cases h : segment ≠ [] ∧ segment ≠ ['.']
    · have hname : ofSegment? segment = some (ofName segment) := by
        rw [ofSegment?, if_neg (by tauto), ofName]
        split
        · rfl
        · rfl
      rw [List.filterMap_cons_some hname, ih, List.filter_cons_of_pos (by simpa using h),
        List.map_cons]
    · have hnone : ofSegment? segment = none := by
        rw [ofSegment?, if_pos (by tauto)]
      rw [List.filterMap_cons_none hnone, ih, List.filter_cons_of_neg (by simpa using h)]

theorem texts_append (cs cs' : List Component) :
  texts (cs ++ cs') = texts cs ++ texts cs'
  := by
  rw [texts, List.filter_append, List.map_append]
  rfl

theorem texts_map_ofName (names : List (List Char)) :
  texts (names.map ofName) = names
  := by
  induction names with
  | nil => rfl
  | cons n names ih =>
    have hn : texts [ofName n] = [n] := by
      rw [ofName]
      split
      · rename_i h
        rw [h]
        rfl
      · simp [texts, normal]
    rw [List.map_cons, ← List.singleton_append, texts_append, hn, ih, List.singleton_append]

end Component

/-! ### The start of a text -/

namespace Path

theorem startsAtCurrentDir_cases_iff {text : List Char} :
  startsAtCurrentDir text = true
    ↔ text = ['.'] ∨ ['.', '/'] <+: text ∨ ['.', '\\'] <+: text
  := by
  fun_cases startsAtCurrentDir text with
  | case1 => simp
  | case2 c text => simp [@eq_comm _ c]
  | case3 text hpoint hnext =>
    simp only [Bool.false_eq_true, false_iff, not_or]
    refine ⟨hpoint, ?_, ?_⟩
    · rintro ⟨rest, rfl⟩
      exact hnext _ _ rfl
    · rintro ⟨rest, rfl⟩
      exact hnext _ _ rfl

/-- A text starts with a point when its first segment is one, or with a backslash after it. -/
theorem startsAtCurrentDir_iff {text : List Char} :
  startsAtCurrentDir text = true
    ↔ (Text.split '/' text).head? = some ['.'] ∨ ['.', '\\'] <+: text
  := by
  rw [startsAtCurrentDir_cases_iff, Text.head?_split_eq_some_iff, ← or_assoc]
  simp

theorem leading_written (text : String) :
  (written text).leading
    = if (splitPosix text.toList).1 ≠ .relative then [.root]
      else if startsAtCurrentDir text.toList then [.currentDir] else []
  := by
  simp only [leading, parts, Parts.parse_posix, if_pos, List.nil_append]

/-- The components of a path as it was written: those that its text spells, after a point where the
text starts with a point and a backslash. -/
theorem components_written (text : String) :
  (written text).components
    = (if ['.', '\\'] <+: text.toList then [.currentDir] else []) ++ spelled text
  := by
  have hstart : (if (splitPosix text.toList).1 ≠ .relative then [Component.root]
        else if startsAtCurrentDir text.toList then [.currentDir] else [])
      = (if ['.', '\\'] <+: text.toList then [.currentDir] else [])
        ++ if text.toList.head? = some '/' then [.root]
          else if (Text.split '/' text.toList).head? = some ['.'] then [.currentDir] else [] := by
    by_cases hroot : text.toList.head? = some '/'
    · have hpoint : ¬ ['.', '\\'] <+: text.toList := by
        rintro ⟨rest, hrest⟩
        rw [← hrest] at hroot
        simp at hroot
      rw [if_pos (by simpa [splitPosix_eq_relative_iff] using hroot), if_neg hpoint, if_pos hroot,
        List.nil_append]
    · rw [if_neg (by simpa [splitPosix_eq_relative_iff] using hroot), if_neg hroot]
      by_cases hpoint : ['.', '\\'] <+: text.toList
      · have hsegment : (Text.split '/' text.toList).head? ≠ some ['.'] := by
          intro hsegment
          rw [Text.prefix_iff_of_head?_split hsegment (by decide)] at hpoint
          revert hpoint
          decide
        rw [if_pos (startsAtCurrentDir_iff.mpr (Or.inr hpoint)), if_pos hpoint, if_neg hsegment,
          List.append_nil]
      · rw [if_neg hpoint, List.nil_append]
        simp only [startsAtCurrentDir_iff, hpoint, or_false]
  rw [spelled, ← List.append_assoc, ← hstart, Component.filterMap_ofSegment?, components,
    leading_written, parts, Parts.parse_posix]
  rfl

/-! ### Segments that were written -/

/-- The names of a text are texts of the components it spells, after at most a point. -/
theorem texts_spelled (text : String) :
  Component.texts (spelled text)
    = Component.texts (if text.toList.head? = some '/' then [.root]
        else if (Text.split '/' text.toList).head? = some ['.'] then [.currentDir] else [])
      ++ Text.names '/' text.toList
  := by
  rw [spelled, Component.texts_append, Component.filterMap_ofSegment?, Component.texts_map_ofName]
  rfl

/-- Apart from a root, the components that a text spells are some of its segments in order. -/
theorem texts_spelled_sublist (text : String) :
  (Component.texts (spelled text)).Sublist (Text.split '/' text.toList)
  := by
  rw [texts_spelled, Text.names]
  split
  · apply List.filter_sublist
  · split
    · rename_i hpoint
      obtain ⟨rest, hsplit⟩ := List.head?_eq_some_iff.mp hpoint
      rw [hsplit, List.filter_cons_of_neg (by simp)]
      apply List.Sublist.cons_cons ['.'] List.filter_sublist
    · apply List.filter_sublist

/-- No other point can stand before a name that starts with a point and a backslash. -/
theorem not_sublist_of_point {text : List Char} (h : ['.', '\\'] <+: text) :
  ¬ (['.'] :: Text.names '/' text).Sublist (Text.split '/' text)
  := by
  obtain ⟨first, rest, hsplit⟩ := List.exists_cons_of_ne_nil (Text.split_ne_nil '/' text)
  have hhead : (Text.split '/' text).head? = some first := by
    rw [hsplit, List.head?_cons]
  obtain ⟨tail, rfl⟩ := (Text.prefix_iff_of_head?_split hhead (by decide)).mp h
  intro hsublist
  have hnames : Text.names '/' text
      = (['.', '\\'] ++ tail) :: rest.filter (fun n => n ≠ [] ∧ n ≠ ['.']) := by
    rw [Text.names, hsplit, List.filter_cons_of_pos (by simp)]
  rw [hsplit] at hsublist
  -- the point is not the first segment, so the names are found among the others
  have hrest : (Text.names '/' text).Sublist rest :=
    List.sublist_of_cons_sublist (hsublist.of_cons_of_ne (by simp))
  have hfilter := (hrest.filter (fun n => n ≠ [] ∧ n ≠ ['.'])).length_le
  rw [hnames, List.filter_cons_of_pos (by simp), List.filter_filter, List.length_cons] at hfilter
  simp only [Bool.and_self] at hfilter
  exact Nat.not_succ_le_self _ hfilter

/-- The components are those that the text spells, and apart from a root they are some of its
segments in order, exactly when the text does not start with a point and a backslash. -/
theorem components_written_iff (text : String) :
  ((written text).components = spelled text ↔ ¬ ['.', '\\'] <+: text.toList)
    ∧ ((Component.texts (written text).components).Sublist (Text.split '/' text.toList)
      ↔ ¬ ['.', '\\'] <+: text.toList)
  := by
  rw [components_written]
  by_cases hpoint : ['.', '\\'] <+: text.toList
  · rw [if_pos hpoint]
    constructor
    · simp [hpoint]
    · rw [Component.texts_append, texts_spelled]
      simp only [hpoint, not_true_eq_false, iff_false]
      intro hsublist
      apply not_sublist_of_point hpoint
      apply List.Sublist.trans _ hsublist
      apply List.Sublist.cons_cons ['.'] (List.sublist_append_right _ _)
  · rw [if_neg hpoint, List.nil_append]
    simp [hpoint, texts_spelled_sublist]

/-- A name that starts with a point and a backslash has another point put before it. -/
theorem not_forall_components_written :
  ¬ ∀ text : String, (written text).components = spelled text
  := by
  intro h
  have hname := h ".\\a"
  revert hname
  decide

end Path

end Diagnostics
