import Diagnostics.Text.Split
import Mathlib.Tactic.Common

/-!
# Segments of longer texts

A separator between two texts parts their segments, `split_append`, so ended segments that do not
mention the separator are found again in front of what follows them, `split_flatMap_append`.
Separators at the front of a text only make empty segments there.
-/

namespace Diagnostics.Text

variable {sep : Char}

/-! ### Splitting -/

/-- A separator between two texts stands between their segments. -/
theorem split_append (sep : Char) (before after : List Char) :
  split sep (before ++ sep :: after) = split sep before ++ split sep after
  := by
  induction before with
  | nil => simp [split]
  | cons c before ih =>
    rw [List.cons_append, split, split, ih]
    split
    · rfl
    · obtain ⟨first, segments, hs⟩ := List.exists_cons_of_ne_nil (split_ne_nil sep before)
      rw [hs]
      rfl

/-- A text without the separator is a single segment. -/
theorem split_of_not_mem {text : List Char} (h : sep ∉ text) :
  split sep text = [text]
  := by
  induction text with
  | nil => rfl
  | cons c text ih =>
    have hc := List.ne_of_not_mem_cons h
    rw [split, if_neg (Ne.symm hc), ih (List.not_mem_of_not_mem_cons h)]
    rfl

theorem split_append_cons {segment : List Char} (h : sep ∉ segment) (rest : List Char) :
  split sep (segment ++ sep :: rest) = segment :: split sep rest
  := by
  rw [split_append, split_of_not_mem h, List.singleton_append]

/-- The segments of a text after some ended ones. -/
theorem split_flatMap_append {segments : List (List Char)}
    (h : ∀ segment ∈ segments, sep ∉ segment) (rest : List Char) :
  split sep (segments.flatMap (· ++ [sep]) ++ rest) = segments ++ split sep rest
  := by
  induction segments with
  | nil => rfl
  | cons segment segments ih =>
    obtain ⟨hsegment, hsegments⟩ := List.forall_mem_cons.mp h
    rw [List.flatMap_cons, List.append_assoc, List.append_assoc, List.singleton_append,
      split_append_cons hsegment, ih hsegments, List.cons_append]

/-- The first segment is empty only at the end of the text or before a separator. -/
theorem ne_nil_of_split_eq_cons {text segment : List Char} {segments : List (List Char)}
    (h : split sep text = segment :: segments) (hnil : text ≠ [])
    (hhead : text.head? ≠ some sep) :
  segment ≠ []
  := by
  cases text with
  | nil => exact absurd rfl hnil
  | cons c text =>
    have hc : c ≠ sep := fun hc => hhead (congrArg some hc)
    obtain ⟨first, rest, hfirst⟩ := List.exists_cons_of_ne_nil (split_ne_nil sep text)
    rw [split, if_neg hc, hfirst, List.modifyHead_cons] at h
    obtain ⟨rfl, -⟩ := List.cons_eq_cons.mp h
    apply List.cons_ne_nil

/-- The segments of a text whose characters are replaced by others that can be told apart. -/
theorem split_map {α β : Type} [DecidableEq α] [DecidableEq β] {f : α → β}
    (hf : Function.Injective f) (sep : α) (text : List α) :
  split (f sep) (text.map f) = (split sep text).map (List.map f)
  := by
  induction text with
  | nil => rfl
  | cons c text ih =>
    rw [List.map_cons, split, split, ih]
    by_cases hc : c = sep
    · rw [if_pos hc, if_pos (congrArg f hc)]
      rfl
    · rw [if_neg hc, if_neg (fun h => hc (hf h))]
      cases split sep text <;> rfl

theorem takeWhile_eq_nil {text : List Char} (h : text.head? ≠ some sep) :
  text.takeWhile (· == sep) = []
  := by
  cases text with
  | nil => rfl
  | cons c text => simpa [List.takeWhile_cons] using h

/-- Separators at the front make empty segments only. -/
theorem filter_split_dropWhile {p : List Char → Bool} (h : p [] = false) (text : List Char) :
  (split sep (text.dropWhile (· == sep))).filter p = (split sep text).filter p
  := by
  induction text with
  | nil => rfl
  | cons c text ih =>
    by_cases hc : c = sep
    · rw [List.dropWhile_cons_of_pos (by simpa using hc), ih, split, if_pos hc,
        List.filter_cons_of_neg (by simp [h])]
    · rw [List.dropWhile_cons_of_neg (by simpa using hc)]

/-! ### The first segment -/

/-- The first segment ends at the first separator or with the text. -/
theorem head?_split_eq_some_iff {text segment : List Char} :
  (split sep text).head? = some segment
    ↔ sep ∉ segment ∧ (text = segment ∨ segment ++ [sep] <+: text)
  := by
  constructor
  · intro h
    obtain ⟨rest, hsplit⟩ := List.head?_eq_some_iff.mp h
    constructor
    · apply @not_mem_of_mem_split _ _ sep text
      rw [hsplit]
      apply List.mem_cons_self
    · rw [← join_split sep text, hsplit]
      by_cases hrest : rest = []
      · left
        rw [hrest, join]
      · right
        rw [join_cons_cons sep segment hrest]
        use join sep rest
        simp
  · rintro ⟨hsep, rfl | ⟨rest, rfl⟩⟩
    · rw [split_of_not_mem hsep, List.head?_cons]
    · rw [List.append_assoc, List.singleton_append, split_append_cons hsep, List.head?_cons]

/-- Whether a text starts in a given way is told by its first segment. -/
theorem prefix_iff_of_head?_split {text segment start : List Char}
    (h : (split sep text).head? = some segment) (hstart : sep ∉ start) :
  start <+: text ↔ start <+: segment
  := by
  obtain ⟨-, rfl | hsegment⟩ := head?_split_eq_some_iff.mp h
  · rfl
  · constructor
    · intro htext
      obtain hprefix | ⟨rest, rfl⟩ := List.prefix_or_prefix_of_prefix htext hsegment
      · obtain rfl | hprefix := List.prefix_concat_iff.mp hprefix
        · simp at hstart
        · exact hprefix
      · simp at hstart
    · intro hprefix
      apply hprefix.trans ((List.prefix_append _ _).trans hsegment)

/-! ### Joining -/

theorem head?_split_join {segment : List Char} (h : sep ∉ segment)
    (segments : List (List Char)) :
  (split sep (join sep (segment :: segments))).head? = some segment
  := by
  cases segments with
  | nil => rw [join, split_of_not_mem h, List.head?_cons]
  | cons next segments => rw [join, split_append_cons h, List.head?_cons]

/-- Every segment but the first follows a separator. -/
theorem join_cons (sep : Char) (segment : List Char) (segments : List (List Char)) :
  join sep (segment :: segments) = segment ++ segments.flatMap (sep :: ·)
  := by
  induction segments generalizing segment with
  | nil => rw [join, List.flatMap_nil, List.append_nil]
  | cons next segments ih =>
    rw [join_cons_cons sep segment (List.cons_ne_nil _ _), ih, List.flatMap_cons, List.cons_append]

theorem join_concat_nil (sep : Char) (segments : List (List Char)) :
  join sep (segments ++ [[]]) = segments.flatMap (· ++ [sep])
  := by
  induction segments with
  | nil => rfl
  | cons segment segments ih =>
    rw [List.cons_append, join_cons_cons sep segment (by simp), ih, List.flatMap_cons,
      List.append_assoc, List.singleton_append]

/-! ### Characters of segments -/

/-- Joined segments have the characters of the segments, and separators. -/
theorem mem_join_iff {c : Char} {segments : List (List Char)} (h : c ≠ sep) :
  c ∈ join sep segments ↔ ∃ segment ∈ segments, c ∈ segment
  := by
  induction segments with
  | nil => simp [join]
  | cons segment segments ih =>
    cases segments with
    | nil => simp [join]
    | cons next segments =>
      rw [join_cons_cons sep segment (List.cons_ne_nil _ _), List.mem_append, List.mem_cons, ih,
        or_iff_right h]
      simp

theorem exists_mem_split_iff {c : Char} {text : List Char} (h : c ≠ sep) :
  (∃ segment ∈ split sep text, c ∈ segment) ↔ c ∈ text
  := by
  rw [← mem_join_iff h, join_split]

/-- The segments have no characters of their own. -/
theorem mem_of_mem_split {c : Char} {text segment : List Char}
    (h : segment ∈ split sep text) (hc : c ∈ segment) :
  c ∈ text
  := by
  by_cases hsep : c = sep
  · rw [hsep] at hc
    exact absurd hc (not_mem_of_mem_split h)
  · rw [← exists_mem_split_iff hsep]
    use segment

end Diagnostics.Text
