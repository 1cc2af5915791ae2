/-!
# Splitting at a separator

`split sep cs` is the list of the segments of `cs` between the occurrences of `sep`,
empty ones included, so there is one segment more than there are separators.
`join sep ss` writes segments with `sep` between neighbours; it undoes `split`, and
`split` undoes it on a nonempty list of segments that do not mention the separator.
A text is a list of characters here, or of anything else that can be told apart.
-/

namespace Diagnostics.Text

variable {α : Type}

/-- The segments of a text between the occurrences of a separator. -/
def split [DecidableEq α] (sep : α) : List α → List (List α)
  | [] => [[]]
  | c :: cs => if c = sep then [] :: split sep cs else (split sep cs).modifyHead (c :: ·)

/-- Segments written one after the other with a separator between neighbours. -/
def join (sep : α) : List (List α) → List α
  | [] => []
  | [s] => s
  | s :: t :: ss => s ++ sep :: join sep (t :: ss)

theorem split_ne_nil [DecidableEq α] (sep : α) (cs : List α) :
  split sep cs ≠ []
  := by
  induction cs with
  | nil => simp [split]
  | cons c cs ih =>
    by_cases h : c = sep
    · simp [split, h]
    · simp [split, h, ih]

theorem join_cons_cons (sep : α) (s : List α) {ss : List (List α)} (h : ss ≠ []) :
  join sep (s :: ss) = s ++ sep :: join sep ss
  := by
  cases ss with
  | nil => exact absurd rfl h
  | cons t ts => rfl

theorem join_modifyHead_cons (sep c : α) {ss : List (List α)} (h : ss ≠ []) :
  join sep (ss.modifyHead (c :: ·)) = c :: join sep ss
  := by
  match ss, h with
  | [s], _ => rfl
  | s :: t :: ts, _ => rfl

/-- Joining the segments of a text gives the text back. -/
theorem join_split [DecidableEq α] (sep : α) (cs : List α) :
  join sep (split sep cs) = cs
  := by
  induction cs with
  | nil => rfl
  | cons c cs ih =>
    by_cases h : c = sep
    · rw [split, if_pos h, join_cons_cons sep [] (split_ne_nil sep cs), ih, h, List.nil_append]
    · rw [split, if_neg h, join_modifyHead_cons sep c (split_ne_nil sep cs), ih]

/-- No segment mentions the separator. -/
theorem not_mem_of_mem_split [DecidableEq α] {sep : α} {cs s : List α} (h : s ∈ split sep cs) :
  sep ∉ s
  := by
  induction cs generalizing s with
  | nil => simp_all [split]
  | cons c cs ih =>
    by_cases hc : c = sep
    · rw [split, if_pos hc] at h
      rcases List.mem_cons.1 h with rfl | h
      · simp
      · exact ih h
    · rw [split, if_neg hc] at h
      match hs : split sep cs, split_ne_nil sep cs with
      | t :: ts, _ =>
        rw [hs, List.modifyHead_cons] at h
        rcases List.mem_cons.1 h with rfl | h
        · have ht := @ih t (by simp [hs])
          simp [ht, Ne.symm hc]
        · exact ih (by simp [hs, h])

end Diagnostics.Text
