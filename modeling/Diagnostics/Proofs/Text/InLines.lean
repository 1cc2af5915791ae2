import Diagnostics.Proofs.Text.Split
import Diagnostics.Text.Lines

/-!
# Texts of ended lines

A text is `InLines` when it consists of some lines, each of them ended by a line feed and none of
them with a line feed of its own. Texts one after the other consist of the lines of each, and where
all have the same number of lines, those of any one text are found by counting.
-/

namespace Diagnostics.Text

/-- No line has what ends lines. -/
theorem feed_not_mem_of_mem_linesBy {α : Type} [DecidableEq α] {feed ret : α} {text line : List α}
    (h : line ∈ linesBy feed ret text) :
  feed ∉ line
  := by
  obtain ⟨segment, hsegment, rfl⟩ := List.mem_map.mp h
  have hsplit : segment ∈ split feed text := by
    rw [dropFinalEmpty] at hsegment
    split at hsegment
    · apply List.dropLast_subset _ hsegment
    · apply hsegment
  have hfeed := not_mem_of_mem_split hsplit
  rw [dropFinal]
  split
  · intro hline
    apply hfeed (List.dropLast_subset _ hline)
  · apply hfeed

/-! ### Lines -/

/-- Whether a text consists of some lines, each ended by a line feed. -/
def InLines (text : String) (lines : List String) : Prop :=
  split '\n' text.toList = lines.map String.toList ++ [[]]

theorem inLines_nil :
  InLines "" []
  := rfl

/-- The lines end with the only line feeds of the text. -/
theorem inLines_iff {text : String} {lines : List String} :
  InLines text lines ↔
    text = String.join (lines.map (· ++ "\n")) ∧ ∀ line ∈ lines, '\n' ∉ line.toList
  := by
  have hjoin : (String.join (lines.map (· ++ "\n"))).toList
      = (lines.map String.toList).flatMap (· ++ ['\n']) := by
    simp [String.toList_join, List.flatMap_map]
  rw [← String.toList_inj, hjoin]
  constructor
  · intro h
    constructor
    · rw [← join_concat_nil, ← h, join_split]
    · intro line hline
      apply not_mem_of_mem_split
      rw [h]
      apply List.mem_append_left _ (List.mem_map_of_mem hline)
  · rintro ⟨htext, hfeed⟩
    have h := @split_flatMap_append '\n' (lines.map String.toList) (by simpa using hfeed) []
    rw [List.append_nil, ← htext] at h
    apply h

theorem InLines.append {text text' : String} {lines lines' : List String}
    (h : InLines text lines) (h' : InLines text' lines') :
  InLines (text ++ text') (lines ++ lines')
  := by
  rw [inLines_iff] at h h' ⊢
  obtain ⟨rfl, hfeed⟩ := h
  obtain ⟨rfl, hfeed'⟩ := h'
  rw [List.map_append, String.join_append, List.forall_mem_append]
  exact ⟨rfl, hfeed, hfeed'⟩

/-- A line by itself. -/
theorem inLines_singleton {line : String} (h : '\n' ∉ line.toList) :
  InLines (line ++ "\n") [line]
  := by
  rw [inLines_iff]
  simp [h]

/-! ### Blocks -/

/-- A text of some number of lines. -/
structure Block (n : Nat) where
  text : String
  lines : List String
  inLines : InLines text lines
  length_lines : lines.length = n

namespace Block

variable {n : Nat} (blocks : List (Block n))

/-- Texts one after the other consist of the lines of each. -/
theorem inLines_join :
  InLines (String.join (blocks.map text)) (blocks.map lines).flatten
  := by
  induction blocks with
  | nil => apply inLines_nil
  | cons block blocks ih =>
    rw [List.map_cons, List.map_cons, String.join_cons, List.flatten_cons]
    apply block.inLines.append ih

theorem length_flatten :
  (blocks.map lines).flatten.length = n * blocks.length
  := by
  induction blocks with
  | nil => rfl
  | cons block blocks ih =>
    rw [List.map_cons, List.flatten_cons, List.length_append, ih, block.length_lines,
      List.length_cons, Nat.mul_succ, Nat.add_comm]

/-- The lines of a block are found by its number. -/
theorem take_drop_flatten {blocks : List (Block n)} {block : Block n} {k : Nat}
    (h : blocks[k]? = some block) :
  ((blocks.map lines).flatten.drop (n * k)).take n = block.lines
  := by
  induction blocks generalizing k with
  | nil => simp at h
  | cons first blocks ih =>
    rw [List.map_cons, List.flatten_cons]
    cases k with
    | zero =>
      obtain rfl := Option.some.inj h
      rw [Nat.mul_zero, List.drop_zero, List.take_left' first.length_lines]
    | succ k =>
      rw [Nat.mul_succ, Nat.add_comm, ← List.drop_drop, List.drop_left' first.length_lines]
      apply ih h

end Block

end Diagnostics.Text
