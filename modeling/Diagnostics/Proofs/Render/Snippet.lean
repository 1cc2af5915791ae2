import Diagnostics.Proofs.Text.Boundary
import Diagnostics.Render.Message

/-!
# The pieces of a source line

A line is cut at character boundaries, so its three pieces are texts whatever bytes a span
covers. `Snippet.cut_encode` gives the pieces of any range within the line, and
`Message.exists_pieces` says of the range of a message that the pieces make up the line, that the
first one holds the characters before the range and that the one in the middle holds those that the
range touches.
-/

namespace Diagnostics

namespace Snippet

theorem textOf_encode (text : List Char) :
  textOf (Utf8.encode text) = .ok (String.ofList text)
  := by
  rw [textOf, Utf8.decode_encode]
  rfl

/-- The pieces of a text around two boundaries of it. -/
theorem cut_of_bounds {before middle after : List Char} {low high : Nat}
    (hlow : boundBefore (Utf8.encode (before ++ middle ++ after)) low
      = (Utf8.encode before).length)
    (hhigh : boundAfter (Utf8.encode (before ++ middle ++ after)) high
      = (Utf8.encode (before ++ middle)).length) :
  cut (Utf8.encode (before ++ middle ++ after)) low high
    = .ok ⟨String.ofList before, String.ofList middle, String.ofList after⟩
  := by
  have hle : (Utf8.encode before).length ≤ (Utf8.encode (before ++ middle)).length := by simp
  have hbounds : characterBounds (Utf8.encode (before ++ middle ++ after)) low high
      = ((Utf8.encode before).length, (Utf8.encode (before ++ middle)).length) := by
    rw [characterBounds, hlow, hhigh, Nat.max_eq_right hle]
  have hfirst : (Utf8.encode (before ++ middle ++ after)).take (Utf8.encode before).length
      = Utf8.encode before := by
    rw [List.append_assoc, Utf8.encode_append, List.take_left]
  have htake : (Utf8.encode (before ++ middle ++ after)).take
      (Utf8.encode (before ++ middle)).length = Utf8.encode (before ++ middle) := by
    rw [Utf8.encode_append (before ++ middle), List.take_left]
  have hdrop : (Utf8.encode (before ++ middle ++ after)).drop
      (Utf8.encode (before ++ middle)).length = Utf8.encode after := by
    rw [Utf8.encode_append (before ++ middle), List.drop_left]
  simp only [cut, hbounds, hfirst, htake, hdrop]
  rw [Utf8.encode_append before, List.drop_left]
  simp only [textOf_encode]
  rfl

/-- Every range of bytes within a text cuts it into three texts, between the boundaries
around the range. -/
theorem cut_encode {text : List Char} {low high : Nat} (h : low ≤ high)
    (hhigh : high ≤ (Utf8.encode text).length) :
  ∃ before middle after, text = before ++ middle ++ after
    ∧ (Utf8.encode before).length = boundBefore (Utf8.encode text) low
    ∧ (Utf8.encode (before ++ middle)).length = boundAfter (Utf8.encode text) high
    ∧ cut (Utf8.encode text) low high
      = .ok ⟨String.ofList before, String.ofList middle, String.ofList after⟩
  := by
  have hlow := isBoundary_boundBefore (Nat.le_trans h hhigh)
  have hbound := isBoundary_boundAfter hhigh
  have hle : boundBefore (Utf8.encode text) low ≤ boundAfter (Utf8.encode text) high :=
    Nat.le_trans (Nat.le_trans (boundBefore_le _ _) h) (Nat.le_add_right _ _)
  obtain ⟨before, middle, after, rfl, hb, hm⟩ := hlow.exists_middle hbound hle
  use before, middle, after, rfl, hb, hm
  apply cut_of_bounds hb.symm hm.symm

/-- The characters before the last boundary up to an offset are those that end by the offset. -/
theorem endingBy_of_bound {before after : List Char} {low : Nat}
    (hlow : low ≤ (Utf8.encode (before ++ after)).length)
    (h : (Utf8.encode before).length = boundBefore (Utf8.encode (before ++ after)) low) :
  Utf8.endingBy low (before ++ after) = before
  := by
  have hfirst : ∀ p ∈ Utf8.placed 0 before, decide (p.1 + p.2.utf8Size ≤ low) = true := by
    intro p hp
    have hbefore := boundBefore_le (Utf8.encode (before ++ after)) low
    have hend := (Utf8.isBoundary_of_mem_placed [] [] hp).2.2.2
    rw [List.nil_append] at hend
    rw [decide_eq_true_iff]
    omega
  have hlast : ∀ p ∈ Utf8.placed (Utf8.encode before).length after,
      ¬ decide (p.1 + p.2.utf8Size ≤ low) = true := by
    intro p hp
    obtain ⟨-, hend, hstart, -⟩ := Utf8.isBoundary_of_mem_placed before [] hp
    rw [List.append_nil] at hend
    rw [decide_eq_true_iff]
    -- the end of the character would be a later boundary up to the offset
    intro hle
    have hbound := le_boundBefore hend hle hlow
    have hpos := p.2.utf8Size_pos
    omega
  rw [Utf8.endingBy, Utf8.placed_append, Nat.zero_add, List.filter_append,
    List.filter_eq_self.mpr hfirst, List.filter_eq_nil_iff.mpr hlast, List.append_nil,
    Utf8.map_snd_placed]

/-- The characters between the boundaries around a range are those that the range
touches. -/
theorem touched_of_bounds {before middle after : List Char} {low high : Nat} (h : low < high)
    (hhigh : high ≤ (Utf8.encode (before ++ middle ++ after)).length)
    (hb : (Utf8.encode before).length
      = boundBefore (Utf8.encode (before ++ middle ++ after)) low)
    (hm : (Utf8.encode (before ++ middle)).length
      = boundAfter (Utf8.encode (before ++ middle ++ after)) high) :
  Utf8.touched low high (before ++ middle ++ after) = middle
  := by
  have hfirst : ∀ p ∈ Utf8.placed 0 before, ¬ Utf8.touches low high p = true := by
    intro p hp
    have hbefore := boundBefore_le (Utf8.encode (before ++ middle ++ after)) low
    have hend := (Utf8.isBoundary_of_mem_placed [] [] hp).2.2.2
    rw [Utf8.touches_iff h]
    simp only [List.nil_append] at hend
    omega
  have hmiddle : ∀ p ∈ Utf8.placed (Utf8.encode before).length middle,
      Utf8.touches low high p = true := by
    intro p hp
    have hpos := p.2.utf8Size_pos
    obtain ⟨hstart, hend, hle, hle'⟩ := Utf8.isBoundary_of_mem_placed before after hp
    have hlen := boundAfter_le hhigh
    rw [Utf8.touches_iff h]
    constructor
    · -- otherwise the boundary before the character would do in place of the one found
      by_contra hge
      have hbound := boundAfter_le_of_isBoundary hstart (Nat.le_of_not_lt hge) (by omega)
      omega
    · by_contra hge
      have hbound := le_boundBefore hend (Nat.le_of_not_lt hge) (by omega)
      omega
  have hlast : ∀ p ∈ Utf8.placed (Utf8.encode (before ++ middle)).length after,
      ¬ Utf8.touches low high p = true := by
    intro p hp
    have hge := (Utf8.isBoundary_of_mem_placed (before ++ middle) [] hp).2.2.1
    rw [Utf8.touches_iff h]
    rw [hm, boundAfter] at hge
    omega
  rw [Utf8.touched, Utf8.placed_append, Utf8.placed_append, Nat.zero_add, Nat.zero_add,
    List.filter_append, List.filter_append, List.filter_eq_nil_iff.mpr hfirst,
    List.filter_eq_self.mpr hmiddle, List.filter_eq_nil_iff.mpr hlast, List.nil_append,
    List.append_nil, Utf8.map_snd_placed]

end Snippet

namespace Message

/-- The bytes a message is about are a range within its line. -/
theorem range_le (m : Message) (raw : List UInt8) :
  (m.range raw).1 ≤ (m.range raw).2 ∧ (m.range raw).2 ≤ raw.length
  := by
  rw [range, highlightRange_natCast raw.length m.span.column m.span.length m.span.column_pos]
  simp only [Int.toNat_natCast]
  omega

/-- What is shown of a source line: its pieces, and a marker line where one is due. -/
theorem snippet_eq_ok (m : Message) (line : List Char) (s : Styling) :
  ∃ pieces : Snippet, pieces.before ++ pieces.highlighted ++ pieces.after = String.ofList line
    ∧ m.snippet line s = .ok (pieces.rich s.wrongPart ++ [.ofText "\n"]
      ++ if s.underline ∨ (m.range (Utf8.encode line)).1 = (m.range (Utf8.encode line)).2 then
          [.ofText (Snippet.marker (m.range (Utf8.encode line)).1
            (m.range (Utf8.encode line)).2 ++ "\n")]
        else [])
  := by
  obtain ⟨hle, hhigh⟩ := m.range_le (Utf8.encode line)
  obtain ⟨before, middle, after, hline, -, -, hcut⟩ := Snippet.cut_encode hle hhigh
  use ⟨String.ofList before, String.ofList middle, String.ofList after⟩
  constructor
  · simp only [hline, String.ofList_append]
  · simp only [snippet, hcut]

/-- The source line of a message is cut into three texts that make it up. The first one holds the
characters that end before the bytes the message is about, and the one in the middle those with a
byte among them. -/
theorem exists_pieces (m : Message) (line : List Char) :
  let raw := Utf8.encode line
  let low := (m.range raw).1
  let high := (m.range raw).2
  ∃ pieces, Snippet.cut raw low high = .ok pieces
    ∧ pieces.before ++ pieces.highlighted ++ pieces.after = String.ofList line
    ∧ pieces.before = String.ofList (Utf8.endingBy low line)
    ∧ (low < high → pieces.highlighted = String.ofList (Utf8.touched low high line))
  := by
  intro raw low high
  obtain ⟨hle, hhigh⟩ := m.range_le raw
  obtain ⟨before, middle, after, rfl, hb, hm, hcut⟩ := Snippet.cut_encode hle hhigh
  refine ⟨_, hcut, ?_, ?_, ?_⟩
  · simp only [String.ofList_append]
  · have hlow : low ≤ (Utf8.encode (before ++ (middle ++ after))).length := by
      rw [← List.append_assoc]
      apply Nat.le_trans hle hhigh
    rw [List.append_assoc] at hb ⊢
    rw [Snippet.endingBy_of_bound hlow hb]
  · intro h
    rw [Snippet.touched_of_bounds h hhigh hb hm]

end Message

end Diagnostics
