import Diagnostics.Proofs.Render.Success
import Diagnostics.Proofs.Text.Offset

/-!
# The bytes that a message highlights

Some bytes of a source, none of them at the end of a line, are denoted by the span at the line
and the column of the first of them. A message with this span finds the same bytes on its
source line, whatever characters they cut: `Message.highlighted_ofOffset`.
-/

namespace Diagnostics

/-- The span of some bytes of a source from an offset on. -/
def Span.ofOffset (path : Path) (bytes : List UInt8) (offset n : Nat) : Span where
  path := path
  line := Text.lineAt bytes offset
  column := Text.columnAt bytes offset
  length := n
  line_pos := Nat.succ_pos _
  column_pos := Nat.succ_pos _

namespace Message

/-- The bytes of a line that a message highlights. -/
def highlightedOf (m : Message) (raw : List UInt8) : List UInt8 :=
  (raw.take (m.range raw).2).drop (m.range raw).1

/-- The bytes of its source line that a message highlights. -/
def highlighted (m : Message) (source : SourceText) : Except CodePoint.Fault (List UInt8) :=
  (m.sourceLine source).map (fun line => m.highlightedOf (Utf8.encode line))

/-- A message highlights the bytes of its span where they are all on the line. -/
theorem highlightedOf_eq {m : Message} {raw : List UInt8}
    (h : m.span.length = 0 ∨ m.span.column - 1 + m.span.length ≤ raw.length) :
  m.highlightedOf raw = (raw.drop (m.span.column - 1)).take m.span.length
  := by
  rw [highlightedOf, range, highlightRange_natCast _ _ _ m.span.column_pos]
  simp only [Int.toNat_natCast]
  rw [List.drop_take]
  rcases h with h | h
  · rw [h, Nat.add_zero, List.take_zero, Nat.sub_eq_zero_of_le (Nat.min_le_left _ _),
      List.take_zero]
  · rw [Nat.min_eq_left (Nat.le_of_add_right_le h), Nat.min_eq_left h, Nat.add_sub_cancel_left]

/-- Bytes within a part of some bytes are the same bytes within all of them. -/
theorem slice_append {before raw after : List UInt8} {i n : Nat} (h : i + n ≤ raw.length) :
  ((before ++ raw ++ after).drop (before.length + i)).take n = (raw.drop i).take n
  := by
  rw [List.append_assoc, List.drop_length_add_append, List.drop_append_of_le_length (by omega)]
  apply List.take_append_of_le_length
  rw [List.length_drop]
  omega

/-- A message at the line and the column of some bytes of its source, none of them at the end
of a line, highlights these bytes. -/
theorem highlighted_ofOffset {path : Path} {payload : Payload} {source : String}
    {offset n : Nat} (h : offset + n ≤ (Text.bytesOf source).length)
    (hinside : ∀ i, offset ≤ i → i < offset + n → ¬ Text.EndsLine (Text.bytesOf source) i) :
  (⟨.ofOffset path (Text.bytesOf source) offset n, payload⟩ : Message).highlighted source
    = .ok (((Text.bytesOf source).drop offset).take n)
  := by
  obtain ⟨before, line, after, hbytes, hline, hstart, hbefore, hlength⟩ :=
    Text.exists_line source.toList h hinside
  obtain ⟨i, rfl⟩ := Nat.exists_eq_add_of_le hbefore
  have hcolumn : Text.columnAt (Text.bytesOf source) (before.length + i) - 1 = i := by
    rw [Text.columnAt, Text.bytesOf, ← hstart]
    omega
  rw [Nat.add_assoc, Nat.add_le_add_iff_left] at hlength
  have hsource : (⟨.ofOffset path (Text.bytesOf source) (before.length + i) n, payload⟩
      : Message).sourceLine source = .ok line := by
    rw [sourceLine_ofString]
    apply congrArg Except.ok hline
  rw [highlighted, hsource, Except.map, highlightedOf_eq]
  · simp only [Span.ofOffset, hcolumn]
    rw [Text.bytesOf, hbytes]
    rcases hlength with rfl | hlength
    · rw [List.take_zero, List.take_zero]
    · rw [slice_append hlength]
  · simp only [Span.ofOffset, hcolumn]
    apply hlength

/-- Two bytes on the second line of a text, the last one the first half of a character. -/
theorem highlighted_ofOffset_half :
  3 + 2 ≤ (Text.bytesOf "ab\ncé\r\n").length
    ∧ (∀ i, 3 ≤ i → i < 3 + 2 → ¬ Text.EndsLine (Text.bytesOf "ab\ncé\r\n") i)
    ∧ ((Text.bytesOf "ab\ncé\r\n").drop 3).take 2 = [0x63, 0xC3]
    ∧ (⟨.ofOffset (.written "main.an") (Text.bytesOf "ab\ncé\r\n") 3 2, .refRequired .int⟩
        : Message).highlighted "ab\ncé\r\n"
      = .ok (((Text.bytesOf "ab\ncé\r\n").drop 3).take 2)
  := by
  have h : 3 + 2 ≤ (Text.bytesOf "ab\ncé\r\n").length := by decide
  have hinside : ∀ i, 3 ≤ i → i < 3 + 2 → ¬ Text.EndsLine (Text.bytesOf "ab\ncé\r\n") i := by
    intro i hle hlt
    obtain rfl | rfl : i = 3 ∨ i = 4 := by omega
    · decide
    · decide
  exact ⟨h, hinside, by decide, highlighted_ofOffset h hinside⟩

end Message

end Diagnostics
