import Diagnostics.Proofs.Text.Boundary
import Diagnostics.Proofs.Text.Newlines

/-!
# Byte offsets in a text

A byte offset of a text lies on the line that `lineAt` counts by the line feeds before it, at a
column that counts the bytes from `lineStart`. The segment of the text with that number has its
bytes around the offset: `exists_segment` cuts the bytes of the text before and after it.
-/

namespace Diagnostics.Text

/-- The bytes of a text. -/
def bytesOf (text : String) : List UInt8 :=
  Utf8.encode text.toList

/-- The byte of a line feed. -/
def feed : UInt8 := 0x0A

/-- The byte of a carriage return. -/
def carriageReturn : UInt8 := 0x0D

/-! ### Lines and columns of offsets -/

/-- The number of the line that an offset lies on, counted from one. -/
def lineAt (bytes : List UInt8) (offset : Nat) : Nat :=
  (bytes.take offset).count feed + 1

/-- The offset just after the last line feed before an offset, zero where there is none. -/
def lineStart (bytes : List UInt8) : Nat → Nat
  | 0 => 0
  | offset + 1 => if bytes[offset]? = some feed then offset + 1 else lineStart bytes offset

/-- The column of an offset on its line, counted from one. -/
def columnAt (bytes : List UInt8) (offset : Nat) : Nat :=
  offset - lineStart bytes offset + 1

/-- Whether the byte at an offset belongs to the end of a line: a line feed, or a carriage
return right before one or at the end of the text. -/
def EndsLine (bytes : List UInt8) (i : Nat) : Prop :=
  bytes[i]? = some feed
    ∨ bytes[i]? = some carriageReturn ∧ (i + 1 = bytes.length ∨ bytes[i + 1]? = some feed)

instance (bytes : List UInt8) (i : Nat) : Decidable (EndsLine bytes i) :=
  inferInstanceAs (Decidable (_ ∨ _ ∧ (_ ∨ _)))

/-- A line feed before both moves the start of a line like the offset on it. -/
theorem lineStart_append (before bytes : List UInt8) (offset : Nat) :
  lineStart (before ++ feed :: bytes) (before.length + 1 + offset)
    = before.length + 1 + lineStart bytes offset
  := by
  induction offset with
  | zero => rw [Nat.add_zero, lineStart, lineStart, if_pos (by simp)]
  | succ offset ih =>
    have hbyte : (before ++ feed :: bytes)[before.length + 1 + offset]? = bytes[offset]? := by
      rw [List.getElem?_append_right (by omega)]
      rw [show before.length + 1 + offset - before.length = offset + 1 by omega]
      rfl
    rw [← Nat.add_assoc, lineStart, lineStart, hbyte, ih]
    split
    · omega
    · rfl

/-- Up to the first line feed every offset lies on the line that starts the text. -/
theorem lineStart_append_of_le {before bytes : List UInt8} (h : feed ∉ before) {offset : Nat}
    (hle : offset ≤ before.length) :
  lineStart (before ++ bytes) offset = 0
  := by
  induction offset with
  | zero => rfl
  | succ offset ih =>
    rw [lineStart, if_neg, ih (by omega)]
    rw [List.getElem?_append_left hle]
    intro hfeed
    apply h (List.mem_of_getElem? hfeed)

/-- Up to the first line feed there are none before an offset. -/
theorem count_take_append_of_le {before bytes : List UInt8} (h : feed ∉ before) {offset : Nat}
    (hle : offset ≤ before.length) :
  ((before ++ bytes).take offset).count feed = 0
  := by
  rw [List.count_eq_zero, List.take_append_of_le_length hle]
  intro hfeed
  apply h (List.mem_of_mem_take hfeed)

/-- Past the first line feed there is one more before an offset. -/
theorem count_take_append {before : List UInt8} (h : feed ∉ before) (bytes : List UInt8)
    (offset : Nat) :
  ((before ++ feed :: bytes).take (before.length + 1 + offset)).count feed
    = (bytes.take offset).count feed + 1
  := by
  rw [Nat.add_assoc, List.take_length_add_append, Nat.add_comm 1, List.take_succ_cons,
    List.count_append, List.count_eq_zero.mpr h, List.count_cons_self, Nat.zero_add]

/-! ### Line feeds among bytes -/

/-- Only an ASCII character is encoded with an ASCII byte, which is its own. -/
theorem toNat_eq_of_mem_utf8EncodeChar {b : UInt8} {c : Char}
    (h : b ∈ String.utf8EncodeChar c) (hb : b.toNat < 0x80) :
  c.toNat = b.toNat
  := by
  obtain ⟨first, bytes, hc, -, hbytes⟩ := Utf8.utf8EncodeChar_eq_cons c
  obtain ⟨first', bytes', value, ranges, hc', hlead, -, htrail⟩ := Utf8.trail_utf8EncodeChar c
  obtain ⟨rfl, rfl⟩ := List.cons_eq_cons.mp (hc.symm.trans hc')
  rw [hc] at h
  rcases List.mem_cons.mp h with rfl | h
  · rw [Utf8.lead, if_pos hb] at hlead
    obtain ⟨rfl, rfl⟩ := Prod.mk.inj (Option.some.inj hlead)
    obtain ⟨hvalue, -⟩ := Prod.mk.inj (Except.ok.inj (htrail []))
    apply hvalue.symm
  · have hcontinues := hbytes b h
    rw [Utf8.isContinuation, Utf8.ByteRange.contains, Bool.decide_and, Bool.and_eq_true,
      decide_eq_true_eq] at hcontinues
    apply absurd hcontinues.1 (Nat.not_le_of_lt hb)

theorem feed_not_mem_encode {text : List Char} (h : '\n' ∉ text) :
  feed ∉ Utf8.encode text
  := by
  intro hfeed
  obtain ⟨c, hc, hbyte⟩ := List.mem_flatMap.mp hfeed
  have hcode : c.toNat = '\n'.toNat := toNat_eq_of_mem_utf8EncodeChar hbyte (by decide)
  rw [Char.toNat_inj.mp hcode] at hc
  apply h hc

/-! ### The segment around an offset -/

/-- The bytes of some segments, one per line, before, in and after the one that an offset lies
in. -/
theorem exists_segment_of_join {segments : List (List Char)} (hne : segments ≠ [])
    (hfeed : ∀ segment ∈ segments, '\n' ∉ segment) {offset : Nat}
    (h : offset ≤ (Utf8.encode (join '\n' segments)).length) :
  ∃ before segment after,
    Utf8.encode (join '\n' segments) = before ++ Utf8.encode segment ++ after
    ∧ segments[((Utf8.encode (join '\n' segments)).take offset).count feed]? = some segment
    ∧ before.length = lineStart (Utf8.encode (join '\n' segments)) offset
    ∧ before.length ≤ offset ∧ offset ≤ before.length + (Utf8.encode segment).length
    ∧ (after = [] ∨ after.head? = some feed)
  := by
  induction segments generalizing offset with
  | nil => contradiction
  | cons segment segments ih =>
    have hsegment := feed_not_mem_encode (hfeed segment List.mem_cons_self)
    cases segments with
    | nil =>
      rw [join] at h ⊢
      have hcount := @count_take_append_of_le _ [] hsegment _ h
      have hstart := @lineStart_append_of_le _ [] hsegment _ h
      rw [List.append_nil] at hcount hstart
      use [], segment, []
      rw [hcount, hstart]
      simpa using h
    | cons next rest =>
      rw [join, Utf8.encode_append, Utf8.encode_cons,
        show String.utf8EncodeChar '\n' = [feed] by decide, List.singleton_append] at h ⊢
      by_cases hle : offset ≤ (Utf8.encode segment).length
      · -- up to the end of the first segment the offset lies in it
        use [], segment, feed :: Utf8.encode (join '\n' (next :: rest))
        rw [count_take_append_of_le hsegment hle, lineStart_append_of_le hsegment hle]
        simpa using hle
      · -- past it the offset lies in the other segments, by the line feed further on
        obtain ⟨more, rfl⟩ := Nat.exists_eq_add_of_le (Nat.succ_le_of_lt (Nat.lt_of_not_le hle))
        rw [List.length_append, List.length_cons] at h
        obtain ⟨before, segment', after, hbytes, hindex, hstart, hbefore, hafter, hend⟩ :=
          ih (List.cons_ne_nil _ _) (fun s hs => hfeed s (List.mem_cons_of_mem _ hs))
            (show more ≤ (Utf8.encode (join '\n' (next :: rest))).length by omega)
        use Utf8.encode segment ++ feed :: before, segment', after
        rw [count_take_append hsegment, List.getElem?_cons_succ, lineStart_append,
          List.length_append, List.length_cons, hstart]
        refine ⟨?_, hindex, by omega, by omega, by omega, hend⟩
        rw [hbytes]
        simp

/-- The bytes of a text before, in and after the segment that an offset lies in. -/
theorem exists_segment (text : List Char) {offset : Nat}
    (h : offset ≤ (Utf8.encode text).length) :
  ∃ before segment after, Utf8.encode text = before ++ Utf8.encode segment ++ after
    ∧ (split '\n' text)[((Utf8.encode text).take offset).count feed]? = some segment
    ∧ before.length = lineStart (Utf8.encode text) offset
    ∧ before.length ≤ offset ∧ offset ≤ before.length + (Utf8.encode segment).length
    ∧ (after = [] ∨ after.head? = some feed)
  := by
  have hsegments := @exists_segment_of_join _ (split_ne_nil '\n' text)
    (fun _ => not_mem_of_mem_split) offset
  rw [join_split] at hsegments
  apply hsegments h

/-- The line with the number of a segment is the segment without its carriage return, and
empty where the segment is no line. -/
theorem getElem?_lines {text segment : List Char} {k : Nat}
    (h : (split '\n' text)[k]? = some segment) :
  (lines text)[k]?.getD [] = dropFinal '\r' segment
  := by
  rw [lines, linesBy, List.getElem?_map, dropFinalEmpty]
  split
  · rename_i hlast
    rw [List.getElem?_dropLast]
    split
    · rw [h]
      rfl
    · -- the segment left out is the last one, and empty
      have hk := (List.getElem?_eq_some_iff.mp h).1
      rw [List.getLast?_eq_getElem?, show (split '\n' text).length - 1 = k by omega, h,
        Option.some.injEq] at hlast
      rw [hlast]
      rfl
  · rw [h]
    rfl

/-- A segment in its text, with what line end belongs to it. -/
theorem exists_encode_segment (segment : List Char) :
  ∃ ending, Utf8.encode segment = Utf8.encode (dropFinal '\r' segment) ++ ending
    ∧ (ending = [] ∨ ending = [carriageReturn])
  := by
  rw [dropFinal]
  split
  · rename_i hlast
    obtain ⟨line, rfl⟩ := List.getLast?_eq_some_iff.mp hlast
    use [carriageReturn]
    rw [List.dropLast_concat, Utf8.encode_append]
    constructor
    · rfl
    · right
      rfl
  · use []
    simp

/-- From the end of a line on, the bytes up to its line feed end the line. -/
theorem endsLine_of_ending {before ending after : List UInt8}
    (hending : ending = [] ∨ ending = [carriageReturn])
    (hafter : after = [] ∨ after.head? = some feed) {i : Nat} (hbefore : before.length ≤ i)
    (hi : i ≤ before.length + ending.length) (hlt : i < (before ++ (ending ++ after)).length) :
  EndsLine (before ++ (ending ++ after)) i
  := by
  have hbyte : ∀ j, (before ++ (ending ++ after))[before.length + j]? = (ending ++ after)[j]? := by
    intro j
    rw [List.getElem?_append_right (Nat.le_add_right _ _), Nat.add_sub_cancel_left]
  have hfeed : after ≠ [] → after[0]? = some feed := by
    intro hne
    rw [← List.head?_eq_getElem?]
    apply hafter.resolve_left hne
  have hne : before.length + ending.length < (before ++ (ending ++ after)).length → after ≠ [] := by
    rintro hlength rfl
    simp at hlength
  obtain ⟨j, rfl⟩ := Nat.exists_eq_add_of_le hbefore
  have hj := Nat.le_of_add_le_add_left hi
  rcases hending with rfl | rfl
  · obtain rfl := Nat.le_zero.mp hj
    left
    rw [hbyte]
    apply hfeed (hne hlt)
  · rcases Nat.le_one_iff_eq_zero_or_eq_one.mp hj with rfl | rfl
    · right
      constructor
      · apply hbyte
      · by_cases hnil : after = []
        · left
          simp [hnil]
        · right
          rw [Nat.add_assoc, hbyte]
          apply hfeed hnil
    · left
      rw [hbyte]
      apply hfeed (hne hlt)

/-- The bytes of a text before, in and after the line that some bytes of it lie on, none of them
at the end of a line. -/
theorem exists_line (text : List Char) {offset n : Nat}
    (h : offset + n ≤ (Utf8.encode text).length)
    (hinside : ∀ i, offset ≤ i → i < offset + n → ¬ EndsLine (Utf8.encode text) i) :
  ∃ before line after, Utf8.encode text = before ++ Utf8.encode line ++ after
    ∧ (lines text)[lineAt (Utf8.encode text) offset - 1]?.getD [] = line
    ∧ before.length = lineStart (Utf8.encode text) offset ∧ before.length ≤ offset
    ∧ (n = 0 ∨ offset + n ≤ before.length + (Utf8.encode line).length)
  := by
  obtain ⟨before, segment, after, hbytes, hindex, hstart, hbefore, hafter, hend⟩ :=
    exists_segment text (Nat.le_of_add_right_le h)
  obtain ⟨ending, hsegment, hending⟩ := exists_encode_segment segment
  have hline : Utf8.encode text
      = before ++ Utf8.encode (dropFinal '\r' segment) ++ (ending ++ after) := by
    rw [hbytes, hsegment]
    simp
  rw [hsegment, List.length_append] at hafter
  use before, dropFinal '\r' segment, ending ++ after
  refine ⟨hline, getElem?_lines hindex, hstart, hbefore, ?_⟩
  by_contra hout
  -- bytes that go past the line meet its end
  apply hinside (max offset (before.length + (Utf8.encode (dropFinal '\r' segment)).length))
    (Nat.le_max_left _ _) (by omega)
  rw [hline]
  apply endsLine_of_ending hending hend
  · rw [List.length_append]
    apply Nat.le_max_right
  · rw [List.length_append]
    omega
  · rw [← hline]
    omega

end Diagnostics.Text
