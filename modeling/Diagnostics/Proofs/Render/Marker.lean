import Diagnostics.Proofs.Render.Layout

/-!
# The marker line

A marker line has a caret below each byte of the source line that the span of a message covers, and
spaces before the first one. `Message.exists_marker` says when there is one and what it reads. Over
an ASCII line the carets are those below the highlighted piece.
-/

namespace Diagnostics

namespace Snippet

/-- A marker line ends with its range of bytes and has a caret for each of them. -/
theorem getElem?_marker {low high : Nat} (h : low ≤ high) (i : Nat) :
  (marker low high).toList[i]? =
    if i < high then some (if low ≤ i then '^' else ' ') else none
  := by
  rw [marker, String.toList_ofList]
  by_cases hi : i < low
  · rw [List.getElem?_append_left (by simpa using hi), List.getElem?_replicate, if_pos hi,
      if_pos (Nat.lt_of_lt_of_le hi h), if_neg (Nat.not_le_of_lt hi)]
  · rw [List.getElem?_append_right (by simpa using hi), List.length_replicate,
      List.getElem?_replicate, if_pos (Nat.le_of_not_lt hi)]
    split
    · rw [if_pos (by omega)]
      rfl
    · rw [if_neg (by omega)]

theorem length_marker {low high : Nat} (h : low ≤ high) :
  (marker low high).length = high
  := by
  rw [marker, String.length_ofList]
  simp [Nat.add_sub_cancel' h]

end Snippet

namespace Message

/-- Whether the span of a message covers a byte of its line. -/
def Covers (m : Message) (i : Nat) : Prop :=
  m.span.column - 1 ≤ i ∧ i < m.span.column - 1 + m.span.length

instance (m : Message) (i : Nat) : Decidable (m.Covers i) :=
  inferInstanceAs (Decidable (_ ∧ _))

/-- The bytes of a line that a message is about are those that its span covers. -/
theorem covers_iff {m : Message} {raw : List UInt8} {i : Nat} (h : i < raw.length) :
  m.Covers i ↔ (m.range raw).1 ≤ i ∧ i < (m.range raw).2
  := by
  rw [Covers, range_eq]
  dsimp only
  omega

theorem range_empty_iff {m : Message} {raw : List UInt8} :
  (m.range raw).1 = (m.range raw).2 ↔ ¬ ∃ i, m.Covers i ∧ i < raw.length
  := by
  obtain ⟨hle, hlength⟩ := m.range_le raw
  constructor
  · rintro h ⟨i, hcovers, hi⟩
    rw [covers_iff hi] at hcovers
    omega
  · intro h
    by_contra hne
    apply h
    have hlow : (m.range raw).1 < (m.range raw).2 := Nat.lt_of_le_of_ne hle hne
    have hi := Nat.lt_of_lt_of_le hlow hlength
    use (m.range raw).1
    rw [covers_iff hi]
    exact ⟨⟨Nat.le_refl _, hlow⟩, hi⟩

namespace Layout

variable {m : Message} {c : Cache} {s : Styling} {text : String}

/-- Over an ASCII line the highlighted piece stands at the bytes that the message is about. -/
theorem length_pieces (l : m.Layout c s text)
    (h : ∀ ch ∈ l.line, ch.toNat < 0x80) :
  l.pieces.before.length = l.low
    ∧ l.pieces.before.length + l.pieces.highlighted.length = l.high
  := by
  have hlow := Utf8.isBoundary_of_ascii h (Nat.le_trans l.low_le_high l.high_le_length)
  have hhigh := Utf8.isBoundary_of_ascii h l.high_le_length
  obtain ⟨before, middle, after, hline, hbefore, hmiddle, hpieces⟩ := l.exists_bounds
  rw [raw, (Snippet.boundBefore_eq_iff (Nat.le_trans l.low_le_high l.high_le_length)).mpr hlow]
    at hbefore
  rw [raw, Snippet.boundAfter_eq hhigh l.high_le_length] at hmiddle
  have hascii : ∀ ch ∈ before ++ middle, ch.toNat < 0x80 := by
    intro ch hch
    apply h
    rw [hline]
    apply List.mem_append_left _ hch
  rw [Utf8.length_encode_of_ascii hascii, List.length_append] at hmiddle
  rw [Utf8.length_encode_of_ascii (fun ch hch => hascii ch (List.mem_append_left _ hch))]
    at hbefore
  simp only [hpieces, String.length_ofList]
  exact ⟨hbefore, hmiddle⟩

end Layout

/-- The marker line of a rendered message is there when the styling underlines or the span covers no
byte of the source line. It has a caret below each byte that the span covers and ends with the last
one of them. Over an ASCII line the carets stand below the characters of the highlighted piece. -/
theorem exists_marker {m : Message} {c : Cache} {s : Styling} {text : String}
    (h : m.render c s = .ok text) :
  ∃ l : m.Layout c s text,
    (l.marker?.isSome = true ↔
      s.underline = true ∨ ¬ ∃ i, m.Covers i ∧ i < l.raw.length)
    ∧ ∀ marker, l.marker? = some marker →
      marker.length
        = min (min (m.span.column - 1) l.raw.length + m.span.length) l.raw.length
      ∧ (∀ i, i < marker.length → marker.toList[i]? = some (if m.Covers i then '^' else ' '))
      ∧ ((∀ ch ∈ l.line, ch.toNat < 0x80) →
        ∀ i, marker.toList[i]? = some '^' ↔ l.pieces.before.length ≤ i
          ∧ i < l.pieces.before.length + l.pieces.highlighted.length)
  := by
  obtain ⟨l, hdue, hmarker⟩ := exists_layout h
  use l
  constructor
  · rw [hdue, Layout.low, Layout.high, range_empty_iff]
  · intro marker hsome
    obtain rfl := hmarker marker hsome
    rw [Snippet.length_marker l.low_le_high]
    have hchar := Snippet.getElem?_marker l.low_le_high
    refine ⟨?_, ?_, ?_⟩
    · rw [Layout.high, range_eq]
    · intro i hi
      have hcovers : m.Covers i ↔ l.low ≤ i := by
        rw [covers_iff (Nat.lt_of_lt_of_le hi l.high_le_length)]
        apply and_iff_left hi
      simp only [hchar, if_pos hi, hcovers]
    · intro hascii i
      obtain ⟨hbefore, hhighlighted⟩ := l.length_pieces hascii
      rw [hhighlighted, hbefore, hchar]
      split
      · split
        · simp [*]
        · simp [*]
      · simp [*]

/-- A source line of three characters. -/
def shortLine : Cache :=
  Cache.empty.addSource (.written "main.an") "abc"

/-- A message about the last two of them and bytes past the end of the line. -/
def aboutEnd : Message :=
  ⟨⟨.written "main.an", 1, 2, 9, Nat.one_pos, Nat.two_pos⟩, .refRequired .int⟩

/-- Its carets stop at the end of the line. -/
theorem exists_marker_aboutEnd :
  ∃ text, aboutEnd.render shortLine .noColor = .ok text
    ∧ ∃ l : aboutEnd.Layout shortLine .noColor text, l.marker? = some " ^^"
  := by
  obtain ⟨text, htext⟩ : ∃ text, aboutEnd.render shortLine .noColor = .ok text :=
    exists_render_of_primitive .noColor (Sources.textOf_insert _ _ _) rfl rfl
  obtain ⟨l, hdue, hmarker⟩ := exists_marker htext
  use text, htext, l
  obtain ⟨marker, hsome⟩ := Option.isSome_iff_exists.mp (hdue.mpr (Or.inl rfl))
  obtain ⟨hlength, hchar, -⟩ := hmarker marker hsome
  have hraw : l.raw.length = 3 := by
    rw [l.raw_eq (Sources.textOf_insert _ _ _)]
    rfl
  rw [hraw] at hlength
  have hlength : marker.length = 3 := hlength
  rw [hsome, Option.some.injEq, ← String.toList_inj]
  apply List.ext_getElem?
  intro i
  by_cases hi : i < marker.length
  · rw [hchar i hi]
    obtain rfl | rfl | rfl : i = 0 ∨ i = 1 ∨ i = 2 := by omega
    all_goals rfl
  · rw [hlength, Nat.not_lt] at hi
    rw [List.getElem?_eq_none, List.getElem?_eq_none]
    · apply hi
    · rw [String.length_toList, hlength]
      apply hi

end Message

end Diagnostics
