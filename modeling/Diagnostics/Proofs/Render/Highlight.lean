import Diagnostics.Proofs.Render.Layout
import Diagnostics.Proofs.Style.Visible

/-!
# Colour in place of carets

Without underlining, the part of the source line that a message is about is set in a style of its
own, and there is a marker line only where there are no such bytes. The style goes to whole
characters, so a message about no bytes inside a character still colours that character and has a
marker line as well: `Message.exists_coloured_iff` says that nothing else goes wrong.
-/

namespace Diagnostics

/-! ### Text in a style -/

/-- The text of rich text that is in a style. -/
def RichText.inStyle (r : RichText) (style : Style) : String :=
  content (r.filter (·.style = style))

namespace Style

theorem opening_ofList_ne_empty {es : List Emphasis} (h : es ≠ []) :
  (ofList es).opening ≠ ""
  := by
  obtain ⟨e, es, rfl⟩ := List.exists_cons_of_ne_nil h
  rw [opening, codes_ofList, List.map_cons, String.join_cons, Emphasis.code, terminalCode]
  simp

theorem ofList_ne_plain {es : List Emphasis} (h : es ≠ []) :
  ofList es ≠ plain
  := by
  intro heq
  apply opening_ofList_ne_empty h
  rw [heq]
  rfl

end Style

namespace Snippet

/-- A style of its own is only the style of the highlighted piece. -/
theorem inStyle_rich (pieces : Snippet) {style : Style} (h : style ≠ .plain) :
  RichText.inStyle (pieces.rich style) style = pieces.highlighted
  := by
  have hplain : ¬ Style.plain = style := Ne.symm h
  rw [RichText.inStyle, rich, RichText.nonempty]
  split
  · rename_i hempty
    simp [Fragment.ofText, hplain, hempty, RichText.content]
  · simp [Fragment.ofText, hplain, RichText.content]

/-- The codes of a style with any stand around the highlighted piece, unless it is empty. -/
theorem painted_rich (pieces : Snippet) {style : Style} (h : style.opening ≠ "") :
  (pieces.rich style).painted = pieces.before
    ++ (if pieces.highlighted = "" then "" else style.opening ++ pieces.highlighted ++ resetCode)
    ++ pieces.after
  := by
  have hpaint : style.paint pieces.highlighted
      = style.opening ++ pieces.highlighted ++ resetCode := if_neg h
  rw [rich, RichText.painted_append, RichText.painted_cons, RichText.nonempty]
  split
  · simp [Fragment.painted, Fragment.ofText]
  · simp [Fragment.painted, Fragment.ofText, hpaint]

theorem lt_length_of_continuesAt {raw : List UInt8} {i : Nat} (h : continuesAt raw i = true) :
  i < raw.length
  := by
  by_contra hi
  rw [continuesAt, List.getElem?_eq_none (Nat.le_of_not_lt hi)] at h
  contradiction

end Snippet

namespace Message

/-- Whether a message is about no bytes, at a place inside a character of its line. -/
def EmptyInside (m : Message) (raw : List UInt8) : Prop :=
  m.span.length = 0 ∧ Snippet.continuesAt raw (m.span.column - 1) = true

instance (m : Message) (raw : List UInt8) : Decidable (m.EmptyInside raw) :=
  inferInstanceAs (Decidable (_ ∧ _))

namespace Layout

variable {m : Message} {c : Cache} {s : Styling} {text : String}

/-- The highlighted piece is empty when the message is about no bytes and not inside a
character. -/
theorem highlighted_eq_empty_iff (l : m.Layout c s text) :
  l.pieces.highlighted = "" ↔ l.low = l.high ∧ Snippet.continuesAt l.raw l.low = false
  := by
  have hlow := Nat.le_trans l.low_le_high l.high_le_length
  have hbefore := Snippet.boundBefore_le l.raw l.low
  have hafter : l.high ≤ Snippet.boundAfter l.raw l.high := Nat.le_add_right _ _
  have hle := l.low_le_high
  have hinside : Snippet.boundBefore l.raw l.low = l.low
      ↔ Snippet.continuesAt l.raw l.low = false :=
    (Snippet.boundBefore_eq_iff hlow).trans (Snippet.isBoundary_iff hlow)
  obtain ⟨before, middle, after, -, hb, hm, hpieces⟩ := l.exists_bounds
  rw [Utf8.encode_append, List.length_append] at hm
  have hempty : l.pieces.highlighted = "" ↔ (Utf8.encode middle).length = 0 := by
    rw [hpieces]
    constructor
    · intro h
      rw [String.ofList_eq_empty_iff.mp h, Utf8.encode_nil, List.length_nil]
    · intro h
      rw [Utf8.eq_nil_of_length_encode h]
  -- the bounds only move apart, so the piece between them is empty where neither moves
  rw [hempty, ← hinside]
  constructor
  · intro h
    omega
  · rintro ⟨heq, hbound⟩
    have hhigh : Snippet.boundAfter l.raw l.high = l.high := by
      rw [← heq]
      apply Snippet.boundAfter_eq ((Snippet.boundBefore_eq_iff hlow).mp hbound) hlow
    omega

/-- The message is about no bytes inside a character exactly when its range is empty and inside
one. -/
theorem emptyInside_iff (l : m.Layout c s text) :
  m.EmptyInside l.raw ↔ l.low = l.high ∧ Snippet.continuesAt l.raw l.low = true
  := by
  rw [EmptyInside, low, high, range_eq]
  constructor
  · rintro ⟨hlength, hinside⟩
    have hcolumn := Snippet.lt_length_of_continuesAt hinside
    rw [hlength, Nat.add_zero, Nat.min_eq_left (Nat.le_of_lt hcolumn)]
    exact ⟨(Nat.min_eq_left (Nat.le_of_lt hcolumn)).symm, hinside⟩
  · rintro ⟨heq, hinside⟩
    have hcolumn := Snippet.lt_length_of_continuesAt hinside
    dsimp only at heq hinside hcolumn
    rw [Nat.min_eq_left (by omega)] at hinside
    exact ⟨by omega, hinside⟩

/-- The text of the source line that is in the style of the part at fault. -/
def coloured (l : m.Layout c s text) : String :=
  RichText.inStyle (l.pieces.rich s.wrongPart) s.wrongPart

theorem coloured_eq_empty_iff (l : m.Layout c s text) (h : s.wrongPart ≠ .plain) :
  l.coloured = "" ↔ l.low = l.high ∧ ¬ m.EmptyInside l.raw
  := by
  rw [coloured, Snippet.inStyle_rich _ h, l.highlighted_eq_empty_iff, l.emptyInside_iff,
    ← Bool.not_eq_true]
  constructor
  · rintro ⟨hempty, hinside⟩
    exact ⟨hempty, fun h => hinside h.2⟩
  · rintro ⟨hempty, hinside⟩
    exact ⟨hempty, fun h => hinside ⟨hempty, h⟩⟩

end Layout

/-- Without underlining and with a style for the part at fault, there is a marker line exactly when
nothing is coloured, and nothing is coloured where there are no bytes to mark, unless the message is
about no bytes inside a character. Such a message gets both. -/
theorem exists_coloured_iff {m : Message} {c : Cache} {s : Styling} {text : String}
    {es : List Emphasis} (h : m.render c s = .ok text) (hunderline : s.underline = false)
    (hes : es ≠ []) (hstyle : s.wrongPart = .ofList es) :
  ∃ l : m.Layout c s text,
    (l.pieces.rich s.wrongPart).painted = l.pieces.before
        ++ (if l.coloured = "" then "" else s.wrongPart.opening ++ l.coloured ++ resetCode)
        ++ l.pieces.after
    ∧ s.wrongPart.opening ≠ ""
    ∧ ((l.marker?.isSome = true ↔ l.coloured = "") ↔ ¬ m.EmptyInside l.raw)
    ∧ ((l.low = l.high → l.coloured = "") ↔ ¬ m.EmptyInside l.raw)
  := by
  obtain ⟨l, hdue, -⟩ := exists_layout h
  have hopening : s.wrongPart.opening ≠ "" := by
    rw [hstyle]
    apply Style.opening_ofList_ne_empty hes
  have hplain : s.wrongPart ≠ .plain := by
    rw [hstyle]
    apply Style.ofList_ne_plain hes
  have hinside : m.EmptyInside l.raw → l.low = l.high := fun h => (l.emptyInside_iff.mp h).1
  refine ⟨l, ?_, hopening, ?_, ?_⟩
  · rw [Layout.coloured, Snippet.inStyle_rich _ hplain]
    apply Snippet.painted_rich _ hopening
  · rw [hdue, l.coloured_eq_empty_iff hplain, hunderline]
    simp only [Bool.false_eq_true, false_or]
    constructor
    · intro h hm
      exact (h.mp (hinside hm)).2 hm
    · intro hm
      exact ⟨fun hempty => ⟨hempty, hm⟩, And.left⟩
  · rw [l.coloured_eq_empty_iff hplain]
    constructor
    · intro h hm
      exact (h (hinside hm)).2 hm
    · intro hm hempty
      exact ⟨hempty, hm⟩

/-! ### A message inside a character -/

/-- A source line of one character in two bytes. -/
def oneAccent : Cache :=
  Cache.empty.addSource (.written "main.an") "é"

/-- A message about some bytes from the second one of the character on. -/
def aboutSecondByte (length : Nat) : Message :=
  ⟨⟨.written "main.an", 1, 2, length, Nat.one_pos, Nat.two_pos⟩, .notAFunction .int⟩

theorem exists_render_aboutSecondByte (length : Nat) (s : Styling) :
  ∃ text, (aboutSecondByte length).render oneAccent s = .ok text
  := by
  apply exists_render_of_primitive s (Sources.textOf_insert _ _ _) rfl rfl

theorem raw_aboutSecondByte {length : Nat} {s : Styling} {text : String}
    (l : (aboutSecondByte length).Layout oneAccent s text) :
  l.raw = [0xC3, 0xA9]
  := by
  rw [l.raw_eq (Sources.textOf_insert _ _ _)]
  rfl

/-- A message about the second byte of a character colours the character and has no marker line. -/
theorem exists_coloured_iff_aboutSecondByte :
  Styling.colored.underline = false ∧ Styling.colored.wrongPart = .ofList [.red]
    ∧ ∃ text, (aboutSecondByte 1).render oneAccent .colored = .ok text
      ∧ ∃ l : (aboutSecondByte 1).Layout oneAccent .colored text,
        l.marker?.isSome = true ↔ l.coloured = ""
  := by
  have hred : Styling.colored.wrongPart = .ofList [.red] := rfl
  obtain ⟨text, htext⟩ := exists_render_aboutSecondByte 1 .colored
  obtain ⟨l, -, -, hmarker, -⟩ := exists_coloured_iff htext rfl (List.cons_ne_nil _ _) hred
  refine ⟨rfl, hred, text, htext, l, hmarker.mpr ?_⟩
  rintro ⟨hlength, -⟩
  contradiction

/-- A message about no bytes inside a character has a marker line and colours the character. -/
theorem not_forall_exists_coloured_iff :
  ¬ ∀ (m : Message) (c : Cache) (s : Styling) (text : String) (es : List Emphasis),
    m.render c s = .ok text → s.underline = false → es ≠ [] → s.wrongPart = .ofList es →
      ∃ l : m.Layout c s text, l.marker?.isSome = true ↔ l.coloured = ""
  := by
  intro h
  obtain ⟨text, htext⟩ := exists_render_aboutSecondByte 0 .colored
  obtain ⟨l, hl⟩ := h _ _ _ _ [.red] htext rfl (List.cons_ne_nil _ _) rfl
  obtain ⟨l', hdue, -⟩ := exists_layout htext
  obtain rfl := l.unique l'
  have hinside : (aboutSecondByte 0).EmptyInside l.raw := by
    rw [raw_aboutSecondByte]
    decide
  have hcoloured := hl.mp (hdue.mpr (Or.inr (l.emptyInside_iff.mp hinside).1))
  rw [l.coloured_eq_empty_iff (by decide)] at hcoloured
  exact hcoloured.2 hinside

end Message

end Diagnostics
