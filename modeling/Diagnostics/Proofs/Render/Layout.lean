import Diagnostics.Proofs.Render.Success

/-!
# The parts of a rendered message

A rendered message is its header, the line about its payload, its source line in three pieces and,
in some cases, a marker line. A `Message.Layout` of a text names these parts, which the text
determines. `Message.exists_layout` finds them in the rendering of a message and says which marker
line there is.
-/

namespace Diagnostics

namespace Message

theorem range_eq (m : Message) (raw : List UInt8) :
  m.range raw = (min (m.span.column - 1) raw.length,
    min (min (m.span.column - 1) raw.length + m.span.length) raw.length)
  := by
  rw [range, highlightRange_natCast _ _ _ m.span.column_pos]
  rfl

/-- The parts of a text that is the rendering of a message. -/
structure Layout (m : Message) (c : Cache) (s : Styling) (text : String) where
  source : SourceText
  /-- The source line. -/
  line : List Char
  body : RichText
  pieces : Snippet
  /-- The line below the source line, if there is one. -/
  marker? : Option String
  textOf_eq : c.sources.textOf m.span.path = .ok source
  line_eq : m.sourceLine source = .ok line
  body_eq : m.payload.body c.bindings s = .ok body
  cut_eq :
    let raw := Utf8.encode line
    Snippet.cut raw (m.range raw).1 (m.range raw).2 = .ok pieces
  text_eq : text = (m.header s).painted ++ body.painted ++ (pieces.rich s.wrongPart).painted
    ++ "\n" ++ marker?.elim "" (· ++ "\n")

namespace Layout

variable {m : Message} {c : Cache} {s : Styling} {text : String}

/-- The bytes of the source line. -/
def raw (l : m.Layout c s text) : List UInt8 :=
  Utf8.encode l.line

/-- The first byte of the source line that the message is about. -/
def low (l : m.Layout c s text) : Nat :=
  (m.range l.raw).1

/-- The end of the bytes of the source line that the message is about. -/
def high (l : m.Layout c s text) : Nat :=
  (m.range l.raw).2

theorem elim_feed_inj {marker? marker?' : Option String}
    (h : marker?.elim "" (· ++ "\n") = marker?'.elim "" (· ++ "\n")) :
  marker? = marker?'
  := by
  cases marker? with
  | none =>
    cases marker?' with
    | none => rfl
    | some marker' => simp at h
  | some marker =>
    cases marker?' with
    | none => simp at h
    | some marker' => simpa using h

/-- A text has its parts in one way only. -/
theorem unique (l l' : m.Layout c s text) :
  l = l'
  := by
  obtain ⟨source, line, body, pieces, marker?, hsource, hline, hbody, hcut, htext⟩ := l
  obtain ⟨source', line', body', pieces', marker?', hsource', hline', hbody', hcut', htext'⟩ := l'
  obtain rfl := Except.ok.inj (hsource.symm.trans hsource')
  obtain rfl := Except.ok.inj (hline.symm.trans hline')
  obtain rfl := Except.ok.inj (hbody.symm.trans hbody')
  obtain rfl := Except.ok.inj (hcut.symm.trans hcut')
  obtain rfl := elim_feed_inj ((String.append_right_inj _).mp (htext.symm.trans htext'))
  rfl

/-- Over a string the bytes are those of its line. -/
theorem raw_eq (l : m.Layout c s text) {source : String}
    (h : c.sources.textOf m.span.path = .ok source) :
  l.raw = Utf8.encode ((Text.lines source.toList)[m.span.line - 1]?.getD [])
  := by
  have hline := l.line_eq
  rw [← Except.ok.inj (h.symm.trans l.textOf_eq), sourceLine_ofString] at hline
  rw [raw, Except.ok.inj hline]

theorem low_le_high (l : m.Layout c s text) :
  l.low ≤ l.high
  := (m.range_le l.raw).1

theorem high_le_length (l : m.Layout c s text) :
  l.high ≤ l.raw.length
  := (m.range_le l.raw).2

/-- The pieces of the source line lie between the boundaries around the bytes that the message is
about. -/
theorem exists_bounds (l : m.Layout c s text) :
  ∃ before middle after, l.line = before ++ middle ++ after
    ∧ (Utf8.encode before).length = Snippet.boundBefore l.raw l.low
    ∧ (Utf8.encode (before ++ middle)).length = Snippet.boundAfter l.raw l.high
    ∧ l.pieces = ⟨String.ofList before, String.ofList middle, String.ofList after⟩
  := by
  obtain ⟨before, middle, after, hline, hbefore, hmiddle, hcut⟩ :=
    Snippet.cut_encode l.low_le_high l.high_le_length
  use before, middle, after, hline, hbefore, hmiddle
  apply Except.ok.inj (l.cut_eq.symm.trans hcut)

end Layout

/-- What is shown of a source line is the line in its pieces and perhaps a marker line. -/
theorem exists_snippet (m : Message) (line : List Char) (s : Styling) :
  let raw := Utf8.encode line
  let low := (m.range raw).1
  let high := (m.range raw).2
  ∃ pieces r marker?, Snippet.cut raw low high = .ok pieces ∧ m.snippet line s = .ok r
    ∧ (marker?.isSome = true ↔ s.underline = true ∨ low = high)
    ∧ (∀ marker, marker? = some marker → marker = Snippet.marker low high)
    ∧ r.painted = (pieces.rich s.wrongPart).painted ++ "\n" ++ marker?.elim "" (· ++ "\n")
  := by
  intro raw low high
  obtain ⟨pieces, hcut⟩ : ∃ pieces, Snippet.cut raw low high = .ok pieces := by
    obtain ⟨hle, hhigh⟩ := m.range_le raw
    obtain ⟨before, middle, after, -, -, -, hcut⟩ := Snippet.cut_encode hle hhigh
    exact ⟨_, hcut⟩
  have hsnippet : m.snippet line s = .ok (pieces.rich s.wrongPart ++ [.ofText "\n"]
      ++ if s.underline ∨ low = high then [.ofText (Snippet.marker low high ++ "\n")] else []) := by
    simp only [raw, low, high] at hcut ⊢
    simp only [snippet, hcut]
  refine ⟨pieces, _, if s.underline ∨ low = high then some (Snippet.marker low high) else none,
    hcut, hsnippet, ?_⟩
  rw [RichText.painted_append, RichText.painted_append]
  by_cases hdue : s.underline = true ∨ low = high
  · simp [hdue, Fragment.painted, Fragment.ofText]
  · simp [hdue, Fragment.painted, Fragment.ofText]

/-- A rendered message has its parts. There is a marker line where the styling underlines or the
message is about no bytes of its source line. -/
theorem exists_layout {m : Message} {c : Cache} {s : Styling} {text : String}
    (h : m.render c s = .ok text) :
  ∃ l : m.Layout c s text,
    (l.marker?.isSome = true ↔ s.underline = true ∨ l.low = l.high)
    ∧ ∀ marker, l.marker? = some marker → marker = Snippet.marker l.low l.high
  := by
  obtain ⟨r, hr, rfl⟩ := map_eq_ok_iff.mp h
  obtain ⟨source, line, hsource, hline, hr⟩ := renderRich_eq_ok_iff.mp hr
  obtain ⟨body, hbody, hr⟩ := bind_eq_ok_iff.mp hr
  obtain ⟨pieces, snippet, marker?, hcut, hsnippet, hdue, hmarker, hpainted⟩ :=
    m.exists_snippet line s
  rw [hsnippet] at hr
  obtain rfl := Except.ok.inj hr
  refine ⟨⟨source, line, body, pieces, marker?, hsource, hline, hbody, hcut, ?_⟩, hdue, hmarker⟩
  rw [RichText.painted_append, RichText.painted_append, hpainted, ← String.append_assoc,
    ← String.append_assoc]

end Message

end Diagnostics
