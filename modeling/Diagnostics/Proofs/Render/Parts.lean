import Diagnostics.Proofs.Render.Success
import Diagnostics.Proofs.Text.Decimal
import Diagnostics.Proofs.Ty.Parts

/-!
# The fragments of a message

What a message is made of are words that are the same for all messages, numbers, its path, the names
of its types and its source line. Only the last three can bring a control character, and the header
and the line about the payload each end with the only line feed that is not brought so.
-/

namespace Diagnostics

/-! ### Lines of rich text -/

/-- The styles of all elements. -/
def Styling.styles (s : Styling) : List Style :=
  [s.location, s.headerError, s.headerWarning, s.headerNote, s.typeName, s.wrongType,
    s.traitName, s.wrongPart]

theorem Styling.header_mem_styles (s : Styling) (severity : Severity) :
  s.header severity ∈ s.styles
  := by
  cases severity with
  | error => simp [styles, header]
  | warning => simp [styles, header]
  | note => simp [styles, header]

/-- Whether a fragment is in a style of a styling, or in none, and its text lacks a character. -/
structure Fragment.Lacks (s : Styling) (ch : Char) (f : Fragment) : Prop where
  style : f.style = .plain ∨ f.style ∈ s.styles
  text : ch ∉ f.text.toList

/-- Whether a fragment lacks a character, or is in no style and lacks it up to the line feed at its
end. -/
def Fragment.LacksInLine (s : Styling) (ch : Char) (f : Fragment) : Prop :=
  f.Lacks s ch ∨ ∃ text, f = .ofText (text ++ "\n") ∧ ch ∉ text.toList

/-- Whether rich text consists of fragments with some property and a line feed. -/
def RichText.IsLine (P : Fragment → Prop) (r : RichText) : Prop :=
  ∃ parts last, r = parts ++ [.ofText (last ++ "\n")] ∧ (∀ f ∈ parts, P f) ∧ P (.ofText last)

variable {s : Styling} {ch : Char}

/-! ### Control characters -/

theorem not_mem_of_all (h : ch < ' ') {text : String} (htext : text.toList.all (' ' ≤ ·) = true) :
  ch ∉ text.toList
  := by
  intro hch
  have hle := List.all_eq_true.mp htext ch hch
  exact absurd (of_decide_eq_true hle) (Char.not_le.mpr h)

theorem not_mem_toString (h : ch < ' ') (n : Nat) :
  ch ∉ (toString n).toList
  := by
  intro hch
  have hdigit : '0' ≤ ch := by
    have h := Text.isDigit_of_mem_toString hch
    rw [Char.isDigit, Bool.and_eq_true, decide_eq_true_eq] at h
    apply h.1
  exact absurd (Char.le_trans (by decide) hdigit) (Char.not_le.mpr h)

theorem Fragment.lacks_ofText {text : String} (h : ch ∉ text.toList) :
  (ofText text).Lacks s ch
  := ⟨Or.inl rfl, h⟩

theorem RichText.IsLine.lacksInLine {r : RichText} (h : r.IsLine (Fragment.Lacks s ch)) :
  ∀ f ∈ r, f.LacksInLine s ch
  := by
  obtain ⟨parts, last, rfl, hparts, hlast⟩ := h
  rw [List.forall_mem_append, List.forall_mem_singleton]
  constructor
  · intro f hf
    left
    apply hparts f hf
  · right
    use last, rfl
    apply hlast.text

/-! ### Header and payload -/

theorem Span.not_mem_display {span : Span} (h : ch < ' ') (hpath : ch ∉ span.path.display.toList) :
  ch ∉ span.display.toList
  := by
  have hcolon : ch ∉ ":".toList := not_mem_of_all h (by decide)
  have hline := not_mem_toString h span.line
  have hcolumn := not_mem_toString h span.column
  rw [display]
  simp only [String.toList_append, List.mem_append, not_or]
  exact ⟨⟨⟨⟨hpath, hcolon⟩, hline⟩, hcolon⟩, hcolumn⟩

theorem Message.isLine_header (m : Message) (s : Styling) (h : ch < ' ')
    (hpath : ch ∉ m.span.path.display.toList) :
  RichText.IsLine (Fragment.Lacks s ch) (m.header s)
  := by
  refine ⟨[⟨s.location, m.span.display⟩, .ofText headerSeparator,
    ⟨s.header m.severity, m.severity.word ++ ":"⟩], "", rfl, ?_, ?_⟩
  · have hword : ch ∉ (m.severity.word ++ ":").toList := by
      apply not_mem_of_all h
      cases m.severity <;> decide
    simp only [List.forall_mem_cons]
    refine ⟨⟨Or.inr (by simp [Styling.styles]), Span.not_mem_display h hpath⟩,
      Fragment.lacks_ofText (not_mem_of_all h (by decide)),
      ⟨Or.inr (s.header_mem_styles _), hword⟩, by simp⟩
  · apply Fragment.lacks_ofText
    simp

theorem Bindings.lacks_of_styledName {b : Bindings} {style : Style} {ty : Ty} {f : Fragment}
    (hstyle : style ∈ s.styles) (hname : ∀ name, b.nameOf ty = .ok name → ch ∉ name.toList)
    (h : b.styledName style ty = .ok f) :
  f.Lacks s ch
  := by
  rw [styledName] at h
  split at h
  · rename_i name hty
    obtain rfl := Except.ok.inj h
    exact ⟨Or.inr hstyle, hname name hty⟩
  · contradiction

/-- A primitive type brings what is in its name. -/
theorem Payload.not_mem_of_nameOf {b : Bindings} {p : Payload} {name : String}
    (htypes : p.types = [.primitive name]) (hname : ch ∉ name.toList) :
  ∀ ty ∈ p.types, ∀ name', b.nameOf ty = .ok name' → ch ∉ name'.toList
  := by
  rw [htypes, List.forall_mem_singleton, b.nameOf_primitive]
  intro name' h
  obtain rfl := Except.ok.inj h
  apply hname

/-- The line about a payload has no control characters but those in the names of its types and the
line feed at its end. -/
theorem Payload.isLine_body {b : Bindings} {p : Payload} {r : RichText} (hch : ch < ' ')
    (htypes : ∀ ty ∈ p.types, ∀ name, b.nameOf ty = .ok name → ch ∉ name.toList)
    (h : p.body b s = .ok r) :
  RichText.IsLine (Fragment.Lacks s ch) r
  := by
  have htype : s.typeName ∈ s.styles := by simp [Styling.styles]
  have hwrong : s.wrongType ∈ s.styles := by simp [Styling.styles]
  -- the words are the same for all messages, so they are only looked through
  have hwords : ∀ text : String, text.toList.all (' ' ≤ ·) = true →
      (Fragment.ofText text).Lacks s ch :=
    fun _ htext => Fragment.lacks_ofText (not_mem_of_all hch htext)
  have hname : ∀ {style ty f}, style ∈ s.styles → ty ∈ p.types → b.styledName style ty = .ok f →
      f.Lacks s ch :=
    fun hstyle hty hf => Bindings.lacks_of_styledName hstyle (htypes _ hty) hf
  cases p with
  | mismatchedParameters expected got =>
    obtain ⟨expected', hexpected, h⟩ := bind_eq_ok_iff.mp h
    obtain ⟨got', hgot, h⟩ := bind_eq_ok_iff.mp h
    obtain rfl := Except.ok.inj h
    have hexpected := hname htype (by simp [types]) hexpected
    have hgot := hname hwrong (by simp [types]) hgot
    use [.ofText "Mismatched parameters: expected ", expected', .ofText ", got ", got'], "", rfl
    simp [hexpected, hgot, hwords]
  | refRequired got =>
    obtain ⟨got', hgot, h⟩ := bind_eq_ok_iff.mp h
    obtain rfl := Except.ok.inj h
    have hgot := hname hwrong (by simp [types]) hgot
    use [.ofText "Expression of type ", got'],
      " must be a mutable-reference type to be assigned to", rfl
    simp [hgot, hwords]
  | cannotAssign expected got =>
    obtain ⟨got', hgot, h⟩ := bind_eq_ok_iff.mp h
    obtain ⟨expected', hexpected, h⟩ := bind_eq_ok_iff.mp h
    obtain rfl := Except.ok.inj h
    have hgot := hname hwrong (by simp [types]) hgot
    have hexpected := hname htype (by simp [types]) hexpected
    use [.ofText "Cannot assign expression of type ", got', .ofText " to a reference of type ",
      expected'], "", rfl
    simp [hgot, hexpected, hwords]
  | notAFunction got =>
    obtain ⟨got', hgot, h⟩ := bind_eq_ok_iff.mp h
    obtain rfl := Except.ok.inj h
    have hgot := hname hwrong (by simp [types]) hgot
    use [.ofText "Value being called is not a function, it is a ", got'], "", rfl
    simp [hgot, hwords]
  | parameterCount function got expected =>
    obtain ⟨function', hfunction, h⟩ := bind_eq_ok_iff.mp h
    obtain rfl := Except.ok.inj h
    have hfunction := hname hwrong (by simp [types]) hfunction
    have hexpected : Fragment.Lacks s ch ⟨s.typeName, toString expected⟩ :=
      ⟨Or.inr htype, not_mem_toString hch expected⟩
    have hgot : Fragment.Lacks s ch ⟨s.wrongType, toString got⟩ :=
      ⟨Or.inr hwrong, not_mem_toString hch got⟩
    have hword : (Fragment.ofText (" " ++ parameterWord expected ++ ", but ")).Lacks s ch := by
      apply hwords
      rw [parameterWord]
      split <;> decide
    use [.ofText "Function ", function', .ofText " declared to take ",
      ⟨s.typeName, toString expected⟩, .ofText (" " ++ parameterWord expected ++ ", but "),
      ⟨s.wrongType, toString got⟩], " were supplied", rfl
    simpa [hfunction, hword, hwords] using And.intro hexpected hgot
  | _ => contradiction

/-! ### Source line -/

namespace Snippet

/-- The pieces of a source line bring only characters of the line. -/
theorem lacks_of_mem_rich {pieces : Snippet} {line : List Char} (hline : ch ∉ line)
    (hpieces : pieces.before ++ pieces.highlighted ++ pieces.after = String.ofList line) :
  ∀ f ∈ pieces.rich s.wrongPart, f.Lacks s ch
  := by
  rw [← String.toList_ofList (l := line), ← hpieces] at hline
  simp only [String.toList_append, List.mem_append, not_or] at hline
  obtain ⟨⟨hbefore, hhighlighted⟩, hafter⟩ := hline
  have hmiddle : ∀ f ∈ RichText.nonempty s.wrongPart pieces.highlighted, f.Lacks s ch := by
    rw [RichText.nonempty]
    split
    · simp
    · rw [List.forall_mem_singleton]
      exact ⟨Or.inr (by simp [Styling.styles]), hhighlighted⟩
  rw [rich, List.cons_append, List.forall_mem_cons, List.forall_mem_append,
    List.forall_mem_singleton]
  exact ⟨Fragment.lacks_ofText hbefore, hmiddle, Fragment.lacks_ofText hafter⟩

theorem not_mem_marker (h : ch < ' ') (low high : Nat) :
  ch ∉ (marker low high).toList
  := by
  apply not_mem_of_all h
  rw [List.all_eq_true]
  intro c hc
  rw [marker, String.toList_ofList] at hc
  rcases List.mem_append.mp hc with hc | hc
  · rw [List.eq_of_mem_replicate hc]
    rfl
  · rw [List.eq_of_mem_replicate hc]
    rfl

end Snippet

/-! ### Whole messages -/

namespace Message

variable {m : Message} {r : RichText}

theorem lacksInLine_of_mem_snippet {line : List Char} (hch : ch < ' ') (hline : ch ∉ line)
    (h : m.snippet line s = .ok r) :
  ∀ f ∈ r, f.LacksInLine s ch
  := by
  obtain ⟨pieces, hpieces, hsnippet⟩ := m.snippet_eq_ok line s
  obtain rfl := Except.ok.inj (hsnippet.symm.trans h)
  rw [List.forall_mem_append, List.forall_mem_append, List.forall_mem_singleton]
  refine ⟨⟨?_, ?_⟩, ?_⟩
  · intro f hf
    left
    apply Snippet.lacks_of_mem_rich hline hpieces f hf
  · right
    use "", rfl
    apply List.not_mem_nil
  · split
    · rw [List.forall_mem_singleton]
      right
      refine ⟨_, rfl, ?_⟩
      apply Snippet.not_mem_marker hch
    · simp

/-- A message has no control characters but those in its path, the names of its types and its source
line, and the line feeds at the ends of fragments in no style. -/
theorem lacksInLine_of_mem_renderRich {c : Cache} (hch : ch < ' ')
    (hpath : ch ∉ m.span.path.display.toList)
    (htypes : ∀ ty ∈ m.payload.types, ∀ name, c.bindings.nameOf ty = .ok name → ch ∉ name.toList)
    (hline : ∀ source line, c.sources.textOf m.span.path = .ok source →
      m.sourceLine source = .ok line → ch ∉ line)
    (h : m.renderRich c s = .ok r) :
  ∀ f ∈ r, f.LacksInLine s ch
  := by
  obtain ⟨source, line, hsource, hsourceLine, h⟩ := renderRich_eq_ok_iff.mp h
  obtain ⟨body, hbody, h⟩ := bind_eq_ok_iff.mp h
  obtain ⟨snippet, hsnippet, h⟩ := bind_eq_ok_iff.mp h
  obtain rfl := Except.ok.inj h
  rw [List.forall_mem_append, List.forall_mem_append]
  refine ⟨⟨?_, ?_⟩, ?_⟩
  · apply (m.isLine_header s hch hpath).lacksInLine
  · apply (Payload.isLine_body hch htypes hbody).lacksInLine
  · apply lacksInLine_of_mem_snippet hch (hline source line hsource hsourceLine) hsnippet

end Message

end Diagnostics
