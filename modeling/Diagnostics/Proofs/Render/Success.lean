import Diagnostics.Proofs.Outcome
import Diagnostics.Proofs.Render.Snippet
import Diagnostics.Proofs.Text.CodePoint
import Diagnostics.Proofs.Ty.Naming

/-!
# Messages that have a rendering

Rendering looks up the source, takes the source line, names the types of the payload and cuts the
line. The last step never fails, so `Message.exists_render_iff` says that a message has a rendering
when its source can be read, there are no surrogates on its line, its payload has a wording and its
types are nameable. A source that is a string has no surrogates.
-/

namespace Diagnostics

namespace Payload

/-- The types that the line about a payload names, in its order. -/
def types : Payload → List Ty
  | mismatchedParameters expected got => [expected, got]
  | refRequired got => [got]
  | cannotAssign expected got => [got, expected]
  | notAFunction got => [got]
  | parameterCount function _ _ => [function]
  | _ => []

/-- Whether there is a line about a payload. -/
def hasWording : Payload → Bool
  | unspecified => false
  | warning => false
  | note => false
  | _ => true

variable {b : Bindings}

theorem exists_styledName_iff {style : Style} {ty : Ty} :
  (∃ fragment, b.styledName style ty = .ok fragment) ↔ b.Nameable ty
  := by
  rw [← Bindings.exists_nameOf_iff, Bindings.styledName]
  cases b.nameOf ty with
  | error cause => simp
  | ok name => simp

/-- There is a line about a payload when it has a wording and its types are nameable. -/
theorem exists_body_iff {p : Payload} {s : Styling} :
  (∃ r, p.body b s = .ok r) ↔ p.hasWording = true ∧ ∀ ty ∈ p.types, b.Nameable ty
  := by
  cases p with
  | unspecified => simp [body, hasWording]
  | warning => simp [body, hasWording]
  | note => simp [body, hasWording]
  | _ =>
    -- the line itself never fails once the types in it have names
    simp only [body, exists_bind_eq_ok_iff, hasWording, types, List.forall_mem_cons,
      List.not_mem_nil, false_imp_iff, implies_true, and_true, true_and]
    simp [pure, Except.pure, exists_styledName_iff]

end Payload

namespace Message

/-! ### Source lines -/

/-- A string has a source line for every message. -/
theorem sourceLine_ofString (m : Message) (source : String) :
  m.sourceLine source = .ok ((Text.lines source.toList)[m.span.line - 1]?.getD [])
  := by
  rw [sourceLine, sourcePoints, SourceText.lines_ofString, List.getElem?_map]
  cases (Text.lines source.toList)[m.span.line - 1]? with
  | none => rfl
  | some line => apply CodePoint.characters_map_char

/-- There is a source line when the code points on it are all characters. -/
theorem exists_sourceLine_iff {m : Message} {source : SourceText} :
  (∃ line, m.sourceLine source = .ok line)
    ↔ ∀ p ∈ m.sourcePoints source, p.isSurrogate = false
  := CodePoint.exists_characters_iff

theorem exists_sourceLine_error_iff {m : Message} {source : SourceText} :
  (∃ fault, m.sourceLine source = .error fault)
    ↔ ∃ p ∈ m.sourcePoints source, p.isSurrogate = true
  := CodePoint.exists_characters_error_iff

/-! ### Renderings -/

variable {m : Message} {c : Cache} {s : Styling}

/-- Over a source line only the line about the payload can be missing. -/
theorem exists_renderLine_iff {line : List Char} {b : Bindings} :
  (∃ r, m.renderLine line b s = .ok r) ↔ ∃ r, m.payload.body b s = .ok r
  := by
  obtain ⟨pieces, -, hsnippet⟩ := m.snippet_eq_ok line s
  simp only [renderLine, exists_bind_eq_ok_iff, hsnippet]
  simp [pure, Except.pure]

theorem renderOver_of_sourceLine {source : SourceText} {line : List Char} (b : Bindings)
    (s : Styling) (h : m.sourceLine source = .ok line) :
  m.renderOver source b s = m.renderLine line b s
  := by
  rw [renderOver, h]

/-- What is rendered of a message is rendered over its source line. -/
theorem renderRich_eq_ok_iff {r : RichText} :
  m.renderRich c s = .ok r ↔ ∃ source line, c.sources.textOf m.span.path = .ok source
    ∧ m.sourceLine source = .ok line ∧ m.renderLine line c.bindings s = .ok r
  := by
  rw [renderRich]
  cases c.sources.textOf m.span.path with
  | error cause => simp
  | ok source =>
    simp only [renderOver, Except.ok.injEq, exists_and_left, exists_eq_left']
    cases m.sourceLine source with
    | error fault => simp
    | ok line => simp

theorem exists_render_iff_exists_renderRich :
  (∃ text, m.render c s = .ok text) ↔ ∃ r, m.renderRich c s = .ok r
  := by
  simp [render, map_eq_ok_iff]

/-- A message has a rendering when its source can be read and has characters alone on the line of
the message, its payload has a wording and the types in it are nameable. -/
theorem exists_render_iff :
  (∃ text, m.render c s = .ok text) ↔
    (∃ source line, c.sources.textOf m.span.path = .ok source ∧ m.sourceLine source = .ok line)
      ∧ m.payload.hasWording = true ∧ ∀ ty ∈ m.payload.types, c.bindings.Nameable ty
  := by
  rw [exists_render_iff_exists_renderRich, ← Payload.exists_body_iff (s := s)]
  constructor
  · rintro ⟨r, hr⟩
    obtain ⟨source, line, hsource, hline, hr⟩ := renderRich_eq_ok_iff.mp hr
    exact ⟨⟨source, line, hsource, hline⟩, exists_renderLine_iff.mp ⟨r, hr⟩⟩
  · rintro ⟨⟨source, line, hsource, hline⟩, hbody⟩
    obtain ⟨r, hr⟩ := exists_renderLine_iff.mpr hbody
    use r, renderRich_eq_ok_iff.mpr ⟨source, line, hsource, hline, hr⟩

/-- So over a string a message that names a primitive type alone has a rendering. -/
theorem exists_render_of_primitive {source name : String} (s : Styling)
    (hsource : c.sources.textOf m.span.path = .ok source) (hwording : m.payload.hasWording = true)
    (htypes : m.payload.types = [.primitive name]) :
  ∃ text, m.render c s = .ok text
  := by
  apply exists_render_iff.mpr
  refine ⟨⟨source, _, hsource, m.sourceLine_ofString source⟩, hwording, ?_⟩
  rw [htypes, List.forall_mem_singleton]
  apply Bindings.nameable_primitive

end Message

end Diagnostics
