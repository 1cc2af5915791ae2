import Diagnostics.Proofs.Render.Success
import Diagnostics.Proofs.Render.Unreadable
import Diagnostics.Proofs.Ty.Parts

/-!
# Messages that have no rendering

Rendering stops at the first thing that goes wrong: the source, then surrogates on the source line,
then the payload, then the types of the payload in the order in which its line names them.
`Payload.Fails` says what goes wrong with a payload, and nothing else can once there is a source
line, whatever the text and the span. `Message.render_outcome` tells all outcomes of a message apart.
-/

namespace Diagnostics

namespace Bindings

variable {b : Bindings}

/-- Whether an error is that of the first of some types that has no name. -/
def FirstUnnamed (b : Bindings) (tys : List Ty) (cause : NamingError) : Prop :=
  ∃ before ty after, tys = before ++ ty :: after
    ∧ (∀ t ∈ before, ∃ name, b.nameOf t = .ok name) ∧ b.nameOf ty = .error cause

theorem not_firstUnnamed_nil {cause : NamingError} :
  ¬ b.FirstUnnamed [] cause
  := by
  rintro ⟨before, ty, after, h, -⟩
  simp at h

theorem firstUnnamed_cons_iff {ty : Ty} {tys : List Ty} {cause : NamingError} :
  b.FirstUnnamed (ty :: tys) cause ↔ b.nameOf ty = .error cause
    ∨ (∃ name, b.nameOf ty = .ok name) ∧ b.FirstUnnamed tys cause
  := by
  constructor
  · rintro ⟨before, first, after, h, hbefore, hfirst⟩
    cases before with
    | nil =>
      obtain ⟨rfl, rfl⟩ := List.cons.inj h
      left
      apply hfirst
    | cons t before =>
      rw [List.cons_append] at h
      obtain ⟨rfl, rfl⟩ := List.cons.inj h
      obtain ⟨hty, hbefore⟩ := List.forall_mem_cons.mp hbefore
      right
      use hty, before, first, after
  · rintro (hty | ⟨hty, before, first, after, rfl, hbefore, hfirst⟩)
    · use [], ty, tys
      simp [hty]
    · use ty :: before, first, after, rfl, List.forall_mem_cons.mpr ⟨hty, hbefore⟩

theorem styledName_eq_error_iff {style : Style} {ty : Ty} {e : RenderError} :
  b.styledName style ty = .error e ↔ ∃ cause, b.nameOf ty = .error cause ∧ e = .naming cause
  := by
  rw [styledName]
  cases b.nameOf ty with
  | error cause => simp [eq_comm]
  | ok name => simp

end Bindings

namespace Payload

variable {b : Bindings} {s : Styling}

/-- What keeps a payload from having a line: it has no wording, or one of its types has no
name. -/
inductive Fails (b : Bindings) : Payload → RenderError → Prop where
  | warning : Fails b warning (.notImplemented .warning)
  | note : Fails b note (.notImplemented .note)
  /-- An error of no known kind does not count as a payload here. -/
  | unspecified : Fails b unspecified (.notAPayload (.payload unspecified))
  | unnamed {p : Payload} {cause : NamingError} (h : b.FirstUnnamed p.types cause) :
      Fails b p (.naming cause)

theorem fails_iff_of_hasWording {p : Payload} {e : RenderError} (h : p.hasWording = true) :
  p.Fails b e ↔ ∃ cause, b.FirstUnnamed p.types cause ∧ e = .naming cause
  := by
  constructor
  · intro hfails
    cases hfails with
    | unnamed hfirst => exact ⟨_, hfirst, rfl⟩
    | _ => contradiction
  · rintro ⟨cause, hfirst, rfl⟩
    apply Fails.unnamed hfirst

/-- The line about a payload is missing for one of these reasons. -/
theorem body_eq_error_iff {p : Payload} {e : RenderError} :
  p.body b s = .error e ↔ p.Fails b e
  := by
  cases p with
  | unspecified =>
    constructor
    · intro h
      obtain rfl := Except.error.inj h
      apply Fails.unspecified
    · intro h
      cases h with
      | unspecified => rfl
      | unnamed h => exact absurd h Bindings.not_firstUnnamed_nil
  | warning =>
    constructor
    · intro h
      obtain rfl := Except.error.inj h
      apply Fails.warning
    · intro h
      cases h with
      | warning => rfl
      | unnamed h => exact absurd h Bindings.not_firstUnnamed_nil
  | note =>
    constructor
    · intro h
      obtain rfl := Except.error.inj h
      apply Fails.note
    · intro h
      cases h with
      | note => rfl
      | unnamed h => exact absurd h Bindings.not_firstUnnamed_nil
  | _ =>
    rw [fails_iff_of_hasWording rfl]
    -- the types are named one by one, and the first without a name decides
    simp only [body, types, bind_eq_error_iff, Bindings.styledName_eq_error_iff,
      Bindings.firstUnnamed_cons_iff, Bindings.not_firstUnnamed_nil, pure, Except.pure,
      reduceCtorEq, and_false, exists_false, or_false, exists_and_right, or_and_right, exists_or,
      exists_styledName_iff, Bindings.exists_nameOf_iff, and_assoc, exists_and_left]

end Payload

namespace Message

/-! ### Outcomes -/

variable {m : Message} {c : Cache} {s : Styling}

/-- Over a source line nothing but the payload can fail. -/
theorem renderLine_eq_error_iff {line : List Char} {b : Bindings} {e : RenderError} :
  m.renderLine line b s = .error e ↔ m.payload.Fails b e
  := by
  obtain ⟨pieces, -, hsnippet⟩ := m.snippet_eq_ok line s
  rw [← Payload.body_eq_error_iff (s := s)]
  simp [renderLine, bind_eq_error_iff, hsnippet, pure, Except.pure]

theorem render_eq_error_iff_of_sourceLine {source : SourceText} {line : List Char}
    {e : RenderError} (h : c.sources.textOf m.span.path = .ok source)
    (hline : m.sourceLine source = .ok line) :
  m.render c s = .error e ↔ m.payload.Fails c.bindings e
  := by
  rw [render, renderRich, h, map_eq_error_iff]
  simp only [renderOver_of_sourceLine _ _ hline]
  apply renderLine_eq_error_iff

/-- Surrogates on its source line keep a message from being rendered, whatever its payload. -/
theorem render_of_sourceLine_error {source : SourceText} {fault : CodePoint.Fault} (s : Styling)
    (h : c.sources.textOf m.span.path = .ok source) (hline : m.sourceLine source = .error fault) :
  m.render c s = .error (.notEncodable fault)
  := by
  rw [render, renderRich, h, map_eq_error_iff]
  simp only [renderOver, hline]

/-- A rendered message starts with its header. -/
theorem exists_append_of_render {text : String} (h : m.render c s = .ok text) :
  ∃ rest, text = (m.header s).painted ++ rest
  := by
  obtain ⟨r, hr, rfl⟩ := map_eq_ok_iff.mp h
  obtain ⟨source, line, -, -, hr⟩ := renderRich_eq_ok_iff.mp hr
  obtain ⟨body, -, hr⟩ := bind_eq_ok_iff.mp hr
  obtain ⟨snippet, -, hr⟩ := bind_eq_ok_iff.mp hr
  obtain rfl := Except.ok.inj hr
  use RichText.painted (body ++ snippet)
  rw [List.append_assoc, RichText.painted_append]

theorem painted_header (m : Message) (s : Styling) :
  (m.header s).painted = s.location.paint m.span.display ++ headerSeparator
    ++ (s.header m.severity).paint (m.severity.word ++ ":") ++ "\n"
  := by
  simp [header, Fragment.painted, Fragment.ofText, String.append_assoc]

/-! ### Severities -/

theorem isError_iff :
  m.isError = true ↔ m.severity = .error
  := by
  simp [isError]

/-- A message is an error when its payload is one of the five kinds or of none. -/
theorem isError_iff_payload :
  m.isError = true ↔ m.payload.hasWording = true ∨ m.payload = .unspecified
  := by
  rw [isError_iff, severity]
  cases m.payload <;> simp [Payload.severity, Payload.hasWording]

/-- A tagged content makes messages of the severity of the tag. -/
theorem severity_of_tag {l : Location} {severity : Severity} {offered content : Content}
    (htag : content.tag severity = .ok offered) (h : new l offered = .ok m) :
  m.severity = severity
  := by
  cases content with
  | payload p =>
    rw [Content.tag] at htag
    split at htag
    · rename_i hseverity
      obtain rfl := Except.ok.inj htag
      obtain ⟨-, hp⟩ := new_eq_ok_iff.mp h
      simp only [reduceCtorEq, Content.tagged.injEq, false_or] at hp
      rw [Message.severity, ← hp, hseverity]
    · contradiction
  | _ => contradiction

/-- A message about an assignment between two types without names. -/
def aboutAssignment : Message :=
  ⟨⟨.written "main.an", 1, 1, 0, Nat.one_pos, Nat.one_pos⟩,
    .cannotAssign (.stray .null) (.bare .ref)⟩

/-- Half of a surrogate pair. -/
def loneHalf : SourceText :=
  ⟨[.surrogate 0]⟩

/-- A warning about it. -/
def warningAboutHalf : Message :=
  ⟨⟨.written "main.an", 1, 1, 0, Nat.one_pos, Nat.one_pos⟩, .warning⟩

end Message

end Diagnostics
