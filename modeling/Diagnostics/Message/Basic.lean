import Diagnostics.Location
import Diagnostics.Message.Payload

/-!
# Messages

A `Message` is a diagnostic as it is stored: a payload at a span that owns its file name.
-/

namespace Diagnostics

/-- A located diagnostic. -/
structure Message where
  span : Span
  payload : Payload

namespace Message

/-- The message of a content at a location, which is made to own its file name. -/
def new (l : Location) (c : Content) : Except ContentError Message :=
  c.payload?.map (fun p => ⟨l.toOwned, p⟩)

/-- The severity of a message. -/
def severity (m : Message) : Severity :=
  m.payload.severity

/-- Whether a message is an error. -/
def isError (m : Message) : Bool :=
  m.severity = .error

/-- Whether two messages are equal. -/
def same (m m' : Message) : Bool :=
  m.span.same m'.span && m.payload.same m'.payload

/-- Severity and place of a message in one line. -/
def summary (m : Message) : String :=
  m.severity.word ++ " " ++ m.span.display

/-- A content is accepted exactly when it holds a payload, tagged or not. -/
theorem new_eq_ok_iff {l : Location} {c : Content} {m : Message} :
  new l c = .ok m ↔ m.span = l.toOwned ∧ (c = .payload m.payload ∨ c = .tagged m.payload)
  := by
  obtain ⟨s, p⟩ := m
  cases c with
  | payload q =>
    simp only [new, Content.payload?, Except.map, Except.ok.injEq, Message.mk.injEq,
      Content.payload.injEq, reduceCtorEq, or_false]
    constructor
    · rintro ⟨h, h'⟩
      exact ⟨h.symm, h'⟩
    · rintro ⟨h, h'⟩
      exact ⟨h.symm, h'⟩
  | tagged q =>
    simp only [new, Content.payload?, Except.map, Except.ok.injEq, Message.mk.injEq,
      Content.tagged.injEq, reduceCtorEq, false_or]
    constructor
    · rintro ⟨h, h'⟩
      exact ⟨h.symm, h'⟩
    · rintro ⟨h, h'⟩
      exact ⟨h.symm, h'⟩
  | stray ty => simp [new, Content.payload?, Except.map]

end Message

end Diagnostics
