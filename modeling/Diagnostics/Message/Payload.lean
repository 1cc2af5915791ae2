import Diagnostics.Ty.Basic

/-!
# Payloads

A `Payload` is what a diagnostic has to say: one of five errors about types, an error of
no known kind, or the placeholder of a warning or a note. Its severity follows from its
kind. A `Content` is what a caller offers for a message: a payload, a payload tagged with
its severity, or something that is no payload. `Content.tag` refuses a severity that is
not the payload's own, so a tagged payload needs no other record of it.
-/

namespace Diagnostics

/-- How serious a diagnostic is. -/
inductive Severity where
  | error
  | warning
  | note
deriving DecidableEq, Repr

namespace Severity

/-- The severities, the most serious first. -/
def all : List Severity := [error, warning, note]

/-- The word for a severity in a header. -/
def word : Severity → String
  | error => "error"
  | warning => "warning"
  | note => "note"

/-- The name of the family of payloads of a severity. -/
def family : Severity → String
  | error => "CompilationError"
  | warning => "CompilationWarning"
  | note => "CompilationNote"

/-- A severity in an error text. -/
def written : Severity → String
  | error => "<Severity.ERROR: 'error'>"
  | warning => "<Severity.WARNING: 'warning'>"
  | note => "<Severity.NOTE: 'note'>"

end Severity

/-- What a diagnostic says. -/
inductive Payload where
  | mismatchedParameters (expected got : Ty)
  | refRequired (got : Ty)
  | cannotAssign (expected got : Ty)
  | notAFunction (got : Ty)
  | parameterCount (function : Ty) (got expected : Nat)
  /-- An error of no known kind. -/
  | unspecified
  | warning
  | note

namespace Payload

/-- The severity of a payload. -/
def severity : Payload → Severity
  | warning => .warning
  | note => .note
  | _ => .error

/-- The name of the kind of a payload. -/
def kindName : Payload → String
  | mismatchedParameters _ _ => "MismatchedParameters"
  | refRequired _ => "RefRequiredForAssignment"
  | cannotAssign _ _ => "CannotAssignToRef"
  | notAFunction _ => "ValueIsNotAFunction"
  | parameterCount _ _ _ => "InvalidNumberOfParameters"
  | unspecified => Severity.error.family
  | warning => Severity.warning.family
  | note => Severity.note.family

/-- Named fields behind the name of their kind. -/
def writtenFields (kindName : String) (fields : List (String × String)) : String :=
  kindName ++ "(" ++ ", ".intercalate (fields.map (fun f => f.1 ++ "=" ++ f.2)) ++ ")"

/-- The placeholder of a family of payloads. -/
def writtenPlaceholder (family : String) : String :=
  "<" ++ family ++ ".TODO: 'todo'>"

/-- A payload in an error text; an error of no known kind has no text of its own. -/
def written? : Payload → Option String
  | mismatchedParameters expected got =>
    some (writtenFields "MismatchedParameters"
      [("expected", expected.written), ("got", got.written)])
  | refRequired got => some (writtenFields "RefRequiredForAssignment" [("got", got.written)])
  | cannotAssign expected got =>
    some (writtenFields "CannotAssignToRef"
      [("expected", expected.written), ("got", got.written)])
  | notAFunction got => some (writtenFields "ValueIsNotAFunction" [("got", got.written)])
  | parameterCount function got expected =>
    some (writtenFields "InvalidNumberOfParameters"
      [("function", function.written), ("got", toString got), ("expected", toString expected)])
  | unspecified => none
  | warning => some (writtenPlaceholder Severity.warning.family)
  | note => some (writtenPlaceholder Severity.note.family)

/-- Whether two payloads are equal. Errors of no known kind are all different. -/
def same : Payload → Payload → Bool
  | mismatchedParameters expected got, mismatchedParameters expected' got' =>
    expected.same expected' && got.same got'
  | refRequired got, refRequired got' => got.same got'
  | cannotAssign expected got, cannotAssign expected' got' =>
    expected.same expected' && got.same got'
  | notAFunction got, notAFunction got' => got.same got'
  | parameterCount function got expected, parameterCount function' got' expected' =>
    function.same function' && got == got' && expected == expected'
  | warning, warning => true
  | note, note => true
  | _, _ => false

end Payload

/-- What is offered as the content of a message. -/
inductive Content where
  | payload (p : Payload)
  /-- A payload tagged with its own severity. -/
  | tagged (p : Payload)
  /-- A type or other data in place of a payload. -/
  | stray (ty : Ty)

/-- Why a content is refused. -/
inductive ContentError where
  | negativeCount
  | wrongFamily (severity : Severity) (got : String)
  | notAPayload (content : Content)

namespace Content

/-- The name of the kind of a content. -/
def kindName : Content → String
  | payload p => p.kindName
  | tagged _ => "MessageType"
  | stray ty => ty.kindName

/-- A content in an error text, where it has one. -/
def written? : Content → Option String
  | payload p => p.written?
  | tagged p =>
    p.written?.map (fun text =>
      Payload.writtenFields "MessageType"
        [("severity", p.severity.written), ("payload", text)])
  | stray ty => some ty.written

/-- Whether two contents are equal. -/
def same : Content → Content → Bool
  | payload p, payload q => p.same q
  | tagged p, tagged q => p.same q
  | stray ty, stray ty' => ty.same ty'
  | _, _ => false

/-- An error about the number of arguments of a function; no count is negative. -/
def parameterCount? (function : Ty) (got expected : Int) : Except ContentError Content :=
  if got < 0 ∨ expected < 0 then .error .negativeCount
  else .ok (.payload (.parameterCount function got.toNat expected.toNat))

/-- A payload tagged with a severity, which has to be its own. -/
def tag (severity : Severity) (c : Content) : Except ContentError Content :=
  match c with
  | payload p =>
    if p.severity = severity then .ok (.tagged p)
    else .error (.wrongFamily severity c.kindName)
  | _ => .error (.wrongFamily severity c.kindName)

/-- The payload of a content. -/
def payload? : Content → Except ContentError Payload
  | payload p => .ok p
  | tagged p => .ok p
  | stray ty => .error (.notAPayload (.stray ty))

end Content

/-- The text of an error about contents, where it has one. -/
def ContentError.message? : ContentError → Option String
  | negativeCount => some "parameter counts must be >= 0"
  | wrongFamily severity got =>
    some s!"{severity.word} message needs a {severity.family} payload, got {got}"
  | notAPayload content => content.written?.map (fun text => s!"not a message payload: {text}")

end Diagnostics
