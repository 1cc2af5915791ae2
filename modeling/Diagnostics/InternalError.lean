import Diagnostics.Location

/-!
# Errors of the reporting itself

An `InternalError` is not a diagnostic about somebody's program but a failure to report
one. A part of the reporting that is not written yet is told apart from input that the
reporting cannot deal with.
-/

namespace Diagnostics

/-- A failure to report. -/
inductive InternalError where
  | general (message : String) (location : Option Location)
  | sourceUnavailable (path reason : String)
  | notImplemented (message code : String)

namespace InternalError

/-- The code of a part that is not written yet. -/
def defaultCode : String := "E9999"

/-- What went wrong. -/
def message : InternalError → String
  | general message _ => message
  | sourceUnavailable path reason => s!"could not read source file {path}: {reason}"
  | notImplemented message _ => message

/-- What went wrong, with a place or a code in front where there is one. -/
def text (e : InternalError) : String :=
  match e with
  | general message (some l) => l.display ++ ": " ++ message
  | notImplemented message code => s!"[{code}] not implemented: {message}"
  | _ => e.message

/-- Whether a part of the reporting is missing. -/
def isMissingPart : InternalError → Bool
  | notImplemented _ _ => true
  | _ => false

end InternalError

end Diagnostics
