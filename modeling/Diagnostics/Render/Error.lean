import Diagnostics.Cache
import Diagnostics.InternalError
import Diagnostics.Message.Payload

/-!
# Errors of rendering

Why a message has no rendering: its source cannot be read, a type in it has no name, its
kind has no wording, its source line has no bytes, or a piece of that line is not text.
-/

namespace Diagnostics

/-- Why a message cannot be rendered. -/
inductive RenderError where
  /-- The source of a path cannot be read. -/
  | sourceUnavailable (path : String) (cause : ReadError)
  /-- The path of the source holds a null character. -/
  | nullInPath
  | naming (cause : NamingError)
  /-- There is no wording for a severity yet. -/
  | notImplemented (severity : Severity)
  | notAPayload (content : Content)
  /-- The source line holds surrogates. -/
  | notEncodable (fault : CodePoint.Fault)
  /-- A piece of the source line is cut inside a character. -/
  | notText (fault : Utf8.Fault)

namespace RenderError

/-- A failure to read the source of a path. A null character in the path is a fault of the
path and not of its file. -/
def ofRead (path : String) : ReadError → RenderError
  | .path .nullInPath => nullInPath
  | cause => sourceUnavailable path cause

/-- The failure to report that an error amounts to, if any. -/
def internal? : RenderError → Option InternalError
  | sourceUnavailable path cause => some (.sourceUnavailable path cause.message)
  | notImplemented severity =>
    some (.notImplemented s!"rendering of {severity.word} messages" InternalError.defaultCode)
  | _ => none

/-- The text of an error, where it has one. -/
def message? (e : RenderError) : Option String :=
  match e with
  | nullInPath => some PathError.nullInPath.message
  | naming cause => cause.message?
  | notAPayload (.payload _) => none
  | notAPayload content => (ContentError.notAPayload content).message?
  | notEncodable fault => some fault.message
  | notText fault => some fault.message
  | _ => e.internal?.map InternalError.text

end RenderError

end Diagnostics
