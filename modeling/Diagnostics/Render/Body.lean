import Diagnostics.Render.Error
import Diagnostics.Style.RichText
import Diagnostics.Style.Styling

/-!
# Message bodies

The body of a message is one line of text about its payload. Types are named through the
bindings at the time of rendering, in the order in which the line mentions them, and each
name is set in the style for types or for wrong types.
-/

namespace Diagnostics

namespace Bindings

/-- The name of a type in a style. -/
def styledName (b : Bindings) (style : Style) (ty : Ty) : Except RenderError Fragment :=
  match b.nameOf ty with
  | .ok name => .ok ⟨style, name⟩
  | .error cause => .error (.naming cause)

end Bindings

/-- The word for a number of parameters; none are one in this. -/
def parameterWord (n : Nat) : String :=
  if n < 2 then "parameter" else "parameters"

/-- The line about a payload. -/
def Payload.body (p : Payload) (b : Bindings) (s : Styling) : Except RenderError RichText :=
  match p with
  | .mismatchedParameters expected got => do
    let expected ← b.styledName s.typeName expected
    let got ← b.styledName s.wrongType got
    return [.ofText "Mismatched parameters: expected ", expected, .ofText ", got ", got,
      .ofText "\n"]
  | .refRequired got => do
    let got ← b.styledName s.wrongType got
    return [.ofText "Expression of type ", got,
      .ofText " must be a mutable-reference type to be assigned to\n"]
  | .cannotAssign expected got => do
    let got ← b.styledName s.wrongType got
    let expected ← b.styledName s.typeName expected
    return [.ofText "Cannot assign expression of type ", got,
      .ofText " to a reference of type ", expected, .ofText "\n"]
  | .notAFunction got => do
    let got ← b.styledName s.wrongType got
    return [.ofText "Value being called is not a function, it is a ", got, .ofText "\n"]
  | .parameterCount function got expected => do
    let function ← b.styledName s.wrongType function
    return [.ofText "Function ", function, .ofText " declared to take ",
      ⟨s.typeName, toString expected⟩, .ofText (" " ++ parameterWord expected ++ ", but "),
      ⟨s.wrongType, toString got⟩, .ofText " were supplied\n"]
  | .unspecified => .error (.notAPayload (.payload .unspecified))
  | .warning => .error (.notImplemented .warning)
  | .note => .error (.notImplemented .note)

/-- The line about a content, which has to be a payload. -/
def Content.body (c : Content) (b : Bindings) (s : Styling) : Except RenderError RichText :=
  match c with
  | .payload p => p.body b s
  | c => .error (.notAPayload c)

end Diagnostics
