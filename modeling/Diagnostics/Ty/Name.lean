import Diagnostics.Ty.Bindings

/-!
# Names of types

`Bindings.nameWithin` names a type through its bindings with a given allowance of nested
calls and says `endless` when the allowance runs out. A variable whose binding contains
it has no finite name. On a path through a finite type no binding is entered twice, so
the depth of the type and of all bindings together is allowance enough: `nameOf` uses it,
and with it `endless` means that no allowance suffices.
-/

namespace Diagnostics

/-- The name of a function type; no parameters read as the unit type. -/
def functionName (params : List String) (result : String) : String :=
  let joined := " ".intercalate params
  "(" ++ (if joined = "" then "Unit" else joined) ++ " -> " ++ result ++ ")"

namespace Bindings

/-- The name of a type, found in so many nested calls at most. Parts are named from left
to right, each to its full depth. -/
def nameWithin (b : Bindings) : Nat → Ty → Except NamingError String
  | 0, _ => .error .endless
  | allowance + 1, ty => do
    match ← b.follow ty with
    | .primitive name => return name
    | .var id => return variableName id
    | .ref element => return "ref " ++ (← b.nameWithin allowance element)
    | .function params result =>
      let params ← params.mapM (b.nameWithin allowance)
      return functionName params (← b.nameWithin allowance result)
    | other => throw (.unnameable other)

/-- The name of a type. -/
def nameOf (b : Bindings) (ty : Ty) : Except NamingError String :=
  b.nameWithin (ty.depth + b.totalDepth) ty

end Bindings

end Diagnostics
