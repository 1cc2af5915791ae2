import Diagnostics.Value

/-!
# Types

A diagnostic needs of a type only its name, so a `Ty` is no more than what naming looks
at: primitive types, functions, mutable references and inference variables. A `bare` type
has a kind and nothing else, and a `stray` one is data that is no type at all; neither has
a name. `Ty.depth` is the nesting depth, `Ty.same` is equality, `Ty.written` the form a
type takes in an error text.
-/

namespace Diagnostics

/-- The kinds of types. -/
inductive Ty.Kind where
  | primitive
  | function
  | ref
  | variable
deriving DecidableEq, Repr

/-- The word for a kind. -/
def Ty.Kind.word : Ty.Kind → String
  | .primitive => "primitive"
  | .function => "function"
  | .ref => "ref"
  | .variable => "variable"

/-- The capitalised word for a kind. -/
def Ty.Kind.label : Ty.Kind → String
  | .primitive => "PRIMITIVE"
  | .function => "FUNCTION"
  | .ref => "REF"
  | .variable => "VARIABLE"

/-- A kind in an error text. -/
def Ty.Kind.written (k : Ty.Kind) : String :=
  "<TypeKind." ++ k.label ++ ": " ++ Text.quoted k.word ++ ">"

/-- A type. -/
inductive Ty where
  | primitive (name : String)
  /-- An inference variable, which bindings may resolve. -/
  | var (id : Int)
  /-- A mutable reference. -/
  | ref (element : Ty)
  | function (params : List Ty) (result : Ty)
  /-- A kind without content. -/
  | bare (kind : Ty.Kind)
  /-- Data in place of a type. -/
  | stray (value : Value)

namespace Ty

/-! ### Common primitive types -/

/-- Whole numbers. -/
def int : Ty := primitive "Int"

/-- Floating-point numbers. -/
def float : Ty := primitive "Float"

/-- Truth values. -/
def bool : Ty := primitive "Bool"

/-- Characters. -/
def char : Ty := primitive "Char"

/-- Texts. -/
def string : Ty := primitive "String"

/-- The type of a single value. -/
def unit : Ty := primitive "Unit"

/-! ### Views -/

/-- The kind of a type, where it has one. -/
def kind? : Ty → Option Kind
  | primitive _ => some .primitive
  | var _ => some .variable
  | ref _ => some .ref
  | function _ _ => some .function
  | bare k => some k
  | stray _ => none

/-- The number of parameters of a function. -/
def arity? : Ty → Option Nat
  | function params _ => some params.length
  | _ => none

mutual

/-- The nesting depth of a type. -/
def depth : Ty → Nat
  | ref element => depth element + 1
  | function params result => max (depthList params) (depth result) + 1
  | _ => 1

/-- The largest nesting depth of several types. -/
def depthList : List Ty → Nat
  | [] => 0
  | t :: ts => max (depth t) (depthList ts)

end

theorem depth_le_depthList {t : Ty} {ts : List Ty} (h : t ∈ ts) :
  depth t ≤ depthList ts
  := by
  induction ts with
  | nil => simp at h
  | cons u us ih =>
    rw [depthList]
    rcases List.mem_cons.1 h with rfl | h
    · exact Nat.le_max_left _ _
    · exact Nat.le_trans (ih h) (Nat.le_max_right _ _)

mutual

/-- Whether two types are equal. -/
def same : Ty → Ty → Bool
  | primitive name, primitive name' => name == name'
  | var id, var id' => id == id'
  | ref element, ref element' => same element element'
  | function params result, function params' result' =>
    sameList params params' && same result result'
  | bare k, bare k' => k == k'
  | stray v, stray v' => v.same v'
  | _, _ => false

/-- Whether two lists of types are equal. -/
def sameList : List Ty → List Ty → Bool
  | [], [] => true
  | t :: ts, u :: us => same t u && sameList ts us
  | _, _ => false

end

/-! ### Types in error texts -/

/-- What error texts call a thing that stands where a type should. -/
def kindName : Ty → String
  | primitive _ => "PrimitiveType"
  | var _ => "TypeVariable"
  | ref _ => "RefType"
  | function _ _ => "FunctionType"
  | bare _ => "Type"
  | stray v => v.kindName

/-- Items between parentheses, with a comma after a single one. -/
def writtenTuple : List String → String
  | [item] => "(" ++ item ++ ",)"
  | items => "(" ++ ", ".intercalate items ++ ")"

mutual

/-- A type in an error text. -/
def written : Ty → String
  | primitive name => name
  | var id => "TypeVariable(kind=" ++ Kind.variable.written ++ ", id=" ++ toString id ++ ")"
  | ref element =>
    "RefType(kind=" ++ Kind.ref.written ++ ", element_type=" ++ written element ++ ")"
  | function params result =>
    "FunctionType(kind=" ++ Kind.function.written ++ ", param_types="
      ++ writtenTuple (writtenList params) ++ ", return_type=" ++ written result ++ ")"
  | bare k => "Type(kind=" ++ k.written ++ ")"
  | stray v => v.written

/-- Types in an error text, one by one. -/
def writtenList : List Ty → List String
  | [] => []
  | t :: ts => written t :: writtenList ts

end

end Ty

end Diagnostics
