import Diagnostics.Number.Shortest
import Diagnostics.Text.Quoted

/-!
# Stray values

A `Value` is data that turned up where a type, a payload or a message was expected.
`written` is its form in an error text, `kindName` the name of its kind there, and
`same` compares values: a truth value counts as the number zero or one, and numbers are
compared by what they are worth.
-/

namespace Diagnostics

/-- Plain data. -/
inductive Value where
  | null
  | truth (b : Bool)
  | whole (n : Int)
  | float (x : Binary64)
  | text (s : String)
  | list (items : List Value)
  | record (fields : List (String × Value))
deriving Inhabited

namespace Value

/-- The name of the kind of a value. -/
def kindName : Value → String
  | null => "NoneType"
  | truth _ => "bool"
  | whole _ => "int"
  | float _ => "float"
  | text _ => "str"
  | list _ => "list"
  | record _ => "dict"

/-! ### Texts of numbers -/

/-- The least number of digits before the point, down to a negative count of zeros after it,
with which a decimal is written without an exponent. -/
def leastPoint : Int := -3

/-- The greatest number of digits before the point with which a decimal is written without
an exponent. -/
def greatestPoint : Int := 16

/-- Some zeros, none for a negative number of them. -/
def zeros (count : Int) : List Char :=
  List.replicate count.toNat '0'

/-- Digits with a point after some of them, and at least one digit on either side of it. -/
def writtenPlain (digits : List Char) (point : Int) : List Char :=
  let padded := zeros (1 - point) ++ digits ++ zeros (point + 1 - digits.length)
  let whole := (max point 1).toNat
  padded.take whole ++ '.' :: padded.drop whole

/-- Digits with a point after the first one, if there are more, and an exponent of a sign and
at least two digits. -/
def writtenScientific (digits : List Char) (point : Int) : List Char :=
  let exponent := point - 1
  let size := Nat.toDigits 10 exponent.natAbs
  let fraction := if digits.length ≤ 1 then [] else '.' :: digits.drop 1
  digits.take 1 ++ fraction ++ 'e' :: (if exponent < 0 then '-' else '+') ::
    zeros (2 - size.length) ++ size

/-- The text of a decimal. -/
def writtenDecimal (x : Decimal) : List Char :=
  let digits := Nat.toDigits 10 x.digits
  let point := x.place + digits.length
  if leastPoint ≤ point ∧ point ≤ greatestPoint then writtenPlain digits point
  else writtenScientific digits point

/-- The text of a floating-point number. -/
def writtenFloat : Binary64 → String
  | .finite negative units =>
    String.ofList ((if negative then ['-'] else []) ++ writtenDecimal (Binary64.shortest units))
  | .infinite negative => if negative then "-inf" else "inf"

/-! ### Texts of values -/

mutual

/-- A value in an error text. -/
def written : Value → String
  | null => "None"
  | truth true => "True"
  | truth false => "False"
  | whole n => toString n
  | float x => writtenFloat x
  | text s => Text.quoted s
  | list items => "[" ++ ", ".intercalate (writtenItems items) ++ "]"
  | record fields => "\x7b" ++ ", ".intercalate (writtenFields fields) ++ "\x7d"

/-- Values in an error text, one by one. -/
def writtenItems : List Value → List String
  | [] => []
  | v :: vs => written v :: writtenItems vs

/-- Named values in an error text, one by one. -/
def writtenFields : List (String × Value) → List String
  | [] => []
  | (name, v) :: fields => (Text.quoted name ++ ": " ++ written v) :: writtenFields fields

end

/-! ### Equality -/

/-- What a value is worth that counts as a number. -/
def quantity? : Value → Option Quantity
  | truth b => some (.ofInt (if b then 1 else 0))
  | whole n => some (.ofInt n)
  | float x => some x.quantity
  | _ => none

mutual

/-- Whether two values are equal. -/
def same : Value → Value → Bool
  | null, null => true
  | text s, text t => s == t
  | list items, list items' => sameItems items items'
  | record fields, record fields' => sameFields fields fields'
  | v, w =>
    match v.quantity?, w.quantity? with
    | some q, some q' => q == q'
    | _, _ => false

/-- Whether two lists of values are equal. -/
def sameItems : List Value → List Value → Bool
  | [], [] => true
  | v :: vs, w :: ws => same v w && sameItems vs ws
  | _, _ => false

/-- Whether two lists of named values are equal. -/
def sameFields : List (String × Value) → List (String × Value) → Bool
  | [], [] => true
  | (name, v) :: fields, (name', w) :: fields' =>
    name == name' && same v w && sameFields fields fields'
  | _, _ => false

end

end Value

end Diagnostics
