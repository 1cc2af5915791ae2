/-!
# Binary floating-point numbers

A `Binary64` is a number of at most 53 binary digits in a bounded range, or an infinity.
Every finite one is a whole multiple of the least positive one, so its size is kept as that
multiple, counted in units. `Binary64.ofDecimal` is the number nearest to a decimal, and
`Binary64.quantity` what a number is worth without rounding.
-/

namespace Diagnostics

/-- The whole number nearest to a quotient; of two equally near ones it is the even one. -/
def nearestQuotient (numerator denominator : Nat) : Nat :=
  let low := numerator / denominator
  let rest := 2 * (numerator % denominator)
  if rest < denominator ∨ (rest = denominator ∧ low % 2 = 0) then low else low + 1

/-- A binary floating-point number. Zero has a sign like all others. -/
inductive Binary64 where
  | finite (negative : Bool) (units : Nat)
  | infinite (negative : Bool)
deriving DecidableEq, Repr

/-- What a number is worth, in units or as an infinity. -/
inductive Quantity where
  | finite (units : Int)
  | infinite (negative : Bool)
deriving DecidableEq, Repr

namespace Binary64

/-- The most binary digits of a number, without the zeros at its end. -/
def precision : Nat := 53

/-- The number of units in one. -/
def unitsPerOne : Nat := Nat.pow 2 1074

/-- The least number of units that is too many for a finite number. -/
def unitsLimit : Nat := Nat.pow 2 2098

/-- How far apart numbers stand from a number of units on, up to the next power of two. -/
def spacing (units : Nat) : Nat :=
  Nat.pow 2 (units.log2 + 1 - precision)

/-- The number nearest to a quotient of units. -/
def ofUnits (negative : Bool) (numerator denominator : Nat) : Binary64 :=
  let gap := spacing (numerator / denominator)
  let units := nearestQuotient numerator (denominator * gap) * gap
  if units < unitsLimit then .finite negative units else .infinite negative

/-- A power of ten that is too great for a finite number, while its inverse is nearer to zero
than to any other number. -/
def extremePower : Int := 400

/-- The number nearest to `digits * 10 ^ place`. A nonzero decimal below `10 ^ -400` is zero
and one from `10 ^ 400` on is infinite whatever its digits are. -/
def ofDecimal (negative : Bool) (digits : Nat) (place : Int) : Binary64 :=
  if digits = 0 ∨ place + digits.log2 < -extremePower then .finite negative 0
  else if extremePower ≤ place then .infinite negative
  else
    ofUnits negative (digits * unitsPerOne * Nat.pow 10 place.toNat) (Nat.pow 10 (-place).toNat)

/-- What a number is worth. -/
def quantity : Binary64 → Quantity
  | finite negative units => .finite (if negative then -units else units)
  | infinite negative => .infinite negative

end Binary64

/-- What a whole number is worth. -/
def Quantity.ofInt (n : Int) : Quantity :=
  .finite (n * Binary64.unitsPerOne)

end Diagnostics
