import Diagnostics.Number.Binary64

/-!
# Shortest decimals

Many decimals have the same nearest `Binary64`, so a number is written with the fewest
digits that read back as it, and of these with the ones nearest to it. `Binary64.shortest`
goes through the decimal grids from the coarsest to the finest and takes the first on which
a neighbour of the number reads back.
-/

namespace Diagnostics

/-- The decimal `digits * 10 ^ place`. -/
structure Decimal where
  digits : Nat
  place : Int
deriving DecidableEq, Repr

namespace Binary64

/-- The place of the coarsest grid with a point below the greatest number. -/
def coarsestPlace : Int := 308

/-- The number of grids down to the finest that any number needs. -/
def gridCount : Nat := 633

/-- The two neighbours of a number of units on a decimal grid, the nearer one first. -/
def neighbours (units : Nat) (place : Int) : List Decimal :=
  let numerator := units * Nat.pow 10 (-place).toNat
  let denominator := unitsPerOne * Nat.pow 10 place.toNat
  let near := nearestQuotient numerator denominator
  let far := if near = numerator / denominator then near + 1 else near - 1
  [⟨near, place⟩, ⟨far, place⟩]

/-- Whether a decimal is read as a number of units. -/
def readsBack (units : Nat) (x : Decimal) : Bool :=
  ofDecimal false x.digits x.place = .finite false units

/-- All digits of a number of units. -/
def allDigits (units : Nat) : Decimal :=
  ⟨units * Nat.pow 5 1074, -1074⟩

/-- The shortest decimal that is read as a number of units. -/
def shortest (units : Nat) : Decimal :=
  if units = 0 then ⟨0, 0⟩
  else
    let found := (List.range gridCount).findSome? fun (i : Nat) =>
      (neighbours units (coarsestPlace - i)).find? (readsBack units)
    found.getD (allDigits units)

end Binary64

end Diagnostics
