/-!
# Classes of characters

A `CharClass` is a set of characters given by inclusive ranges of code points.
-/

namespace Diagnostics.Text

/-- Inclusive ranges of code points. -/
structure CharClass where
  ranges : List (Nat × Nat)

namespace CharClass

/-- The class of the given ranges. -/
def ofRanges (ranges : List (Nat × Nat)) : CharClass := ⟨ranges⟩

/-- Whether a character lies in one of the ranges. -/
def contains (k : CharClass) (c : Char) : Bool :=
  k.ranges.any (fun r => r.1 ≤ c.toNat && c.toNat ≤ r.2)

end CharClass

end Diagnostics.Text
