import Diagnostics.Style.RichText
import Diagnostics.Style.Styling
import Diagnostics.Text.Utf8

/-!
# Source snippets

Columns and lengths count bytes. `highlightRange` clamps the bytes of a span to a line,
and `characterBounds` widens a range of bytes to whole characters, so that the pieces
before, inside and after it are text again: they are the `Snippet` of the line. The marker
line stays with the bytes of the span, one caret for each.
-/

namespace Diagnostics

/-- The half-open range of the bytes of a span on a line of the given length. -/
def highlightRange (lineLength column length : Int) : Int × Int :=
  let low := min (max (column - 1) 0) lineLength
  (low, min (low + max length 0) lineLength)

/-- On a line of `n` bytes the range of a span lies within the line. -/
theorem highlightRange_natCast (n column length : Nat) (h : 0 < column) :
  highlightRange n column length
    = (((min (column - 1) n : Nat) : Int), ((min (min (column - 1) n + length) n : Nat) : Int))
  := by
  simp only [highlightRange, Prod.mk.injEq]
  omega

namespace Snippet

/-- Whether the byte at an index continues a character. -/
def continuesAt (raw : List UInt8) (i : Nat) : Bool :=
  raw[i]?.any Utf8.isContinuation

/-- The last index up to `i` at which no character is cut. -/
def boundBefore (raw : List UInt8) : Nat → Nat
  | 0 => 0
  | i + 1 => if continuesAt raw (i + 1) then boundBefore raw i else i + 1

/-- The first index from `i` on at which no character is cut. -/
def boundAfter (raw : List UInt8) (i : Nat) : Nat :=
  i + ((raw.drop i).takeWhile Utf8.isContinuation).length

/-- A range of bytes widened to whole characters. -/
def characterBounds (raw : List UInt8) (low high : Nat) : Nat × Nat :=
  let low := boundBefore raw low
  (low, max low (boundAfter raw high))

end Snippet

/-- A line in three pieces. -/
structure Snippet where
  before : String
  highlighted : String
  after : String
deriving DecidableEq, Repr

namespace Snippet

/-- The text of some bytes. -/
def textOf (bytes : List UInt8) : Except Utf8.Fault String :=
  (Utf8.decode bytes).map String.ofList

/-- The pieces of a line before, inside and after a range of bytes, the range widened to
whole characters. -/
def cut (raw : List UInt8) (low high : Nat) : Except Utf8.Fault Snippet := do
  let bounds := characterBounds raw low high
  return ⟨← textOf (raw.take bounds.1), ← textOf ((raw.take bounds.2).drop bounds.1),
    ← textOf (raw.drop bounds.2)⟩

/-- The pieces of a line, the middle one in a style unless it is empty. -/
def rich (s : Snippet) (style : Style) : RichText :=
  .ofText s.before :: RichText.nonempty style s.highlighted ++ [.ofText s.after]

/-- The character below a highlighted byte. -/
def pointer : Char := '^'

/-- The line of carets below a range of bytes. -/
def marker (low high : Nat) : String :=
  String.ofList (List.replicate low ' ' ++ List.replicate (high - low) pointer)

end Snippet

end Diagnostics
