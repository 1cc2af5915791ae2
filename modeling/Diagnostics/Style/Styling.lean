import Diagnostics.Style.Basic

/-!
# Stylings

A `Styling` gives each element of a rendered diagnostic its style and says how the part at
fault is marked: with `underline` there is always a line of carets below the source line,
without it that part of the source line is set in a style of its own, and carets appear
only where there is nothing to style. `noColor` and `colored` are the two stylings that
`Environment` chooses between.
-/

namespace Diagnostics

/-- The style of every element of a diagnostic. -/
structure Styling where
  location : Style
  headerError : Style
  headerWarning : Style
  headerNote : Style
  typeName : Style
  wrongType : Style
  traitName : Style
  /-- The part of the source line that is at fault. -/
  wrongPart : Style
  underline : Bool
deriving DecidableEq, Repr

namespace Styling

/-- No emphasis anywhere, the part at fault underlined. -/
def noColor : Styling where
  location := .plain
  headerError := .plain
  headerWarning := .plain
  headerNote := .plain
  typeName := .plain
  wrongType := .plain
  traitName := .plain
  wrongPart := .plain
  underline := true

/-- Every element in its colour, the part at fault in red. -/
def colored : Styling where
  location := .ofList [.italic]
  headerError := .ofList [.red, .bold]
  headerWarning := .ofList [.yellow, .bold]
  headerNote := .ofList [.purple, .bold]
  typeName := .ofList [.green]
  wrongType := .ofList [.red]
  traitName := .ofList [.blue]
  wrongPart := .ofList [.red]
  underline := false

end Styling

end Diagnostics
