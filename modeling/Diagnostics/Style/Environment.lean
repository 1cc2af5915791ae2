import Diagnostics.Style.Styling
import Diagnostics.Text.LowerCase

/-!
# Choosing a styling

`Environment.styling` decides between colour and none for output to a stream. A variable
that asks for no colour wins whenever it is not empty. Another may switch colour off or
on. Otherwise colour is for terminals alone.
-/

namespace Diagnostics

/-- What the choice of a styling depends on. -/
structure Environment where
  /-- The variable that asks for no colour. -/
  noColor : Option String
  /-- The variable that switches colour off or on. -/
  color : Option String
  /-- Whether the stream is a terminal, where it can tell. -/
  terminal : Option Bool

namespace Environment

/-- The name of the variable that asks for no colour. -/
def noColorName : String := "NO_COLOR"

/-- The name of the variable that switches colour off or on. -/
def colorName : String := "ANTE_COLOR"

/-- The values that switch colour off. -/
def disabledValues : List String := ["0", "false", "no", "never"]

/-- The values that switch colour on. -/
def forcedValues : List String := ["1", "true", "yes", "always"]

/-- The value of the colour variable in lower case, empty where it is unset. -/
def explicit (e : Environment) : String :=
  String.ofList (Text.lower (e.color.getD "").toList)

/-- The styling for output to the stream. -/
def styling (e : Environment) : Styling :=
  if e.noColor.getD "" ≠ "" then .noColor
  else if e.explicit ∈ disabledValues then .noColor
  else if e.explicit ∈ forcedValues then .colored
  else if e.terminal = some true then .colored
  else .noColor

end Environment

end Diagnostics
