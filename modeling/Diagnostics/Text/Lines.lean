import Diagnostics.Text.Split

/-!
# Lines of a source text

A line ends at a line feed, and a carriage return just before the end of a line does not
belong to it. `lines` lists the lines of a text; a line feed at the very end of the text
starts no further line. No other character ends a line, so byte columns counted inside a
line stay valid. `linesBy` finds the lines of a list of anything, given the two elements
that end them. `normalizeNewlines` is what reading a file does to its line ends: a
carriage return with a line feed becomes a line feed, and so does one that stands alone.
-/

namespace Diagnostics.Text

variable {α : Type} [DecidableEq α]

/-- A segment without its last element where that is a given one. -/
def dropFinal (last : α) (segment : List α) : List α :=
  if segment.getLast? = some last then segment.dropLast else segment

/-- A list of segments without its last one where that is empty. -/
def dropFinalEmpty (segments : List (List α)) : List (List α) :=
  if segments.getLast? = some [] then segments.dropLast else segments

/-- The lines of a text, each up to a feed, without a return at its end. -/
def linesBy (feed ret : α) (text : List α) : List (List α) :=
  (dropFinalEmpty (split feed text)).map (dropFinal ret)

/-- The lines of a text, without their terminators. -/
def lines (text : List Char) : List (List Char) :=
  linesBy '\n' '\r' text

/-- Every line end as a single line feed. -/
def normalizeNewlines : List Char → List Char
  | [] => []
  | '\r' :: '\n' :: rest => '\n' :: normalizeNewlines rest
  | c :: rest => (if c = '\r' then '\n' else c) :: normalizeNewlines rest

/-- The lines of a string. -/
def linesOf (text : String) : List String :=
  (lines text.toList).map String.ofList

end Diagnostics.Text
