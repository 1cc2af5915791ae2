import Diagnostics.Text.Split

/-!
# Routes

A `Route` is a path text as the system follows it: one name after the other, from the
working directory or, for an absolute path, from above all directories. Separators in a row
count as one, and a separator at the end asks for a directory. `Route.folder` is the text
before the last name, and `Route.splitLast` that text and the name; no such text ends in a
separator unless it is made of separators alone.
-/

namespace Diagnostics

/-- A path text as the system follows it. -/
structure Route where
  absolute : Bool
  names : List (List Char)
  /-- Only a directory can stand before a separator. -/
  asksForDirectory : Bool
deriving DecidableEq, Repr

namespace Route

/-- The character between the names of a route. -/
def separator : Char := '/'

/-- The route of a path text. -/
def ofText (text : List Char) : Route :=
  ⟨text.head? = some separator, (Text.split separator text).filter (· ≠ []),
    text.getLast? = some separator⟩

/-- A text without the separators at its end, unless there is nothing else in it. -/
def trim (text : List Char) : List Char :=
  match text.reverse.dropWhile (· == separator) with
  | [] => text
  | kept => kept.reverse

/-- The text before the last name, and the name, which is empty after a separator. -/
def splitLast (text : List Char) : List Char × List Char :=
  (trim (text.reverse.dropWhile (· != separator)).reverse,
    (text.reverse.takeWhile (· != separator)).reverse)

/-- The text before the last name. -/
def folder (text : List Char) : List Char :=
  (splitLast text).1

theorem length_trim_le (text : List Char) :
  (trim text).length ≤ text.length
  := by
  unfold trim
  split
  · exact Nat.le_refl _
  · have h := List.dropWhile_sublist (· == separator) (l := text.reverse)
    simpa using h.length_le

/-- A last name that is not empty makes the text before it shorter. -/
theorem length_splitLast_lt {text : List Char} (h : (splitLast text).2 ≠ []) :
  (splitLast text).1.length < text.length
  := by
  have hsum := congrArg List.length
    (List.takeWhile_append_dropWhile (p := (· != separator)) (l := text.reverse))
  have hpos := List.length_pos_iff.2 h
  have htrim := length_trim_le (text.reverse.dropWhile (· != separator)).reverse
  simp only [splitLast, List.length_reverse, List.length_append] at hsum hpos htrim ⊢
  omega

end Route

end Diagnostics
