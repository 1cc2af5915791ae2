import Diagnostics.Path.Component

/-!
# Source locations

A `Span` is a stretch of bytes in a named file: a line and a column, both counted from
one, and a length in bytes. A `Location` either shares the file name of the module being
compiled or owns a copy of it; `toOwned` is the copy that a stored diagnostic keeps.
-/

namespace Diagnostics

/-- A stretch of bytes in a file. -/
structure Span where
  path : Path
  line : Nat
  column : Nat
  length : Nat
  line_pos : 0 < line
  column_pos : 0 < column
deriving DecidableEq

/-- What is wrong with the numbers of a span. -/
inductive SpanError where
  | line (n : Int)
  | column (n : Int)
  | length (n : Int)
deriving DecidableEq

/-- The text of an error about a span. -/
def SpanError.message : SpanError → String
  | line n => s!"line must be >= 1, got {n}"
  | column n => s!"column must be >= 1, got {n}"
  | length n => s!"span length must be >= 0, got {n}"

namespace Span

/-- The span of a line, a column and a length, in that order, each within its bounds. -/
def at? (path : Path) (line column length : Int) : Except SpanError Span :=
  if hl : line < 1 then .error (.line line)
  else if hc : column < 1 then .error (.column column)
  else if length < 0 then .error (.length length)
  else .ok ⟨path, line.toNat, column.toNat, length.toNat, by omega, by omega⟩

/-- A span as `path:line:column`. -/
def display (s : Span) : String :=
  s.path.display ++ ":" ++ toString s.line ++ ":" ++ toString s.column

/-- Whether two spans are equal, their files compared as paths. -/
def same (s t : Span) : Bool :=
  s.path.same t.path && s.line == t.line && s.column == t.column && s.length == t.length

end Span

/-- A span whose file name belongs to the module being compiled, or is its own. -/
inductive Location where
  | shared (span : Span)
  | owned (span : Span)
deriving DecidableEq

namespace Location

/-- The span of a location. -/
def span : Location → Span
  | shared s => s
  | owned s => s

/-- The span with a file name of its own. -/
def toOwned : Location → Span
  | shared s => { s with path := s.path.copy }
  | owned s => s

/-- A location as `path:line:column`. -/
def display (l : Location) : String :=
  l.span.display

/-- Whether two locations are equal; a shared one never equals an owned one. -/
def same : Location → Location → Bool
  | shared s, shared t => s.same t
  | owned s, owned t => s.same t
  | _, _ => false

end Location

end Diagnostics
