import Diagnostics.Text.Lines
import Diagnostics.Text.Quoted
import Diagnostics.Text.Utf8

/-!
# Source texts with surrogates

A source text in memory is a list of code points, and a `CodePoint` may be one half of a surrogate
pair on its own. Such a text has lines like any other, but it has no bytes: `CodePoint.characters`
gives the characters that code points are, or reports the first run of surrogates among them. A
`String` is a source text without surrogates.
-/

namespace Diagnostics

/-- A character, or half of a surrogate pair. -/
inductive CodePoint where
  | char (c : Char)
  /-- The halves are counted from U+D800 on. -/
  | surrogate (half : Fin 0x800)
deriving DecidableEq, Repr

namespace CodePoint

/-- Whether a code point is no character. -/
def isSurrogate : CodePoint → Bool
  | char _ => false
  | surrogate _ => true

/-- A run of surrogates in a text. -/
structure Fault where
  /-- The position of the first surrogate. -/
  offset : Nat
  /-- The number of surrogates in the run. -/
  width : Nat
  /-- The first surrogate. -/
  first : Fin 0x800
deriving DecidableEq, Repr

/-- The characters that code points from a position on are. -/
def charactersFrom (offset : Nat) : List CodePoint → Except Fault (List Char)
  | [] => .ok []
  | char c :: points => (charactersFrom (offset + 1) points).map (c :: ·)
  | surrogate half :: points => .error ⟨offset, (points.takeWhile isSurrogate).length + 1, half⟩

/-- The characters that code points are. -/
def characters (points : List CodePoint) : Except Fault (List Char) :=
  charactersFrom 0 points

/-- A surrogate by its code point, in four digits. -/
def escape (half : Fin 0x800) : String :=
  String.ofList ('\\' :: 'u' :: Text.hex 4 (0xD800 + half))

/-- A fault of one surrogate names it, a longer one its first and last position. -/
def Fault.message (f : Fault) : String :=
  let place :=
    if f.width = 1 then s!"character '{escape f.first}' in position {f.offset}"
    else s!"characters in position {f.offset}-{f.offset + f.width - 1}"
  s!"'{Utf8.encodingName}' codec can't encode {place}: surrogates not allowed"

end CodePoint

/-- A source text in memory. -/
structure SourceText where
  points : List CodePoint
deriving DecidableEq, Repr

namespace SourceText

/-- A string as a source text. -/
def ofString (text : String) : SourceText :=
  ⟨text.toList.map .char⟩

instance : Coe String SourceText :=
  ⟨ofString⟩

/-- The lines of a source text, without their terminators. -/
def lines (source : SourceText) : List (List CodePoint) :=
  Text.linesBy (.char '\n') (.char '\r') source.points

end SourceText

end Diagnostics
