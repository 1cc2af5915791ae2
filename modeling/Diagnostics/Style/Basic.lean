/-!
# Terminal styles

A `Style` is a list of codes that a terminal understands; `paint` writes them before a
text and the reset code after it. A style without codes leaves text as it is. Styles are
built from the plain one by adding an `Emphasis` at a time.
-/

namespace Diagnostics

/-- The ways to set text off. -/
inductive Emphasis where
  | bold
  | italic
  | red
  | green
  | yellow
  | blue
  | purple
deriving DecidableEq, Repr

/-- The number of an emphasis in a terminal code. -/
def Emphasis.number : Emphasis → String
  | .bold => "1"
  | .italic => "3"
  | .red => "31"
  | .green => "32"
  | .yellow => "33"
  | .blue => "34"
  | .purple => "35"

/-- The terminal code of a number. -/
def terminalCode (number : String) : String :=
  "\x1b[" ++ number ++ "m"

/-- The code that switches an emphasis on. -/
def Emphasis.code (e : Emphasis) : String :=
  terminalCode e.number

/-- The code that switches every emphasis off. -/
def resetCode : String := terminalCode "0"

/-- Terminal codes to write before a text. -/
structure Style where
  codes : List String
deriving DecidableEq, Repr

namespace Style

/-- The style that leaves text as it is. -/
def plain : Style := ⟨[]⟩

/-- A style with one emphasis more. -/
def add (s : Style) (e : Emphasis) : Style :=
  ⟨s.codes ++ [e.code]⟩

/-- The style of several emphases, added in order. -/
def ofList (es : List Emphasis) : Style :=
  es.foldl add plain

/-- Whether a style has no codes. -/
def isPlain (s : Style) : Bool :=
  s.codes.isEmpty

/-- The codes of a style in one text. -/
def opening (s : Style) : String :=
  String.join s.codes

/-- A text in a style. -/
def paint (s : Style) (text : String) : String :=
  if s.opening = "" then text else s.opening ++ text ++ resetCode

@[simp]
theorem codes_add (s : Style) (e : Emphasis) :
  (s.add e).codes = s.codes ++ [e.code]
  := rfl

theorem codes_foldl_add (s : Style) (es : List Emphasis) :
  (es.foldl add s).codes = s.codes ++ es.map Emphasis.code
  := by
  induction es generalizing s with
  | nil => simp
  | cons e es ih => simp [ih]

@[simp]
theorem codes_ofList (es : List Emphasis) :
  (ofList es).codes = es.map Emphasis.code
  := by
  simp [ofList, codes_foldl_add, plain]

@[simp]
theorem paint_plain (text : String) :
  plain.paint text = text
  := rfl

end Style

end Diagnostics
