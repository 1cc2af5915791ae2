import Diagnostics.Text.Printing

/-!
# Quoted text

`quoted` writes a text between quotation marks so that every character can be told:
backslash, the mark itself and the characters that do not print are escaped. The mark is
the single one, unless the text holds single marks and no double one.
-/

namespace Diagnostics.Text

/-- A number in lower-case hexadecimal digits, at least `width` of them. -/
def hex (width n : Nat) : List Char :=
  let digits := Nat.toDigits 16 n
  List.replicate (width - digits.length) '0' ++ digits

/-- A character by its code point, in two, four or eight digits. -/
def escapeByNumber (c : Char) : List Char :=
  if c.toNat < 0x100 then '\\' :: 'x' :: hex 2 c.toNat
  else if c.toNat < 0x10000 then '\\' :: 'u' :: hex 4 c.toNat
  else '\\' :: 'U' :: hex 8 c.toNat

/-- A character inside quotation marks. -/
def escape (mark c : Char) : List Char :=
  if c = mark ∨ c = '\\' then ['\\', c]
  else if c = '\n' then ['\\', 'n']
  else if c = '\r' then ['\\', 'r']
  else if c = '\t' then ['\\', 't']
  else if prints c then [c]
  else escapeByNumber c

/-- The mark that a text is quoted with. -/
def quotationMark (text : List Char) : Char :=
  if text.contains '\'' && !text.contains '"' then '"' else '\''

/-- A text between quotation marks. -/
def quoted (text : String) : String :=
  let mark := quotationMark text.toList
  String.ofList (mark :: text.toList.flatMap (escape mark) ++ [mark])

end Diagnostics.Text
