import Diagnostics.Disk.Basic
import Diagnostics.Path.Basic
import Diagnostics.Text.Lines

/-!
# Reading text from disk

`Disk.readText` reads the file of a path as text: its bytes have to be UTF-8, and every line
end is read as a line feed. The path is first written in its plain form, without names that
lead nowhere else, and an error shows it so.
-/

namespace Diagnostics

/-- Why a file cannot be read as text. -/
inductive ReadError where
  | path (cause : PathError)
  | notText (fault : Utf8.Fault)
deriving DecidableEq, Repr

/-- The text of a reading error. -/
def ReadError.message : ReadError → String
  | path cause => cause.message
  | notText fault => fault.message

namespace Disk

/-- The text that bytes on disk are read as. -/
def textOfBytes (bytes : List UInt8) : Except Utf8.Fault String :=
  (Utf8.decode bytes).map (fun text => String.ofList (Text.normalizeNewlines text))

/-- The text of the file that a path names. -/
def readText (d : Disk) (path : String) : Except ReadError String := do
  let plain := (Parts.parse .posix path.toList).text .posix
  let bytes ← (d.contents plain).mapError .path
  (textOfBytes bytes).mapError .notText

end Disk

end Diagnostics
