import Diagnostics.Disk.Reading
import Diagnostics.Proofs.Text.Newlines
import Mathlib.Data.List.Basic

/-!
# Lines of a text on disk

The lines of a text in memory are those of the same text on disk exactly when every carriage return
in it ends a line: `Text.linesOf_eq_iff`.
-/

namespace Diagnostics

theorem Disk.textOfBytes_encode (text : String) :
  textOfBytes (Utf8.encode text.toList) = .ok (String.ofList (Text.normalizeNewlines text.toList))
  := by
  rw [textOfBytes, Utf8.decode_encode]
  rfl

namespace Text

theorem linesOf_ofList_eq_iff {text : String} {other : List Char} :
  linesOf text = linesOf (String.ofList other) ↔ lines other = lines text.toList
  := by
  rw [linesOf, linesOf, String.toList_ofList, eq_comm]
  have hofList : Function.Injective String.ofList := fun _ _ h => String.ofList_injective h
  apply (List.map_injective_iff.mpr hofList).eq_iff

/-- Reading a text from disk makes a line feed of every carriage return, and only one of a carriage
return before a line feed. This changes none of the lines exactly when every carriage return stands
before a line feed or at the end of the text. -/
theorem linesOf_eq_iff (text : String) :
  let read := String.ofList (feedReturns (joinReturnFeeds text.toList))
  Disk.textOfBytes (Utf8.encode text.toList) = .ok read
    ∧ (linesOf text = linesOf read ↔ ReturnsEndLines text.toList)
  := by
  intro read
  have hread : read = String.ofList (normalizeNewlines text.toList) := by
    rw [← feedReturns_joinReturnFeeds]
  constructor
  · rw [hread]
    apply Disk.textOfBytes_encode
  · rw [hread, linesOf_ofList_eq_iff]
    apply lines_normalizeNewlines_iff

/-- A carriage return after a line feed ends an empty line at the end of a text, and only there. -/
example :
  linesOf "a\n\r" = ["a", ""] ∧ linesOf "a\n\n" = ["a", ""] ∧ linesOf "a\n\rb" = ["a", "\rb"]
    ∧ linesOf "a\n\nb" = ["a", "", "b"]
  := by decide

end Text

end Diagnostics
