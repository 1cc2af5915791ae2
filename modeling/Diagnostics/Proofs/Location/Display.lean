import Diagnostics.Location
import Diagnostics.Proofs.Text.Decimal
import Diagnostics.Proofs.Text.Split

/-!
# Displayed positions

A location is displayed as its path, its line and its column, with a colon before each of the two
numbers. Numbers have no colons, so these are the last two colons of the text, whatever the path
looks like, and the text can be taken apart from its end: `Span.split_display`.
-/

namespace Diagnostics

namespace Text

/-- Different texts have different segments. -/
theorem split_injective (sep : Char) :
  Function.Injective (split sep)
  := by
  intro text text' h
  rw [← join_split sep text, h, join_split]

theorem colon_not_mem_toString (n : Nat) :
  ':' ∉ (toString n).toList
  := by
  intro h
  have hdigit := isDigit_of_mem_toString h
  contradiction

end Text

/-- Between its colons a displayed span has the segments of its path, and after them its line and
its column. -/
theorem Span.split_display (s : Span) :
  Text.split ':' s.display.toList
    = Text.split ':' s.path.display.toList
      ++ [(toString s.line).toList, (toString s.column).toList]
  := by
  have hline := Text.colon_not_mem_toString s.line
  have hcolumn := Text.colon_not_mem_toString s.column
  rw [display]
  simp only [String.toList_append, show ":".toList = [':'] from rfl, List.append_assoc]
  rw [List.singleton_append, Text.split_append, List.singleton_append, Text.split_append_cons hline,
    Text.split_of_not_mem hcolumn]

/-- Two locations are displayed alike exactly when they have the same displayed path, the same line
and the same column. -/
theorem Location.display_eq_iff (l l' : Location) :
  l.display = l'.display
    ↔ l.span.path.display = l'.span.path.display ∧ l.span.line = l'.span.line
      ∧ l.span.column = l'.span.column
  := by
  constructor
  · intro h
    have hsplit : Text.split ':' l.span.display.toList = Text.split ':' l'.span.display.toList :=
      congrArg (fun text => Text.split ':' text.toList) h
    rw [Span.split_display, Span.split_display] at hsplit
    obtain ⟨hpath, hnumbers⟩ := List.append_inj' hsplit rfl
    obtain ⟨hline, hcolumn⟩ := List.cons_eq_cons.mp hnumbers
    refine ⟨String.toList_inj.mp (Text.split_injective ':' hpath), Text.toList_toString_inj hline,
      Text.toList_toString_inj (List.singleton_inj.mp hcolumn)⟩
  · rintro ⟨hpath, hline, hcolumn⟩
    rw [display, display, Span.display, Span.display, hpath, hline, hcolumn]

example : (Location.shared ⟨.written "a:1", 2, 3, 0, by decide, by decide⟩).display = "a:1:2:3" := by
  decide

end Diagnostics
