import Diagnostics.Proofs.Text.Newlines

/-!
# Lines and what ends them

A `Line` has no line feed and no carriage return at its end. Written one after the other, each ended
by a line feed or by a carriage return with a line feed, lines are the lines of the text they make,
and so is a last one that nothing ends, unless it is empty. A line feed cuts any text into two whose
lines are found apart: `linesOf_terminated`.
-/

namespace Diagnostics.Text

/-- What ends a line. -/
inductive Terminator where
  | feed
  | returnFeed
deriving DecidableEq, Repr

namespace Terminator

/-- What stands before the line feed. -/
def beforeFeed : Terminator → List Char
  | feed => []
  | returnFeed => ['\r']

/-- The text of a terminator. -/
def text (t : Terminator) : String :=
  String.ofList (t.beforeFeed ++ ['\n'])

end Terminator

/-- A line of a text. -/
structure Line where
  text : String
  feed_not_mem : '\n' ∉ text.toList
  getLast?_ne : text.toList.getLast? ≠ some '\r'

namespace Line

/-- No carriage return is dropped from a line, and the one that ends it is. -/
theorem dropFinal_append (line : Line) (t : Terminator) :
  dropFinal '\r' (line.text.toList ++ t.beforeFeed) = line.text.toList
  := by
  cases t with
  | feed => rw [Terminator.beforeFeed, List.append_nil, dropFinal, if_neg line.getLast?_ne]
  | returnFeed =>
    rw [Terminator.beforeFeed, dropFinal, if_pos List.getLast?_concat, List.dropLast_concat]

theorem feed_not_mem_append (line : Line) (t : Terminator) :
  '\n' ∉ line.text.toList ++ t.beforeFeed
  := by
  have hbefore : '\n' ∉ t.beforeFeed := by
    cases t <;> decide
  rw [List.mem_append, not_or]
  exact ⟨line.feed_not_mem, hbefore⟩

/-- A line that nothing ends is a line unless it is empty. -/
theorem lines_text (line : Line) (h : line.text ≠ "") :
  lines line.text.toList = [line.text.toList]
  := by
  have hnil : line.text.toList ≠ [] := by
    rwa [ne_eq, String.toList_eq_nil_iff]
  have hdrop := line.dropFinal_append .feed
  rw [Terminator.beforeFeed, List.append_nil] at hdrop
  rw [lines, linesBy, split_of_not_mem line.feed_not_mem, dropFinalEmpty,
    if_neg (by simpa using hnil), List.map_singleton, hdrop]

end Line

/-- Lines one after the other, each with its terminator. -/
def terminated (ls : List (Line × Terminator)) : String :=
  String.join (ls.map (fun l => l.1.text ++ l.2.text))

theorem toList_terminated_cons (line : Line) (t : Terminator) (ls : List (Line × Terminator)) :
  (terminated ((line, t) :: ls)).toList
    = line.text.toList ++ t.beforeFeed ++ '\n' :: (terminated ls).toList
  := by
  simp [terminated, Terminator.text]

/-- Terminated lines are lines of their own, whatever follows them. -/
theorem lines_terminated_append (ls : List (Line × Terminator)) (rest : List Char) :
  lines ((terminated ls).toList ++ rest) = ls.map (fun l => l.1.text.toList) ++ lines rest
  := by
  induction ls with
  | nil => rfl
  | cons l ls ih =>
    obtain ⟨line, t⟩ := l
    rw [toList_terminated_cons, List.append_assoc, List.cons_append, lines_append_feed,
      split_of_not_mem (line.feed_not_mem_append t), List.map_singleton,
      line.dropFinal_append t, ih]
    rfl

theorem linesOf_terminated_append (ls : List (Line × Terminator)) (rest : String) :
  linesOf (terminated ls ++ rest) = ls.map (fun l => l.1.text) ++ linesOf rest
  := by
  rw [linesOf, String.toList_append, lines_terminated_append, List.map_append, List.map_map]
  simp [linesOf, Function.comp_def]

/-- A line feed parts the lines before it from those after it. -/
theorem linesOf_feed_append (before after : String) :
  linesOf (before ++ "\n" ++ after) = linesOf (before ++ "\n") ++ linesOf after
  := by
  have hended : lines (before.toList ++ ['\n'])
      = (split '\n' before.toList).map (dropFinal '\r') := by
    rw [lines_append_feed]
    apply List.append_nil
  have hfeed : (before ++ "\n").toList = before.toList ++ ['\n'] := String.toList_append
  rw [linesOf, linesOf, linesOf, String.toList_append, hfeed, hended, List.append_assoc,
    List.singleton_append, lines_append_feed, List.map_append]

/-- Lines are found again in the text they make, under any choice of their terminators, and so is a
nonempty last line without one. A line feed parts the lines before it from those after it. -/
theorem linesOf_terminated (ls : List (Line × Terminator)) :
  linesOf (terminated ls) = ls.map (fun l => l.1.text)
    ∧ (∀ last : Line, last.text ≠ "" →
      linesOf (terminated ls ++ last.text) = ls.map (fun l => l.1.text) ++ [last.text])
    ∧ ∀ before after : String,
      linesOf (before ++ "\n" ++ after) = linesOf (before ++ "\n") ++ linesOf after
  := by
  refine ⟨?_, ?_, linesOf_feed_append⟩
  · have hnone := linesOf_terminated_append ls ""
    rw [String.append_empty] at hnone
    rw [hnone]
    apply List.append_nil
  · intro last hlast
    rw [linesOf_terminated_append, linesOf, last.lines_text hlast, List.map_singleton,
      String.ofList_toList]

/-- Lines with both terminators, one of them empty and one with a carriage return inside, and a
last line without a terminator. -/
theorem linesOf_terminated_mixed :
  let ls : List (Line × Terminator) :=
    [(⟨"", by decide, by decide⟩, .returnFeed), (⟨"a\rb", by decide, by decide⟩, .feed),
      (⟨"\x0c", by decide, by decide⟩, .returnFeed)]
  let last : Line := ⟨"é", by decide, by decide⟩
  last.text ≠ "" ∧ terminated ls ++ last.text = "\r\na\rb\n\x0c\r\né"
    ∧ linesOf (terminated ls ++ last.text) = ["", "a\rb", "\x0c", "é"]
  := by
  intro ls last
  have hlast : last.text ≠ "" := by decide
  obtain ⟨-, hlines, -⟩ := linesOf_terminated ls
  exact ⟨hlast, by decide, hlines last hlast⟩

end Diagnostics.Text
