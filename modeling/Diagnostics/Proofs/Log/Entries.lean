import Diagnostics.Log
import Mathlib.Tactic.Common

/-!
# Questions about the entries of a log

Every question about a log has an answer when the log holds only messages: its errors are
counted, it fails when it counts one, and its summaries come out to the end. With other
entries an iterator stops behind the first that has no summary, so `Entry.passed` are the
entries that it uses up.
-/

namespace Diagnostics

namespace Entry

/-- The entries that `drain` goes past: those with a summary, and the first without. -/
def passed : List Entry → List Entry
  | [] => []
  | e :: es =>
    match e.summary with
    | .error _ => [e]
    | .ok _ => e :: passed es

/-- What draining does not go past, it leaves. -/
theorem passed_append_drain (es : List Entry) :
  passed es ++ (drain es).2 = es
  := by
  induction es with
  | nil => rfl
  | cons e es ih =>
    rw [passed, drain]
    cases he : e.summary with
    | error cause => rfl
    | ok line => simpa using ih

/-- Draining tells the summaries of the entries that it goes past. -/
theorem drain_eq_mapM_passed (es : List Entry) :
  (drain es).1 = (passed es).mapM summary
  := by
  induction es with
  | nil => rfl
  | cons e es ih =>
    rw [passed, drain]
    cases he : e.summary with
    | error cause =>
      rw [List.mapM_cons, he]
      rfl
    | ok line =>
      simp only [List.mapM_cons, he, ← ih]
      rfl

theorem drain_messages (ms : List Message) :
  drain (ms.map message) = (.ok (ms.map Message.summary), [])
  := by
  induction ms with
  | nil => rfl
  | cons m ms ih => simp [drain, summary, ih, Except.map]

end Entry

namespace Log

/-- A log of messages. -/
def ofMessages (ms : List Message) : Log :=
  ⟨ms.map .message⟩

theorem length_ofMessages (ms : List Message) :
  (ofMessages ms).length = ms.length
  := List.length_map _

theorem errorCount_ofMessages (ms : List Message) :
  (ofMessages ms).errorCount = .ok (ms.countP Message.isError)
  := by
  rw [errorCount, ofMessages]
  induction ms with
  | nil => rfl
  | cons m ms ih =>
    rw [List.map_cons, countErrors, ih, Entry.isError, List.countP_cons]
    cases m.isError <;> rfl

theorem hasErrors_ofMessages (ms : List Message) :
  (ofMessages ms).hasErrors = .ok (decide (0 < ms.countP Message.isError))
  := by
  rw [hasErrors, ofMessages]
  induction ms with
  | nil => rfl
  | cons m ms ih =>
    rw [List.map_cons, anyError, ih, Entry.isError]
    cases hm : m.isError with
    | false =>
      rw [List.countP_cons_of_neg (by simp [hm])]
      rfl
    | true =>
      rw [List.countP_cons_of_pos hm, decide_eq_true (Nat.succ_pos _)]
      rfl

theorem exitStatus_ofMessages (ms : List Message) :
  (ofMessages ms).exitStatus
    = .ok (if 0 < ms.countP Message.isError then exitFailure else exitSuccess)
  := by
  rw [exitStatus, hasErrors_ofMessages]
  simp [Except.map]

end Log

end Diagnostics
