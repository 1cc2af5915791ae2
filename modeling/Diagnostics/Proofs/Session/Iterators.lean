import Diagnostics.Proofs.Log.Entries
import Diagnostics.Proofs.Session.Logs

/-!
# The iterators of a session

An iterator takes what a log holds when it starts, and no request but its own two changes it
afterwards. What it has been taken past and what is left are together what it started with,
in every run that does not start it again: `Session.exists_find?_iterators_run`.
-/

namespace Diagnostics

namespace Step

/-- The iterator that a request may change. -/
def iterator? : Step → Option String
  | startIterator _ iterator => some iterator
  | next iterator => some iterator
  | rest iterator => some iterator
  | _ => none

/-- The entries that a request takes from an iterator that has some left. -/
def takes (iterator : String) (es : List Entry) : Step → List Entry
  | next name => if name = iterator then es.take 1 else []
  | rest name => if name = iterator then Entry.passed es else []
  | _ => []

theorem takes_of_ne {step : Step} {iterator : String} (h : step.iterator? ≠ some iterator)
    (es : List Entry) :
  step.takes iterator es = []
  := by
  cases step with
  | next name =>
    apply if_neg
    rintro rfl
    contradiction
  | rest name =>
    apply if_neg
    rintro rfl
    contradiction
  | _ => rfl

end Step

namespace Session

variable {s : Session} {iterator : String} {es : List Entry}

/-- Whether a step starts an iterator over some entries. -/
def Starts (s : Session) (iterator : String) (entries : List Entry) (step : Step) : Prop :=
  ∃ log, step = .startIterator log iterator ∧ s.logs.find? log = some ⟨entries⟩

/-! ### Steps -/

theorem step_startIterator_of_some {log : String} {l : Log} (h : s.logs.find? log = some l)
    (iterator : String) :
  s.step (.startIterator log iterator)
    = ({ s with iterators := s.iterators.set iterator l.entries }, .ok .done)
  := by
  simp only [step, lookup, h]

theorem step_startIterator_of_none {log : String} (h : s.logs.find? log = none)
    (iterator : String) :
  s.step (.startIterator log iterator) = (s, .error (.unknownName log))
  := by
  simp only [step, lookup, h]

theorem step_next_of_some (h : s.iterators.find? iterator = some es) :
  s.step (.next iterator)
    = ({ s with iterators := s.iterators.set iterator (es.drop 1) },
      .ofExcept ((((es.take 1).mapM Entry.summary).mapError Failure.log).map .texts))
  := by
  have htake : Entry.passed (es.take 1) = es.take 1 := by
    cases es with
    | nil => rfl
    | cons e es =>
      rw [List.take_succ_cons, List.take_zero, Entry.passed]
      cases e.summary <;> rfl
  simp only [step, lookup, h, Entry.drain_eq_mapM_passed, htake]

theorem step_rest_of_some (h : s.iterators.find? iterator = some es) :
  s.step (.rest iterator)
    = ({ s with iterators := s.iterators.set iterator (Entry.drain es).2 },
      .ofExcept ((((Entry.passed es).mapM Entry.summary).mapError Failure.log).map .texts))
  := by
  simp only [step, lookup, h, Entry.drain_eq_mapM_passed]

theorem iterators_change (s : Session) (log : String) (f : Log → Log × Option Failure) :
  (s.change log f).1.iterators = s.iterators
  := by
  cases hl : s.logs.find? log with
  | none => rw [change_eq_of_none hl]
  | some l => rw [change_eq_of_some hl rfl]

theorem iterators_step_of_iterator?_eq_none {step : Step} (h : step.iterator? = none) :
  (s.step step).1.iterators = s.iterators
  := by
  cases step with
  | startIterator log iterator => contradiction
  | next iterator => contradiction
  | rest iterator => contradiction
  | append log item => apply iterators_change
  | extend log items => apply iterators_change
  | merge log other => apply iterators_change
  | _ => simp only [Session.step] <;> split <;> rfl

/-- A request that names an iterator sets this one, if it does anything. -/
theorem exists_set_of_iterator? (s : Session) {step : Step}
    (h : step.iterator? = some iterator) :
  (s.step step).1 = s
    ∨ ∃ es, (s.step step).1 = { s with iterators := s.iterators.set iterator es }
  := by
  cases step with
  | startIterator log name =>
    obtain rfl := Option.some.inj h
    cases hl : s.logs.find? log with
    | none =>
      left
      rw [step_startIterator_of_none hl]
    | some l =>
      right
      use l.entries
      rw [step_startIterator_of_some hl]
  | next name =>
    obtain rfl := Option.some.inj h
    cases hes : s.iterators.find? name with
    | none =>
      left
      simp only [step, lookup, hes]
    | some es =>
      right
      use es.drop 1
      rw [step_next_of_some hes]
  | rest name =>
    obtain rfl := Option.some.inj h
    cases hes : s.iterators.find? name with
    | none =>
      left
      simp only [step, lookup, hes]
    | some es =>
      right
      use (Entry.drain es).2
      rw [step_rest_of_some hes]
  | _ => contradiction

/-- A step leaves an iterator alone that it does not name. -/
theorem find?_iterators_step_of_ne {step : Step} (h : step.iterator? ≠ some iterator) :
  (s.step step).1.iterators.find? iterator = s.iterators.find? iterator
  := by
  cases hstep : step.iterator? with
  | none => rw [iterators_step_of_iterator?_eq_none hstep]
  | some name =>
    have hname : iterator ≠ name := by
      rintro rfl
      apply h hstep
    obtain hs | ⟨es, hs⟩ := s.exists_set_of_iterator? hstep
    · rw [hs]
    · rw [hs]
      apply Table.find?_set_of_ne _ _ hname

/-- What a step takes from an iterator comes in front of what it leaves there, unless it
starts the iterator. -/
theorem exists_find?_iterators_step {step : Step} (hes : s.iterators.find? iterator = some es)
    (hstep : ∀ entries, ¬s.Starts iterator entries step) :
  ∃ left, (s.step step).1.iterators.find? iterator = some left
    ∧ step.takes iterator es ++ left = es
  := by
  by_cases h : step.iterator? = some iterator
  · cases step with
    | startIterator log name =>
      obtain rfl := Option.some.inj h
      cases hl : s.logs.find? log with
      | none =>
        rw [step_startIterator_of_none hl]
        use es, hes
        rfl
      | some l =>
        absurd hstep l.entries
        use log, rfl, hl
    | next name =>
      obtain rfl := Option.some.inj h
      rw [step_next_of_some hes]
      use es.drop 1, Table.find?_set_self _ _ _
      rw [Step.takes, if_pos rfl, List.take_append_drop]
    | rest name =>
      obtain rfl := Option.some.inj h
      rw [step_rest_of_some hes]
      use (Entry.drain es).2, Table.find?_set_self _ _ _
      rw [Step.takes, if_pos rfl, Entry.passed_append_drain]
    | _ => contradiction
  · use es, (find?_iterators_step_of_ne h).trans hes
    rw [Step.takes_of_ne h, List.nil_append]

/-! ### Runs -/

/-- The entries that several steps take from an iterator. -/
def taken (s : Session) (iterator : String) : List Step → List Entry
  | [] => []
  | step :: steps =>
    step.takes iterator ((s.iterators.find? iterator).getD [])
      ++ (s.step step).1.taken iterator steps

/-- What a run takes from an iterator comes in front of what it leaves there, unless it
starts the iterator. -/
theorem exists_find?_iterators_run (hes : s.iterators.find? iterator = some es)
    {steps : List Step}
    (hsteps : s.Along (fun t step => ∀ entries, ¬t.Starts iterator entries step) steps) :
  ∃ left, (s.run steps).1.iterators.find? iterator = some left
    ∧ s.taken iterator steps ++ left = es
  := by
  induction steps generalizing s es with
  | nil =>
    use es, hes
    apply List.nil_append
  | cons step steps ih =>
    obtain ⟨hstep, hrest⟩ := hsteps
    obtain ⟨es', hes', hfirst⟩ := exists_find?_iterators_step hes hstep
    obtain ⟨left, hleft, htaken⟩ := ih hes' hrest
    use left, hleft
    -- the first step takes from the front, the others from what it leaves
    rw [taken, hes, Option.getD_some, List.append_assoc, htaken, hfirst]

end Session

end Diagnostics
