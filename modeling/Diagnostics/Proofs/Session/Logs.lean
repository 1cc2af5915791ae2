import Diagnostics.Proofs.Outcome
import Diagnostics.Session
import Mathlib.Tactic.Common

/-!
# The logs of a session

Three requests add to the log they name and one makes it anew; no request does anything else
to a log, and none touches another: `Session.find?_logs_step`. What a run does to a log
follows by induction: as long as it is not made anew, it keeps what it held in front.
-/

namespace Diagnostics

/-- The log that a request may change. -/
def Step.log? : Step → Option String
  | newLog log _ => some log
  | append log _ => some log
  | extend log _ => some log
  | merge log _ => some log
  | _ => none

namespace Session

variable {s : Session} {log : String} {l l' : Log}

/-! ### Items -/

/-- The message that an item stands for, if it stands for one. -/
def messageOf? (s : Session) : Item → Option Message
  | .named name => s.messages.find? name
  | .stray _ => none

/-- Whether items stand for messages, one for each. -/
def StandFor (s : Session) (items : List Item) (ms : List Message) : Prop :=
  List.Forall₂ (fun item m => s.messageOf? item = some m) items ms

theorem extend_cons_of_some {item : Item} {m : Message} (h : s.messageOf? item = some m)
    (l : Log) (items : List Item) :
  s.extend l (item :: items) = s.extend ⟨l.entries ++ [.message m]⟩ items
  := by
  cases item with
  | stray content => contradiction
  | named name =>
    rw [messageOf?] at h
    simp only [extend, resolve, entry, lookup, h, Except.map, Log.extend, Log.append]

theorem extend_cons_of_none {item : Item} (h : s.messageOf? item = none) (l : Log)
    (items : List Item) :
  ∃ cause, s.extend l (item :: items) = (l, some cause)
  := by
  cases item with
  | named name =>
    rw [messageOf?] at h
    simp [extend, resolve, entry, lookup, h, Except.map, Log.extend]
  | stray content =>
    cases content with
    | error cause => simp [extend, resolve, entry, Except.map, Except.mapError, Log.extend]
    | ok content =>
      simp [extend, resolve, entry, Except.map, Except.mapError, Log.extend, Log.append]

theorem extend_append {items : List Item} {ms : List Message} (h : s.StandFor items ms)
    (l : Log) (items' : List Item) :
  s.extend l (items ++ items') = s.extend ⟨l.entries ++ ms.map .message⟩ items'
  := by
  induction h generalizing l with
  | nil => simp
  | cons hitem _ ih => simp [extend_cons_of_some hitem, ih]

theorem extend_of_standFor {items : List Item} {ms : List Message} (h : s.StandFor items ms)
    (l : Log) :
  s.extend l items = (⟨l.entries ++ ms.map .message⟩, none)
  := by
  rw [← List.append_nil items, extend_append h]
  rfl

theorem exists_extend_of_none {before : List Item} {item : Item} {ms : List Message}
    (h : s.StandFor before ms) (hitem : s.messageOf? item = none) (l : Log)
    (after : List Item) :
  ∃ cause, s.extend l (before ++ item :: after)
    = (⟨l.entries ++ ms.map .message⟩, some cause)
  := by
  rw [extend_append h]
  apply extend_cons_of_none hitem

/-- Either all items stand for messages, or those before a first one that stands for none. -/
theorem standFor_or_exists_none (s : Session) (items : List Item) :
  (∃ ms, s.StandFor items ms)
    ∨ ∃ before item after ms, items = before ++ item :: after ∧ s.StandFor before ms
      ∧ s.messageOf? item = none
  := by
  obtain hall | ⟨before, item, after, ms, hitems, hms, hitem⟩ :=
    forall₂_or_exists_not (fun item m => s.messageOf? item = some m) items
  · left
    apply hall
  · right
    use before, item, after, ms, hitems, hms
    apply Option.eq_none_iff_forall_ne_some.mpr hitem

/-! ### What is added -/

/-- What there is to add to a log: messages, and all that a log holds. -/
def Offers (s : Session) (added : List Entry) : Prop :=
  (∃ ms : List Message, added = ms.map .message)
    ∨ ∃ other l, s.logs.find? other = some l ∧ added = l.entries

theorem offers_messages (s : Session) (ms : List Message) :
  s.Offers (ms.map .message)
  := by
  left
  use ms

theorem exists_offers_extend (s : Session) (items : List Item) (l : Log) :
  ∃ added, s.Offers added ∧ (s.extend l items).1 = ⟨l.entries ++ added⟩
  := by
  obtain ⟨ms, h⟩ | ⟨before, item, after, ms, rfl, h, hitem⟩ := s.standFor_or_exists_none items
  · use ms.map .message, s.offers_messages ms
    rw [extend_of_standFor h]
  · use ms.map .message, s.offers_messages ms
    obtain ⟨cause, hextend⟩ := exists_extend_of_none h hitem l after
    rw [hextend]

/-- A log is not merged into itself, and neither is one that is not there. -/
theorem exists_merge_refused {other : String} (h : log = other ∨ s.logs.find? other = none)
    (l : Log) :
  ∃ cause, s.merge log other l = (l, some cause)
  := by
  cases hl' : s.logs.find? other with
  | none =>
    use .unknownName other
    simp only [merge, lookup, hl']
  | some l' =>
    obtain rfl | hnone := h
    · use .log .mergedIntoItself
      simp only [merge, lookup, hl', if_pos]
    · rw [hl'] at hnone
      contradiction

theorem merge_of_ne {other : String} (hne : log ≠ other) (hl' : s.logs.find? other = some l')
    (l : Log) :
  s.merge log other l = (⟨l.entries ++ l'.entries⟩, none)
  := by
  simp only [merge, lookup, hl', if_neg hne, Log.merge]

theorem exists_offers_merge (s : Session) (log other : String) (l : Log) :
  ∃ added, s.Offers added ∧ (s.merge log other l).1 = ⟨l.entries ++ added⟩
  := by
  by_cases h : log = other ∨ s.logs.find? other = none
  · obtain ⟨cause, hmerge⟩ := exists_merge_refused h l
    use [], s.offers_messages []
    rw [hmerge, List.append_nil]
  · obtain ⟨hne, hsome⟩ := not_or.mp h
    obtain ⟨l', hl'⟩ := Option.ne_none_iff_exists'.mp hsome
    use l'.entries
    constructor
    · right
      use other, l'
    · rw [merge_of_ne hne hl']

/-! ### Changes -/

theorem change_eq_of_some {f : Log → Log × Option Failure} {failure : Option Failure}
    (h : s.logs.find? log = some l) (hf : f l = (l', failure)) :
  s.change log f = ({ s with logs := s.logs.set log l' }, ⟨outcome failure, some l'.length, none⟩)
  := by
  simp only [change, lookup, h, hf]

theorem change_eq_of_none (h : s.logs.find? log = none) (f : Log → Log × Option Failure) :
  s.change log f = (s, .error (.unknownName log))
  := by
  simp only [change, lookup, h]

/-- A change of one log is none of another. -/
theorem find?_logs_change_of_ne {name : String} (h : name ≠ log)
    (f : Log → Log × Option Failure) :
  (s.change log f).1.logs.find? name = s.logs.find? name
  := by
  cases hl : s.logs.find? log with
  | none => rw [change_eq_of_none hl]
  | some l =>
    rw [change_eq_of_some hl rfl]
    apply Table.find?_set_of_ne _ _ h

/-- A change that leaves a log as it was leaves them all. -/
theorem find?_logs_change_of_eq {f : Log → Log × Option Failure}
    (h : ∀ l, s.logs.find? log = some l → (f l).1 = l) (name : String) :
  (s.change log f).1.logs.find? name = s.logs.find? name
  := by
  by_cases hname : name = log
  · obtain rfl := hname
    cases hl : s.logs.find? name with
    | none => rw [change_eq_of_none hl, hl]
    | some l =>
      rw [change_eq_of_some hl rfl, h l hl]
      apply Table.find?_set_self
  · apply find?_logs_change_of_ne hname

/-! ### Steps -/

/-- Whether a step makes a log anew, of some entries. -/
def Makes (s : Session) (log : String) (entries : List Entry) (step : Step) : Prop :=
  ∃ items, step = .newLog log items ∧ items.mapM s.entry = .ok entries

theorem step_newLog_of_error {items : List Item} {cause : Failure}
    (h : items.mapM s.entry = .error cause) :
  s.step (.newLog log items) = (s, .error cause)
  := by
  simp only [step, h]

theorem step_newLog_of_ok {items : List Item} {entries : List Entry}
    (h : items.mapM s.entry = .ok entries) :
  s.step (.newLog log items)
    = ({ s with logs := s.logs.set log ⟨entries⟩ }, .ok (.count entries.length))
  := by
  simp only [step, h]

theorem find?_logs_step_of_makes {entries : List Entry} {step : Step}
    (h : s.Makes log entries step) :
  (s.step step).1.logs.find? log = some ⟨entries⟩
  := by
  obtain ⟨items, rfl, hitems⟩ := h
  rw [step_newLog_of_ok hitems]
  apply Table.find?_set_self

theorem logs_step_of_log?_eq_none {step : Step} (h : step.log? = none) :
  (s.step step).1.logs = s.logs
  := by
  cases step with
  | newLog log items => contradiction
  | append log item => contradiction
  | extend log items => contradiction
  | merge log other => contradiction
  | _ => simp only [Session.step] <;> split <;> rfl

/-- A request that names a log makes it anew, or changes it by adding to it. -/
theorem exists_change_of_log? (s : Session) {step : Step} (h : step.log? = some log) :
  (∃ items, step = .newLog log items)
    ∨ ∃ f : Log → Log × Option Failure, s.step step = s.change log f
      ∧ ∀ l : Log, ∃ added, s.Offers added ∧ (f l).1 = ⟨l.entries ++ added⟩
  := by
  cases step with
  | newLog name items =>
    obtain rfl := Option.some.inj h
    left
    use items
  | append name item =>
    obtain rfl := Option.some.inj h
    right
    use (s.extend · [item]), rfl
    apply exists_offers_extend
  | extend name items =>
    obtain rfl := Option.some.inj h
    right
    use (s.extend · items), rfl
    apply exists_offers_extend
  | merge name other =>
    obtain rfl := Option.some.inj h
    right
    use s.merge name other, rfl
    apply exists_offers_merge
  | _ => contradiction

/-- A step leaves a log alone that it does not name. -/
theorem find?_logs_step_of_ne {step : Step} (h : step.log? ≠ some log) :
  (s.step step).1.logs.find? log = s.logs.find? log
  := by
  cases hstep : step.log? with
  | none => rw [logs_step_of_log?_eq_none hstep]
  | some name =>
    have hname : log ≠ name := by
      rintro rfl
      apply h hstep
    obtain ⟨items, rfl⟩ | ⟨f, hf, -⟩ := s.exists_change_of_log? hstep
    · cases hitems : items.mapM s.entry with
      | error cause => rw [step_newLog_of_error hitems]
      | ok entries =>
        rw [step_newLog_of_ok hitems]
        apply Table.find?_set_of_ne _ _ hname
    · rw [hf]
      apply find?_logs_change_of_ne hname

/-- What a step does to a log: it leaves it alone, makes it anew, or adds to it. -/
theorem find?_logs_step (s : Session) (step : Step) (log : String) :
  (s.step step).1.logs.find? log = s.logs.find? log
    ∨ (∃ entries, s.Makes log entries step
      ∧ (s.step step).1.logs.find? log = some ⟨entries⟩)
    ∨ ∃ l added, s.logs.find? log = some l ∧ s.Offers added
      ∧ (s.step step).1.logs.find? log = some ⟨l.entries ++ added⟩
  := by
  by_cases h : step.log? = some log
  · obtain ⟨items, rfl⟩ | ⟨f, hf, hadds⟩ := s.exists_change_of_log? h
    · cases hitems : items.mapM s.entry with
      | error cause =>
        left
        rw [step_newLog_of_error hitems]
      | ok entries =>
        have hmakes : s.Makes log entries (.newLog log items) := ⟨items, rfl, hitems⟩
        right
        left
        use entries, hmakes
        apply find?_logs_step_of_makes hmakes
    · cases hl : s.logs.find? log with
      | none =>
        left
        rw [hf, change_eq_of_none hl, hl]
      | some l =>
        obtain ⟨added, hoffers, hadded⟩ := hadds l
        right
        right
        use l, added, rfl, hoffers
        rw [hf, change_eq_of_some hl rfl, hadded]
        apply Table.find?_set_self
  · left
    apply find?_logs_step_of_ne h

/-- What a log holds stays in front of what it holds after a step, unless the step makes it
anew. -/
theorem exists_find?_logs_step {step : Step} (hl : s.logs.find? log = some l)
    (hstep : ∀ entries, ¬s.Makes log entries step) :
  ∃ l', (s.step step).1.logs.find? log = some l' ∧ l.entries <+: l'.entries
  := by
  obtain h | ⟨entries, hmakes, -⟩ | ⟨_, added, hl', -, h⟩ := s.find?_logs_step step log
  · exact ⟨l, h.trans hl, List.prefix_refl _⟩
  · absurd hmakes
    apply hstep
  · obtain rfl := Option.some.inj (hl.symm.trans hl')
    use ⟨l.entries ++ added⟩, h
    apply List.prefix_append

/-! ### Runs -/

/-- Whether each of several steps is as told, of the session that takes it. -/
def Along (told : Session → Step → Prop) (s : Session) : List Step → Prop
  | [] => True
  | step :: steps => told s step ∧ Along told (s.step step).1 steps

theorem along_of_forall {told : Step → Prop} {steps : List Step}
    (h : ∀ step ∈ steps, told step) (s : Session) :
  s.Along (fun _ step => told step) steps
  := by
  induction steps generalizing s with
  | nil => trivial
  | cons step steps ih =>
    obtain ⟨hstep, hsteps⟩ := List.forall_mem_cons.mp h
    use hstep, ih hsteps _

/-- What every step keeps a run keeps. -/
theorem run_induction {told : Session → Step → Prop} (kept : Session → Prop)
    (hstep : ∀ s step, told s step → kept s → kept (s.step step).1) {steps : List Step}
    (hsteps : s.Along told steps) (hs : kept s) :
  kept (s.run steps).1
  := by
  induction steps generalizing s with
  | nil => apply hs
  | cons step steps ih =>
    obtain ⟨hfirst, hrest⟩ := hsteps
    apply ih hrest (hstep s step hfirst hs)

/-- A run leaves a log alone that no step of it names. -/
theorem find?_logs_run_of_ne {steps : List Step} (h : ∀ step ∈ steps, step.log? ≠ some log) :
  (s.run steps).1.logs.find? log = s.logs.find? log
  := by
  apply run_induction (fun t => t.logs.find? log = s.logs.find? log) _
    (along_of_forall h s) rfl
  intro t step hstep ht
  rw [find?_logs_step_of_ne hstep, ht]

/-- What a log holds stays in front of what it holds after a run that does not make it
anew. -/
theorem exists_find?_logs_run {steps : List Step} (hl : s.logs.find? log = some l)
    (hsteps : s.Along (fun t step => ∀ entries, ¬t.Makes log entries step) steps) :
  ∃ l', (s.run steps).1.logs.find? log = some l' ∧ l.entries <+: l'.entries
  := by
  apply run_induction
    (fun t => ∃ l', t.logs.find? log = some l' ∧ l.entries <+: l'.entries) _ hsteps
  · exact ⟨l, hl, List.prefix_refl _⟩
  · rintro t step hstep ⟨l', hl', hkept⟩
    obtain ⟨l'', hl'', hadded⟩ := exists_find?_logs_step hl' hstep
    use l'', hl''
    apply hkept.trans hadded

end Session

end Diagnostics
