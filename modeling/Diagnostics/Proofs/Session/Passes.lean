import Diagnostics.Proofs.Interleaving
import Diagnostics.Proofs.Log.Entries
import Diagnostics.Proofs.Render.Unreadable
import Diagnostics.Proofs.Session.Logs

/-!
# Passes that report side by side

Several passes of a compiler report at the same time, and their steps come in some interleaving.
They append to one log that they share, or each appends to a log of its own, which is merged into
that of the driver once the pass is through. What a pass still has to bring, in its own log or not
reported yet, is not changed by any step but its merge, which brings all of it at once. So the
driver gets the reports one after the other, in the order of the merges, and the shared log gets
them interleaved: `Session.perm_shared_merged`.
-/

namespace Diagnostics

/-- A pass of the compiler: what it reports, and the log that it has to itself. -/
structure Pass where
  items : List Item
  buffer : String

namespace Pass

/-- The steps of a pass that reports into a log. -/
def reportsTo (log : String) (p : Pass) : List Step :=
  p.items.map (.append log)

/-- The steps of a pass that reports into its own log, which is then merged into another. -/
def mergedInto (log : String) (p : Pass) : List Step :=
  p.reportsTo p.buffer ++ [.merge log p.buffer]

theorem reportsTo_eq_cons {log : String} {p : Pass} {step : Step} {steps : List Step}
    (h : p.reportsTo log = step :: steps) :
  ∃ item items, p = ⟨item :: items, p.buffer⟩ ∧ step = .append log item
    ∧ steps = (⟨items, p.buffer⟩ : Pass).reportsTo log
  := by
  obtain ⟨items, buffer⟩ := p
  obtain ⟨item, items, rfl, rfl, rfl⟩ := List.map_eq_cons_iff.mp h
  use item, items, rfl, rfl
  rfl

/-- A pass reports an item or, with none left, is merged. -/
theorem mergedInto_eq_cons {log : String} {p : Pass} {step : Step} {steps : List Step}
    (h : p.mergedInto log = step :: steps) :
  (∃ item items, p = ⟨item :: items, p.buffer⟩ ∧ step = .append p.buffer item
      ∧ steps = (⟨items, p.buffer⟩ : Pass).mergedInto log)
    ∨ (p = ⟨[], p.buffer⟩ ∧ step = .merge log p.buffer ∧ steps = [])
  := by
  obtain ⟨items, buffer⟩ := p
  cases items with
  | nil =>
    right
    obtain ⟨rfl, rfl⟩ := List.cons.inj h
    exact ⟨rfl, rfl, rfl⟩
  | cons item items =>
    left
    obtain ⟨rfl, rfl⟩ := List.cons.inj h
    use item, items, rfl, rfl
    rfl

end Pass

namespace Session

variable {s t : Session} {log : String} {ms : List Message} {passes : List Pass}
  {steps : List Step}

/-- The messages among items. -/
def messagesOf (s : Session) (items : List Item) : List Message :=
  items.filterMap s.messageOf?

/-- The messages that a pass reports. -/
def reported (s : Session) (p : Pass) : List Message :=
  s.messagesOf p.items

/-! ### Steps -/

theorem messages_change (s : Session) (log : String) (f : Log → Log × Option Failure) :
  (s.change log f).1.messages = s.messages
  := by
  cases hl : s.logs.find? log with
  | none => rw [change_eq_of_none hl]
  | some l => rw [change_eq_of_some hl rfl]

/-- Items stand for the same messages as long as these have the same names. -/
theorem messagesOf_congr (h : t.messages = s.messages) :
  t.messagesOf = s.messagesOf
  := by
  funext items
  rw [messagesOf, messagesOf]
  congr 1
  funext item
  cases item with
  | named name => rw [messageOf?, messageOf?, h]
  | stray content => rfl

theorem reported_change (s : Session) (log : String) (f : Log → Log × Option Failure) :
  (s.change log f).1.reported = s.reported
  := by
  funext p
  rw [reported, reported, messagesOf_congr (messages_change s log f)]

/-- A log of messages gets the message that an item stands for, if there is one. -/
theorem find?_logs_append (hl : s.logs.find? log = some (.ofMessages ms)) (item : Item) :
  (s.step (.append log item)).1.logs.find? log = some (.ofMessages (ms ++ s.messagesOf [item]))
  := by
  have hextend : ∃ failure, s.extend (.ofMessages ms) [item]
      = (.ofMessages (ms ++ s.messagesOf [item]), failure) := by
    cases hitem : s.messageOf? item with
    | none =>
      obtain ⟨cause, h⟩ := extend_cons_of_none hitem (.ofMessages ms) []
      use some cause
      rw [h, messagesOf, List.filterMap_cons_none hitem, List.filterMap_nil, List.append_nil]
    | some m =>
      use none
      rw [extend_of_standFor (List.Forall₂.cons hitem .nil), messagesOf,
        List.filterMap_cons_some hitem, List.filterMap_nil]
      simp [Log.ofMessages]
  obtain ⟨failure, h⟩ := hextend
  rw [step, change_eq_of_some hl h]
  apply Table.find?_set_self

theorem find?_logs_merge {other : String} {ms' : List Message} (hne : log ≠ other)
    (hl : s.logs.find? log = some (.ofMessages ms))
    (hl' : s.logs.find? other = some (.ofMessages ms')) :
  (s.step (.merge log other)).1.logs.find? log = some (.ofMessages (ms ++ ms'))
  := by
  rw [step, change_eq_of_some hl (merge_of_ne hne hl' _)]
  simp [Log.ofMessages]

theorem reported_cons (s : Session) (item : Item) (items : List Item) (buffer : String) :
  s.reported ⟨item :: items, buffer⟩ = s.messagesOf [item] ++ s.reported ⟨items, buffer⟩
  := @List.filterMap_append _ _ [item] items _

/-! ### A shared log -/

/-- Passes that share a log add an interleaving of their reports to it. -/
theorem exists_interleaving_reported (hl : s.logs.find? log = some (.ofMessages ms))
    (hsteps : Interleaving (passes.map (Pass.reportsTo log)) steps) :
  ∃ added, Interleaving (passes.map s.reported) added
    ∧ (s.run steps).1.logs.find? log = some (.ofMessages (ms ++ added))
  := by
  induction steps generalizing s ms passes with
  | nil =>
    use []
    constructor
    · apply Interleaving.done
      intro report hreport
      obtain ⟨p, hp, rfl⟩ := List.mem_map.mp hreport
      have hitems := hsteps.eq_nil (List.mem_map_of_mem hp)
      rw [reported, messagesOf, List.map_eq_nil_iff.mp hitems, List.filterMap_nil]
    · rw [List.append_nil]
      apply hl
  | cons step steps ih =>
    obtain ⟨p, others, rest, hperm, hp, hrest⟩ := hsteps.exists_of_map_cons
    obtain ⟨item, items, hitems, rfl, rfl⟩ := Pass.reportsTo_eq_cons hp
    have hleft : Interleaving ((⟨items, p.buffer⟩ :: others).map (Pass.reportsTo log)) steps :=
      hrest
    obtain ⟨added, hadded, hrun⟩ := ih (find?_logs_append hl item) hleft
    use s.messagesOf [item] ++ added
    constructor
    · rw [step, reported_change] at hadded
      apply Interleaving.of_perm _ (hperm.map s.reported).symm
      rw [List.map_cons, hitems, reported_cons]
      apply hadded.prepend
    · rw [← List.append_assoc]
      apply hrun

/-! ### Logs that are merged -/

/-- Whether messages are all that a pass still has to bring: what its own log holds, and what it
has not reported yet. -/
def Owes (s : Session) (p : Pass) (report : List Message) : Prop :=
  ∃ held, s.logs.find? p.buffer = some (.ofMessages held) ∧ held ++ s.reported p = report

variable {report : List Message}

/-- What a pass reports into its own log it still has to bring. -/
theorem owes_append {item : Item} {items : List Item} {buffer : String}
    (h : s.Owes ⟨item :: items, buffer⟩ report) :
  (s.step (.append buffer item)).1.Owes ⟨items, buffer⟩ report
  := by
  obtain ⟨held, hheld, rfl⟩ := h
  use held ++ s.messagesOf [item], find?_logs_append hheld item
  rw [step, reported_change, reported_cons, List.append_assoc]

/-- Nothing that is done to another log changes what a pass has to bring. -/
theorem owes_change_of_ne {p : Pass} (hne : p.buffer ≠ log) (h : s.Owes p report)
    (f : Log → Log × Option Failure) :
  (s.change log f).1.Owes p report
  := by
  obtain ⟨held, hheld, rfl⟩ := h
  use held
  rw [find?_logs_change_of_ne hne, reported_change]
  use hheld

/-- The log of the driver gets what the passes have to bring, in the order of their merges. -/
theorem exists_perm_owed {owing : List (Pass × List Message)}
    (hl : s.logs.find? log = some (.ofMessages ms)) (howing : ∀ e ∈ owing, s.Owes e.1 e.2)
    (hlog : ∀ e ∈ owing, e.1.buffer ≠ log)
    (hbuffers : owing.Pairwise (fun e e' => e.1.buffer ≠ e'.1.buffer))
    (hsteps : Interleaving (owing.map (fun e => e.1.mergedInto log)) steps) :
  ∃ order : List (List Message), order.Perm (owing.map Prod.snd)
    ∧ (s.run steps).1.logs.find? log = some (.ofMessages (ms ++ order.flatten))
  := by
  induction steps generalizing s ms owing with
  | nil =>
    cases owing with
    | nil =>
      use [], List.Perm.nil
      rw [List.flatten_nil, List.append_nil]
      apply hl
    | cons e owing =>
      have hmerge := hsteps.eq_nil List.mem_cons_self
      simp [Pass.mergedInto] at hmerge
  | cons step steps ih =>
    obtain ⟨⟨p, report⟩, others, rest, hperm, hp, hrest⟩ := hsteps.exists_of_map_cons
    replace hp : p.mergedInto log = step :: rest := hp
    simp only [hperm.mem_iff, List.forall_mem_cons] at howing hlog
    obtain ⟨hbuffer, hbuffers'⟩ :=
      List.pairwise_cons.mp (hperm.pairwise hbuffers Ne.symm)
    have hothers := (hperm.map Prod.snd).symm
    obtain ⟨item, items, hitems, rfl, rfl⟩ | ⟨hitems, rfl, rfl⟩ := Pass.mergedInto_eq_cons hp
    · -- the pass has still to bring what it brought into its own log
      have howing' : ∀ e ∈ ((⟨items, p.buffer⟩, report) : Pass × List Message) :: others,
          (s.step (.append p.buffer item)).1.Owes e.1 e.2 := by
        intro e he
        rcases List.mem_cons.mp he with rfl | he
        · apply owes_append
          rw [← hitems]
          apply howing.1
        · apply owes_change_of_ne (hbuffer e he).symm (howing.2 e he)
      obtain ⟨order, horder, hrun⟩ :=
        ih ((find?_logs_change_of_ne hlog.1.symm _).trans hl) howing'
          (List.forall_mem_cons.mpr hlog) (List.pairwise_cons.mpr ⟨hbuffer, hbuffers'⟩) hrest
      use order, horder.trans hothers, hrun
    · obtain ⟨held, hheld, hreport⟩ := howing.1
      have howing' : ∀ e ∈ others, (s.step (.merge log p.buffer)).1.Owes e.1 e.2 := by
        intro e he
        apply owes_change_of_ne (hlog.2 e he) (howing.2 e he)
      obtain ⟨order, horder, hrun⟩ :=
        ih (find?_logs_merge hlog.1.symm hl hheld) howing' hlog.2 hbuffers' hrest.of_nil_cons
      use held :: order
      constructor
      · rw [hitems, reported, messagesOf, List.filterMap_nil, List.append_nil] at hreport
        rw [hreport]
        apply (horder.cons report).trans hothers
      · rw [List.flatten_cons, ← List.append_assoc]
        apply hrun

/-- Passes that fill empty logs of their own add an interleaving of their reports, too. -/
theorem exists_interleaving_merged (hl : s.logs.find? log = some (.ofMessages ms))
    (hbuffers : ∀ p ∈ passes, s.logs.find? p.buffer = some (.ofMessages []))
    (hlog : ∀ p ∈ passes, p.buffer ≠ log)
    (hdistinct : passes.Pairwise (fun p q => p.buffer ≠ q.buffer))
    (hsteps : Interleaving (passes.map (Pass.mergedInto log)) steps) :
  ∃ added, Interleaving (passes.map s.reported) added
    ∧ (s.run steps).1.logs.find? log = some (.ofMessages (ms ++ added))
  := by
  let owing : List (Pass × List Message) := passes.map (fun p => (p, s.reported p))
  have howing : ∀ e ∈ owing, s.Owes e.1 e.2 := by
    intro e he
    obtain ⟨p, hp, rfl⟩ := List.mem_map.mp he
    use [], hbuffers p hp
    apply List.nil_append
  have hlog' : ∀ e ∈ owing, e.1.buffer ≠ log := by
    intro e he
    obtain ⟨p, hp, rfl⟩ := List.mem_map.mp he
    apply hlog p hp
  have hdistinct' : owing.Pairwise (fun e e' => e.1.buffer ≠ e'.1.buffer) :=
    List.pairwise_map.mpr hdistinct
  have hsteps' : Interleaving (owing.map (fun e => e.1.mergedInto log)) steps := by
    rw [List.map_map]
    apply hsteps
  obtain ⟨order, horder, hrun⟩ := exists_perm_owed hl howing hlog' hdistinct' hsteps'
  use order.flatten
  constructor
  · rw [List.map_map] at horder
    apply (Interleaving.flatten order).of_perm horder
  · apply hrun

/-! ### Both ways of reporting -/

/-- What a log of messages answers depends on the number of messages and of errors alone. -/
theorem answers_ofMessages (hl : s.logs.find? log = some (.ofMessages ms)) :
  (s.step (.length log)).2 = .ok (.count ms.length)
    ∧ (s.step (.errorCount log)).2 = .ok (.count (ms.countP Message.isError))
    ∧ (s.step (.hasErrors log)).2 = .ok (.truth (decide (0 < ms.countP Message.isError)))
    ∧ (s.step (.exitStatus log)).2
      = .ok (.count (if 0 < ms.countP Message.isError then Log.exitFailure
        else Log.exitSuccess))
  := by
  simp only [step, ask, lookup, hl, bind, Except.bind, Log.errorCount_ofMessages,
    Log.hasErrors_ofMessages, Log.exitStatus_ofMessages, Log.length_ofMessages]
  exact ⟨rfl, rfl, rfl, rfl⟩

/-- Passes that append to one log, in any interleaving, and passes that fill logs of their own,
which are merged in any order, report the same messages: both logs hold all reports and nothing
else, each report in its order, so they answer alike. -/
theorem perm_shared_merged {shared driver : String} {steps' : List Step}
    (hshared : s.logs.find? shared = some (.ofMessages []))
    (hdriver : s.logs.find? driver = some (.ofMessages []))
    (hbuffers : ∀ p ∈ passes, s.logs.find? p.buffer = some (.ofMessages []))
    (hbuffer_ne : ∀ p ∈ passes, p.buffer ≠ driver)
    (hdistinct : passes.Pairwise (fun p q => p.buffer ≠ q.buffer))
    (hsteps : Interleaving (passes.map (Pass.reportsTo shared)) steps)
    (hsteps' : Interleaving (passes.map (Pass.mergedInto driver)) steps') :
  ∃ ms ms' : List Message, (s.run steps).1.logs.find? shared = some (.ofMessages ms)
    ∧ (s.run steps').1.logs.find? driver = some (.ofMessages ms')
    ∧ ms.Perm ms'
    ∧ Interleaving (passes.map s.reported) ms ∧ Interleaving (passes.map s.reported) ms'
    ∧ (∀ p ∈ passes, (s.reported p).Sublist ms ∧ (s.reported p).Sublist ms')
    ∧ ∀ question ∈ [Step.length, .errorCount, .hasErrors, .exitStatus], ∃ answer,
      ((s.run steps).1.step (question shared)).2 = .ok answer
        ∧ ((s.run steps').1.step (question driver)).2 = .ok answer
  := by
  obtain ⟨ms, hms, hrun⟩ := exists_interleaving_reported hshared hsteps
  obtain ⟨ms', hms', hrun'⟩ :=
    exists_interleaving_merged hdriver hbuffers hbuffer_ne hdistinct hsteps'
  rw [List.nil_append] at hrun hrun'
  have hperm : ms.Perm ms' := hms.perm_flatten.trans hms'.perm_flatten.symm
  use ms, ms', hrun, hrun', hperm, hms, hms'
  constructor
  · intro p hp
    have hreport : s.reported p ∈ passes.map s.reported := List.mem_map_of_mem hp
    use hms.sublist hreport
    apply hms'.sublist hreport
  · obtain ⟨hlength, hcount, htruth, hstatus⟩ := answers_ofMessages hrun
    obtain ⟨hlength', hcount', htruth', hstatus'⟩ := answers_ofMessages hrun'
    rw [← hperm.countP_eq] at hcount' htruth' hstatus'
    rw [← hperm.length_eq] at hlength'
    simp only [List.forall_mem_cons, List.not_mem_nil, false_imp_iff, implies_true, and_true]
    exact ⟨⟨_, hlength, hlength'⟩, ⟨_, hcount, hcount'⟩, ⟨_, htruth, htruth'⟩,
      ⟨_, hstatus, hstatus'⟩⟩

/-- A pass that reports twice and one that reports once, which is merged first. -/
theorem perm_shared_merged_twoPasses :
  let first := Message.aboutFile "a.an"
  let second := Message.aboutFile "b.an"
  let empty := Log.ofMessages []
  let s : Session := ⟨.empty, (Table.empty.set "m" first).set "n" second,
    (((Table.empty.set "all" empty).set "driver" empty).set "p" empty).set "q" empty, .empty⟩
  ∃ ms ms' : List Message,
    (s.run [.append "all" (.named "m"), .append "all" (.named "n"),
        .append "all" (.named "n")]).1.logs.find? "all" = some (.ofMessages ms)
      ∧ (s.run [.append "q" (.named "n"), .append "p" (.named "m"), .merge "driver" "q",
        .append "p" (.named "n"), .merge "driver" "p"]).1.logs.find? "driver"
        = some (.ofMessages ms')
      ∧ ms.Perm ms' ∧ [first, second].Sublist ms ∧ [first, second].Sublist ms'
  := by
  intro first second empty s
  let passes : List Pass := [⟨[.named "m", .named "n"], "p"⟩, ⟨[.named "n"], "q"⟩]
  have hsteps : Interleaving (passes.map (Pass.reportsTo "all"))
      [.append "all" (.named "m"), .append "all" (.named "n"), .append "all" (.named "n")] := by
    apply Interleaving.take_head
    apply Interleaving.take_head
    apply @Interleaving.take _ [[]]
    apply Interleaving.done
    simp
  have hsteps' : Interleaving (passes.map (Pass.mergedInto "driver"))
      [.append "q" (.named "n"), .append "p" (.named "m"), .merge "driver" "q",
        .append "p" (.named "n"), .merge "driver" "p"] := by
    apply @Interleaving.take _ [_]
    apply Interleaving.take_head
    apply @Interleaving.take _ [_]
    apply Interleaving.take_head
    apply Interleaving.take_head
    apply Interleaving.done
    simp
  obtain ⟨ms, ms', hrun, hrun', hperm, -, -, hsublist, -⟩ :=
    perm_shared_merged (s := s) rfl rfl (by simp [passes]; exact ⟨rfl, rfl⟩) (by simp [passes])
      (by simp [passes]) hsteps hsteps'
  use ms, ms', hrun, hrun', hperm
  apply hsublist ⟨[.named "m", .named "n"], "p"⟩ List.mem_cons_self

end Session

end Diagnostics
