import Diagnostics.Proofs.Render.Inference
import Diagnostics.Proofs.Session.Logs

/-!
# The sources of a session

Three requests change what a lookup of a source text finds: one keeps a text in memory, two change
the disk. So after a run the text of a path is the last one kept under its key, or the one kept
from the start, or else what the disk holds, as the run has left it: `Session.sourceText_run`.
Lookups and renderings leave all of this as it was.
-/

namespace Diagnostics

namespace Step

/-- Whether a request may change what a lookup finds. -/
def changesSources : Step → Bool
  | addSource _ _ => true
  | writeFile _ _ => true
  | deleteFile _ => true
  | _ => false

/-- The text that a request keeps in memory under a key. -/
def keeps? (key : String) : Step → Option SourceText
  | addSource path text => if path.text = key then some text else none
  | _ => none

/-- What a request makes of the disk. -/
def onDisk (d : Disk) : Step → Disk
  | writeFile name bytes => (d.write name.toList bytes).1
  | deleteFile name => (d.remove name.toList).toOption.getD d
  | _ => d

/-- The last text that one of several requests keeps under a key. -/
def lastKept? (key : String) (steps : List Step) : Option SourceText :=
  steps.reverse.findSome? (keeps? key)

variable {step : Step} {steps : List Step}

theorem keeps?_of_not_changesSources (h : step.changesSources = false) (key : String) :
  step.keeps? key = none
  := by
  cases step with
  | addSource path text => contradiction
  | _ => rfl

theorem onDisk_of_not_changesSources (h : step.changesSources = false) (d : Disk) :
  step.onDisk d = d
  := by
  cases step with
  | writeFile name bytes => contradiction
  | deleteFile name => contradiction
  | _ => rfl

theorem lastKept?_cons (key : String) (step : Step) (steps : List Step) :
  lastKept? key (step :: steps) = (lastKept? key steps).or (step.keeps? key)
  := by
  rw [lastKept?, List.reverse_cons, List.findSome?_append, lastKept?, List.findSome?_singleton]

/-- Requests that do not change the sources may be left out. -/
theorem lastKept?_filter (key : String) (steps : List Step) :
  lastKept? key (steps.filter changesSources) = lastKept? key steps
  := by
  induction steps with
  | nil => rfl
  | cons step steps ih =>
    cases h : step.changesSources with
    | true => rw [List.filter_cons_of_pos h, lastKept?_cons, lastKept?_cons, ih]
    | false =>
      rw [List.filter_cons_of_neg (by simp [h]), lastKept?_cons,
        keeps?_of_not_changesSources h, Option.or_none, ih]

/-- What several requests make of the disk, one after the other. -/
def onDiskAll (d : Disk) (steps : List Step) : Disk :=
  steps.foldl onDisk d

theorem onDiskAll_filter (d : Disk) (steps : List Step) :
  onDiskAll d (steps.filter changesSources) = onDiskAll d steps
  := by
  induction steps generalizing d with
  | nil => rfl
  | cons step steps ih =>
    cases h : step.changesSources with
    | true =>
      rw [List.filter_cons_of_pos h]
      apply ih
    | false =>
      rw [List.filter_cons_of_neg (by simp [h]), ih, onDiskAll, onDiskAll, List.foldl_cons,
        onDisk_of_not_changesSources h]

end Step

/-- The reply to a lookup of a source text. -/
def Reply.ofLookup (found : Except ReadError SourceText) : Reply :=
  .ofExcept ((found.mapError Failure.read).map .source)

namespace Session

variable {s : Session} {step : Step}

/-! ### Steps -/

theorem cache_change (s : Session) (log : String) (f : Log → Log × Option Failure) :
  (s.change log f).1.cache = s.cache
  := by
  cases hl : s.logs.find? log with
  | none => rw [change_eq_of_none hl]
  | some l => rw [change_eq_of_some hl rfl]

theorem sources_step_of_not_changesSources (h : step.changesSources = false) :
  (s.step step).1.cache.sources = s.cache.sources
  := by
  cases step with
  | addSource path text => contradiction
  | writeFile name bytes => contradiction
  | deleteFile name => contradiction
  | bind id ty =>
    rw [Session.step]
    split
    · rename_i cache hbind
      apply Cache.sources_bind hbind
    · rfl
  | append log item => rw [step, cache_change]
  | extend log items => rw [step, cache_change]
  | merge log other => rw [step, cache_change]
  | _ => simp only [Session.step] <;> split <;> rfl

/-- The texts in memory after a step. -/
theorem find?_texts_step (s : Session) (step : Step) (key : String) :
  (s.step step).1.cache.sources.texts.find? key
    = (step.keeps? key).or (s.cache.sources.texts.find? key)
  := by
  cases step with
  | addSource path text =>
    by_cases hkey : path.text = key
    · obtain rfl := hkey
      rw [Step.keeps?, if_pos rfl]
      apply Table.find?_set_self
    · rw [Step.keeps?, if_neg hkey]
      apply Table.find?_set_of_ne _ _ (Ne.symm hkey)
  | writeFile name bytes => rfl
  | deleteFile name =>
    rw [step]
    split <;> rfl
  | _ =>
    rw [sources_step_of_not_changesSources rfl]
    rfl

/-- The disk after a step. -/
theorem disk_step (s : Session) (step : Step) :
  (s.step step).1.cache.sources.disk = step.onDisk s.cache.sources.disk
  := by
  cases step with
  | addSource path text => rfl
  | writeFile name bytes => rfl
  | deleteFile name =>
    rw [step, Step.onDisk]
    split
    · rename_i disk hremove
      rw [hremove]
      rfl
    · rename_i cause hremove
      rw [hremove]
      rfl
  | _ =>
    rw [sources_step_of_not_changesSources rfl]
    rfl

/-! ### Runs -/

theorem find?_texts_run (s : Session) (steps : List Step) (key : String) :
  (s.run steps).1.cache.sources.texts.find? key
    = (Step.lastKept? key steps).or (s.cache.sources.texts.find? key)
  := by
  induction steps generalizing s with
  | nil => rfl
  | cons step steps ih =>
    rw [Step.lastKept?_cons, Option.or_assoc, ← find?_texts_step]
    apply ih

theorem disk_run (s : Session) (steps : List Step) :
  (s.run steps).1.cache.sources.disk = Step.onDiskAll s.cache.sources.disk steps
  := by
  induction steps generalizing s with
  | nil => rfl
  | cons step steps ih =>
    rw [Step.onDiskAll, List.foldl_cons, ← disk_step]
    apply ih

/-! ### Lookups -/

theorem step_sourceText (s : Session) (path : Path) :
  s.step (.sourceText path) = (s, .ofLookup (s.cache.sources.textOf path))
  := rfl

/-- The text of a path after a run. -/
theorem textOf_run (s : Session) (steps : List Step) (path : Path) :
  (s.run steps).1.cache.sources.textOf path
    = ((Step.lastKept? path.text steps).or (s.cache.sources.texts.find? path.text)).elim
      (((Step.onDiskAll s.cache.sources.disk steps).readText path.text).map .ofString) .ok
  := by
  rw [Sources.textOf, find?_texts_run, disk_run]
  cases (Step.lastKept? path.text steps).or (s.cache.sources.texts.find? path.text) with
  | none => rfl
  | some text => rfl

/-- After a run a lookup finds the last text kept under the key of the path, or else the text kept
there from the start, or else what the disk holds by then. Requests that change neither may be left
out of the run, and paths with one key are looked up alike. -/
theorem sourceText_run (s : Session) (steps : List Step) (path : Path) :
  (∀ text, (Step.lastKept? path.text steps).or (s.cache.sources.texts.find? path.text) = some text →
      ((s.run steps).1.step (.sourceText path)).2 = .ok (.source text))
    ∧ ((Step.lastKept? path.text steps).or (s.cache.sources.texts.find? path.text) = none →
      ((s.run steps).1.step (.sourceText path)).2
        = .ofLookup (((Step.onDiskAll s.cache.sources.disk steps).readText path.text).map .ofString))
    ∧ ((s.run (steps.filter Step.changesSources)).1.step (.sourceText path)).2
      = ((s.run steps).1.step (.sourceText path)).2
    ∧ ∀ path' : Path, path'.text = path.text →
      ((s.run steps).1.step (.sourceText path')).2 = ((s.run steps).1.step (.sourceText path)).2
  := by
  simp only [step_sourceText]
  refine ⟨?_, ?_, ?_, ?_⟩
  · intro text htext
    rw [textOf_run, htext, Option.elim_some]
    rfl
  · intro hnone
    rw [textOf_run, hnone, Option.elim_none]
  · rw [textOf_run, textOf_run, Step.lastKept?_filter, Step.onDiskAll_filter]
  · intro path' hpath
    rw [Sources.textOf_congr _ hpath]

/-- An empty text in memory is found under another spelling of its path, and hides the file. -/
theorem sourceText_run_empty :
  let steps : List Step := [.writeFile "a.an" [104], .addSource (.ofText .posix "./a.an") "",
    .writeFile "b.an" [104]]
  let s : Session := (run (.ofCache .empty) steps).1
  (s.step (.sourceText (.written "a.an"))).2 = .ok (.source "")
    ∧ (s.step (.sourceText (.ofText .windows "a.an"))).2
      = (s.step (.sourceText (.written "a.an"))).2
    ∧ (s.step (.sourceText (.written "b.an"))).2 = .ok (.source "h")
  := by
  intro steps s
  obtain ⟨hkept, -, -, hpath⟩ := sourceText_run (.ofCache .empty) steps (.written "a.an")
  obtain ⟨-, hdisk, -, -⟩ := sourceText_run (.ofCache .empty) steps (.written "b.an")
  have hread : (Step.onDiskAll .empty steps).readText "b.an" = .ok "h" := by
    decide +kernel
  refine ⟨hkept "" (by decide), hpath _ (by decide), ?_⟩
  apply (hdisk (by decide)).trans
  apply congrArg (fun found => Reply.ofLookup (found.map .ofString)) hread

end Session

end Diagnostics
