import Diagnostics.Log
import Diagnostics.Proofs.Render.Success
import Diagnostics.Proofs.Render.Unreadable

/-!
# Writing a log and rendering it

Rendering a log gives the texts of its entries in one, or fails like the first entry without a
text. Writing it stops at the same entry, with the texts of those before it written. Only an
error has a text, so what is written to its end is a log of errors: `Log.emit_eq_renderAll`.
-/

namespace Diagnostics

variable {c : Cache} {s : Styling}

namespace Entry

/-- Whether some texts are those of some entries, one for each. -/
def Rendered (c : Cache) (s : Styling) (entries : List Entry) (texts : List String) : Prop :=
  List.Forall₂ (fun e text => e.render c s = .ok text) entries texts

theorem exists_rendered_iff {entries : List Entry} :
  (∃ texts, Rendered c s entries texts) ↔ ∀ e ∈ entries, ∃ text, e.render c s = .ok text
  := by
  rw [← exists_mapM_eq_ok_iff]
  simp only [mapM_eq_ok_iff]
  rfl

theorem render_message_eq_ok_iff {m : Message} {text : String} :
  (message m).render c s = .ok text ↔ m.render c s = .ok text
  := by
  rw [render]
  cases m.render c s with
  | error cause => simp [Except.mapError]
  | ok text' => simp [Except.mapError]

/-- Only a message that is an error can be rendered. -/
theorem exists_message_of_render {e : Entry} {text : String} (h : e.render c s = .ok text) :
  ∃ m, e = message m ∧ m.isError = true
  := by
  cases e with
  | stray content => contradiction
  | message m =>
    have hm : ∃ text, m.render c s = .ok text := ⟨text, render_message_eq_ok_iff.mp h⟩
    obtain ⟨-, hwording, -⟩ := Message.exists_render_iff.mp hm
    use m, rfl
    rw [Message.isError, Message.severity]
    revert hwording
    cases m.payload <;> simp [Payload.hasWording, Payload.severity]

end Entry

namespace Log

/-! ### Entries with texts, and the first without -/

theorem write_of_rendered {entries : List Entry} {texts : List String}
    (h : Entry.Rendered c s entries texts) :
  write c s entries = (String.join texts, .ok ())
  := by
  induction h with
  | nil => rfl
  | cons he _ ih => simp [write, he, ih]

theorem write_of_error {before after : List Entry} {e : Entry} {texts : List String}
    {cause : LogError} (h : Entry.Rendered c s before texts) (he : e.render c s = .error cause) :
  write c s (before ++ e :: after) = (String.join texts, .error cause)
  := by
  induction h with
  | nil => simp [write, he]
  | cons he' _ ih => simp [write, he', ih]

theorem renderAll_of_rendered {l : Log} {texts : List String}
    (h : Entry.Rendered c s l.entries texts) :
  l.renderAll c s = .ok (String.join texts)
  := by
  rw [renderAll, mapM_eq_ok_iff.mpr h]
  rfl

theorem renderAll_of_error {before after : List Entry} {e : Entry} {texts : List String}
    {cause : LogError} (h : Entry.Rendered c s before texts) (he : e.render c s = .error cause) :
  (⟨before ++ e :: after⟩ : Log).renderAll c s = .error cause
  := by
  rw [renderAll, mapM_append_of_error h he]
  rfl

/-- What writing a log comes to when all its entries have texts. -/
theorem emit_of_rendered {l : Log} {texts : List String}
    (h : Entry.Rendered c s l.entries texts) :
  l.emit c s = (String.join texts, l.exitStatus)
  := by
  rw [emit, write_of_rendered h]
  rfl

theorem emit_of_error {before after : List Entry} {e : Entry} {texts : List String}
    {cause : LogError} (h : Entry.Rendered c s before texts) (he : e.render c s = .error cause) :
  (⟨before ++ e :: after⟩ : Log).emit c s = (String.join texts, .error cause)
  := by
  rw [emit, write_of_error h he]
  rfl

/-! ### Writing and rendering -/

/-- A log of errors has the exit status of failure, unless it is empty. -/
theorem exitStatus_of_isError {l : Log}
    (h : ∀ e ∈ l.entries, ∃ m, e = Entry.message m ∧ m.isError = true) :
  l.exitStatus = .ok (if l.entries = [] then exitSuccess else exitFailure)
  := by
  obtain ⟨entries⟩ := l
  cases entries with
  | nil => rfl
  | cons e entries =>
    obtain ⟨m, rfl, hm⟩ := h e List.mem_cons_self
    rw [exitStatus, hasErrors, anyError, Entry.isError, hm]
    rfl

/-- Writing a log writes the texts of the entries before the first that has none. It comes to
its end exactly when every entry has a text, and so does rendering, with all that is written;
every entry is then an error. Otherwise both fail like the first entry without a text. -/
theorem emit_eq_renderAll (l : Log) (c : Cache) (s : Styling) :
  (∃ before after texts, l.entries = before ++ after ∧ Entry.Rendered c s before texts
      ∧ (l.emit c s).1 = String.join texts
      ∧ ∀ e ∈ after.head?, ∃ cause, e.render c s = .error cause
        ∧ (l.emit c s).2 = .error cause ∧ l.renderAll c s = .error cause)
    ∧ ((∃ status, (l.emit c s).2 = .ok status) ↔
      ∀ e ∈ l.entries, ∃ text, e.render c s = .ok text)
    ∧ ((∃ status, (l.emit c s).2 = .ok status) ↔ ∃ text, l.renderAll c s = .ok text)
    ∧ ∀ status, (l.emit c s).2 = .ok status →
      l.renderAll c s = .ok (l.emit c s).1 ∧ l.exitStatus = .ok status
        ∧ (∀ e ∈ l.entries, ∃ m, e = .message m ∧ m.isError = true)
        ∧ (status = exitSuccess ↔ l.entries = [])
  := by
  obtain ⟨texts, htexts⟩ | ⟨before, e, after, texts, cause, hentries, htexts, he⟩ :=
    forall₂_or_exists_error (fun e : Entry => e.render c s) l.entries
  · have hall := Entry.exists_rendered_iff.mp ⟨texts, htexts⟩
    have herrors : ∀ e ∈ l.entries, ∃ m, e = Entry.message m ∧ m.isError = true := by
      intro e he
      obtain ⟨text, htext⟩ := hall e he
      apply Entry.exists_message_of_render htext
    have hemit := emit_of_rendered htexts
    have hrender := renderAll_of_rendered htexts
    have hstatus := exitStatus_of_isError herrors
    rw [hemit, hrender, hstatus]
    refine ⟨⟨l.entries, [], texts, (List.append_nil _).symm, htexts, rfl, ?_⟩, ?_, ?_, ?_⟩
    · simp
    · constructor
      · intro _
        apply hall
      · intro _
        exact ⟨_, rfl⟩
    · simp
    · intro status h
      obtain rfl := Except.ok.inj h
      refine ⟨rfl, rfl, herrors, ?_⟩
      simp [exitSuccess, exitFailure]
  · obtain ⟨entries⟩ := l
    obtain rfl := hentries
    rw [emit_of_error htexts he, renderAll_of_error htexts he]
    refine ⟨⟨before, e :: after, texts, rfl, htexts, rfl, ?_⟩, ?_, ?_, ?_⟩
    · simp [he]
    · constructor
      · simp
      · intro hall
        obtain ⟨text, htext⟩ := hall e (by simp)
        rw [he] at htext
        contradiction
    · simp
    · simp

/-- A log of a single error is written to its end, with the exit status of failure. -/
theorem emit_eq_renderAll_aboutFile :
  let log : Log := ⟨[.message (.aboutFile "m.an")]⟩
  let cache := Cache.empty.addSource (.written "m.an") ""
  ∃ status, (log.emit cache .noColor).2 = .ok status ∧ status ≠ exitSuccess
    ∧ log.renderAll cache .noColor = .ok (log.emit cache .noColor).1
  := by
  intro log cache
  have hrender : ∃ text, (Message.aboutFile "m.an").render cache .noColor = .ok text :=
    Message.exists_render_of_primitive .noColor (Sources.textOf_insert _ _ _) rfl rfl
  obtain ⟨-, hall, -, hstatus⟩ := emit_eq_renderAll log cache .noColor
  obtain ⟨status, h⟩ : ∃ status, (log.emit cache .noColor).2 = .ok status := by
    apply hall.mpr
    intro e he
    obtain rfl := List.mem_singleton.mp he
    obtain ⟨text, htext⟩ := hrender
    use text
    rw [Entry.render, htext]
    rfl
  obtain ⟨hsame, -, -, hempty⟩ := hstatus status h
  use status, h
  constructor
  · rw [Ne, hempty]
    simp [log]
  · apply hsame

end Log

end Diagnostics
