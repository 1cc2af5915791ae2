import Diagnostics.Proofs.Disk.Reading
import Diagnostics.Render.Message

/-!
# Sources that cannot be read

A message whose source cannot be read has no rendering: the error names the path of the source
and says why it cannot be read. A path with a null character is the one exception, as rendering
then fails over the path alone: `Message.render_eq_sourceUnavailable_iff`.
-/

namespace Diagnostics

/-- A source without a text in memory is read from disk. -/
theorem Sources.textOf_of_find?_none {s : Sources} {path : Path}
    (h : s.texts.find? path.text = none) :
  s.textOf path = (s.disk.readText path.text).map .ofString
  := by
  simp only [textOf, h]

/-- Whatever keeps a source from being read is said with its path, but for a null character. -/
theorem RenderError.ofRead_of_ne {path : String} {cause : ReadError}
    (h : cause ≠ .path .nullInPath) :
  ofRead path cause = sourceUnavailable path cause
  := by
  cases cause with
  | notText fault => rfl
  | path cause =>
    cases cause with
    | nullInPath => contradiction
    | obstacle cause path => rfl

namespace Message

theorem render_of_textOf_error {m : Message} {c : Cache} {cause : ReadError} (s : Styling)
    (h : c.sources.textOf m.span.path = .error cause) :
  m.render c s = .error (.ofRead m.span.path.text cause)
  := by
  rw [render, renderRich, h]
  rfl

theorem render_of_readText_error {m : Message} {c : Cache} {cause : ReadError} (s : Styling)
    (hmemory : c.sources.texts.find? m.span.path.text = none)
    (hread : c.sources.disk.readText m.span.path.text = .error cause) :
  m.render c s = .error (.ofRead m.span.path.text cause)
  := by
  apply render_of_textOf_error
  rw [Sources.textOf_of_find?_none hmemory, hread]
  rfl

/-- A message whose source cannot be read fails with the path of the source and the cause,
unless the path holds a null character: then it fails without either. -/
theorem render_eq_sourceUnavailable_iff {m : Message} {c : Cache} {cause : ReadError}
    (s : Styling) (hmemory : c.sources.texts.find? m.span.path.text = none)
    (hread : c.sources.disk.readText m.span.path.text = .error cause) :
  (m.render c s = .error (.sourceUnavailable m.span.path.text cause)
      ↔ '\x00' ∉ m.span.path.text.toList)
    ∧ ('\x00' ∈ m.span.path.text.toList → m.render c s = .error .nullInPath)
  := by
  have hnull : cause = .path .nullInPath ↔ '\x00' ∈ m.span.path.text.toList := by
    rw [← Disk.readText_eq_nullInPath_iff (d := c.sources.disk), hread, Except.error.injEq]
  rw [render_of_readText_error s hmemory hread, ← hnull]
  constructor
  · constructor
    · rintro h rfl
      simp [RenderError.ofRead] at h
    · intro h
      rw [RenderError.ofRead_of_ne h]
  · rintro rfl
    rfl

/-- A message at the start of a file. -/
def aboutFile (name : String) : Message :=
  ⟨⟨.written name, 1, 1, 0, Nat.one_pos, Nat.one_pos⟩, .notAFunction .int⟩

/-- A message about a file that is not there. -/
theorem render_eq_sourceUnavailable_missing :
  Cache.empty.sources.texts.find? (aboutFile "m.an").span.path.text = none
    ∧ Cache.empty.sources.disk.readText (aboutFile "m.an").span.path.text
      = .error (.path (.obstacle .notFound "m.an"))
    ∧ (aboutFile "m.an").render .empty .noColor
      = .error (.sourceUnavailable "m.an" (.path (.obstacle .notFound "m.an")))
  := by
  have hread : Cache.empty.sources.disk.readText (aboutFile "m.an").span.path.text
      = .error (.path (.obstacle .notFound "m.an")) := by
    decide
  refine ⟨rfl, hread, ?_⟩
  apply (render_eq_sourceUnavailable_iff .noColor rfl hread).1.mpr
  decide

/-- Not every message whose source cannot be read says so: a null character in the path is
taken for another failure. -/
theorem not_forall_render_eq_sourceUnavailable :
  ¬ ∀ (m : Message) (c : Cache) (s : Styling) (cause : ReadError),
    c.sources.texts.find? m.span.path.text = none →
      c.sources.disk.readText m.span.path.text = .error cause →
        m.render c s = .error (.sourceUnavailable m.span.path.text cause)
  := by
  intro h
  have hread : Cache.empty.sources.disk.readText (aboutFile "a\x00b").span.path.text
      = .error (.path .nullInPath) := by
    decide
  have hrender := h (aboutFile "a\x00b") .empty .noColor _ rfl hread
  rw [render_of_readText_error .noColor rfl hread] at hrender
  simp [RenderError.ofRead] at hrender

end Message

end Diagnostics
