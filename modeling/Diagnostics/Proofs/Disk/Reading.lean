import Diagnostics.Disk.Reading
import Diagnostics.Proofs.Path.Parse

/-!
# Paths that cannot be opened

A path is read in its plain form, which drops separators and points and no other characters.
So a null character in the path is still there when the path is opened, and it is the only
thing that keeps a path from being followed at all: `Disk.readText_eq_nullInPath_iff`.
-/

namespace Diagnostics

/-! ### The characters of a plain path -/

namespace Parts

/-- What is left out of the names of a path are separators and points. -/
theorem exists_mem_names_iff {c : Char} {text : List Char} (hsep : c ≠ '/') (hpoint : c ≠ '.') :
  (∃ name ∈ (parse .posix text).names, c ∈ name) ↔ c ∈ text
  := by
  rw [parse_posix, ← Text.exists_mem_split_iff hsep]
  constructor
  · rintro ⟨name, hname, hc⟩
    use name, (List.mem_filter.mp hname).1
  · rintro ⟨name, hname, hc⟩
    refine ⟨name, List.mem_filter.mpr ⟨hname, ?_⟩, hc⟩
    rw [decide_eq_true_iff]
    constructor
    · rintro rfl
      contradiction
    · rintro rfl
      exact hpoint (List.mem_singleton.mp hc)

/-- A plain path has the characters of the path, up to separators and points. -/
theorem mem_text_posix_iff {c : Char} {text : List Char} (hsep : c ≠ '/') (hpoint : c ≠ '.') :
  c ∈ (parse .posix text).text .posix ↔ c ∈ text
  := by
  have hanchor : c ∉ (parse .posix text).anchor .posix := by
    have hroot : ∀ root : Root, c ∉ root.text .posix := by
      intro root
      cases root <;> simp [Root.text, Flavour.separator, hsep]
    apply hroot
  have hsep' : c ≠ Flavour.posix.separator := hsep
  have hwritten : c ∈ (parse .posix text).anchor .posix
      ++ Text.join Flavour.posix.separator (parse .posix text).names ↔ c ∈ text := by
    rw [List.mem_append, or_iff_right hanchor, Text.mem_join_iff hsep',
      exists_mem_names_iff hsep hpoint]
  rw [← hwritten, Parts.text]
  split
  · rename_i hempty
    rw [hempty]
    simp [hpoint]
  · rfl

end Parts

/-! ### Following a path -/

namespace Disk

variable {d : Disk}

/-- A path is not followed at all when it holds a null character. -/
theorem follow_eq_nullInPath_iff {α : Type} {text : List Char} {f : Route → Except Obstacle α} :
  follow text f = .error .nullInPath ↔ '\x00' ∈ text
  := by
  rw [follow]
  split
  · rename_i h
    simpa using h
  · rename_i h
    constructor
    · intro hfollow
      -- whatever goes wrong on the way is an obstacle
      generalize (if text = [] then Except.error Obstacle.notFound
        else if pathBytesLimit ≤ (Utf8.encode text).length then Except.error Obstacle.nameTooLong
        else f (Route.ofText text)) = outcome at hfollow
      cases outcome with
      | error cause => simp [Except.mapError] at hfollow
      | ok a => simp [Except.mapError] at hfollow
    · intro hmem
      exact absurd (List.contains_iff_mem.mpr hmem) h

theorem contents_eq_nullInPath_iff {text : List Char} :
  d.contents text = .error .nullInPath ↔ '\x00' ∈ text
  := follow_eq_nullInPath_iff

/-- Reading stumbles over a null character exactly when the path holds one. -/
theorem readText_eq_nullInPath_iff {path : String} :
  d.readText path = .error (.path .nullInPath) ↔ '\x00' ∈ path.toList
  := by
  rw [← Parts.mem_text_posix_iff (by decide) (by decide), ← d.contents_eq_nullInPath_iff, readText]
  cases d.contents ((Parts.parse .posix path.toList).text .posix) with
  | error cause => simp [Except.mapError, bind, Except.bind]
  | ok bytes =>
    simp only [Except.mapError, bind, Except.bind, reduceCtorEq, iff_false]
    cases textOfBytes bytes with
    | error fault => simp
    | ok text => simp

end Disk

end Diagnostics
