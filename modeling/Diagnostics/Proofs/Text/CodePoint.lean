import Diagnostics.Proofs.Text.Split
import Diagnostics.Text.CodePoint
import Mathlib.Data.List.Basic

/-!
# Characters of a source text

Code points are characters unless there is a surrogate among them, and the fault is then the first
run of surrogates: `CodePoint.characters_eq_ok_iff` and `CodePoint.characters_eq_error_iff`. The
lines of a `String` are the same whether it is taken as a source text or not.
-/

namespace Diagnostics

namespace CodePoint

/-! ### Characters and surrogates -/

theorem char_injective :
  Function.Injective char
  := by
  intro c c' h
  apply char.inj h

/-- Code points are characters, with nothing after them or a surrogate. -/
theorem eq_map_char_or (points : List CodePoint) :
  (∃ text : List Char, points = text.map char)
    ∨ ∃ (text : List Char) (half : Fin 0x800) (rest : List CodePoint),
      points = text.map char ++ surrogate half :: rest
  := by
  induction points with
  | nil => exact Or.inl ⟨[], rfl⟩
  | cons p points ih =>
    cases p with
    | surrogate half => exact Or.inr ⟨[], half, points, rfl⟩
    | char c =>
      obtain ⟨text, rfl⟩ | ⟨text, half, rest, rfl⟩ := ih
      · exact Or.inl ⟨c :: text, rfl⟩
      · exact Or.inr ⟨c :: text, half, rest, rfl⟩

theorem charactersFrom_map_char (offset : Nat) (text : List Char) :
  charactersFrom offset (text.map char) = .ok text
  := by
  induction text generalizing offset with
  | nil => rfl
  | cons c text ih =>
    rw [List.map_cons, charactersFrom, ih]
    rfl

theorem charactersFrom_append_surrogate (offset : Nat) (text : List Char) (half : Fin 0x800)
    (rest : List CodePoint) :
  charactersFrom offset (text.map char ++ surrogate half :: rest)
    = .error ⟨offset + text.length, (rest.takeWhile isSurrogate).length + 1, half⟩
  := by
  induction text generalizing offset with
  | nil => rfl
  | cons c text ih =>
    rw [List.map_cons, List.cons_append, charactersFrom, ih, List.length_cons, Nat.add_assoc,
      Nat.add_comm 1]
    rfl

/-- The characters of a text are found again. -/
theorem characters_map_char (text : List Char) :
  characters (text.map char) = .ok text
  := charactersFrom_map_char 0 text

theorem characters_append_surrogate (text : List Char) (half : Fin 0x800)
    (rest : List CodePoint) :
  characters (text.map char ++ surrogate half :: rest)
    = .error ⟨text.length, (rest.takeWhile isSurrogate).length + 1, half⟩
  := by
  rw [characters, charactersFrom_append_surrogate, Nat.zero_add]

/-- Code points are the characters of a text when they are nothing else. -/
theorem characters_eq_ok_iff {points : List CodePoint} {text : List Char} :
  characters points = .ok text ↔ points = text.map char
  := by
  constructor
  · intro h
    obtain ⟨text', rfl⟩ | ⟨text', half, rest, rfl⟩ := eq_map_char_or points
    · rw [characters_map_char] at h
      rw [Except.ok.inj h]
    · rw [characters_append_surrogate] at h
      contradiction
  · rintro rfl
    apply characters_map_char

/-- A fault is the first run of surrogates: there are only characters before it, and it goes on up
to the next one. -/
theorem characters_eq_error_iff {points : List CodePoint} {fault : Fault} :
  characters points = .error fault
    ↔ ∃ (text : List Char) (rest : List CodePoint),
      points = text.map char ++ surrogate fault.first :: rest ∧ fault.offset = text.length
        ∧ fault.width = (rest.takeWhile isSurrogate).length + 1
  := by
  constructor
  · intro h
    obtain ⟨text, rfl⟩ | ⟨text, half, rest, rfl⟩ := eq_map_char_or points
    · rw [characters_map_char] at h
      contradiction
    · rw [characters_append_surrogate] at h
      obtain rfl := Except.error.inj h
      use text, rest
  · rintro ⟨text, rest, rfl, hoffset, hwidth⟩
    rw [characters_append_surrogate, ← hoffset, ← hwidth]

/-- Code points are characters when there is no surrogate among them. -/
theorem exists_characters_iff {points : List CodePoint} :
  (∃ text, characters points = .ok text) ↔ ∀ p ∈ points, p.isSurrogate = false
  := by
  constructor
  · rintro ⟨text, htext⟩
    rw [characters_eq_ok_iff.mp htext, List.forall_mem_map]
    intro c _
    rfl
  · intro h
    obtain ⟨text, rfl⟩ | ⟨text, half, rest, rfl⟩ := eq_map_char_or points
    · use text, characters_map_char text
    · have hhalf := h (surrogate half) (by simp)
      contradiction

theorem exists_characters_error_iff {points : List CodePoint} :
  (∃ fault, characters points = .error fault) ↔ ∃ p ∈ points, p.isSurrogate = true
  := by
  constructor
  · rintro ⟨fault, h⟩
    obtain ⟨text, rest, rfl, -, -⟩ := characters_eq_error_iff.mp h
    use surrogate fault.first
    simp [isSurrogate]
  · rintro ⟨p, hp, hsurrogate⟩
    cases h : characters points with
    | error fault => exact ⟨fault, rfl⟩
    | ok text =>
      rw [exists_characters_iff.mp ⟨text, h⟩ p hp] at hsurrogate
      contradiction

end CodePoint

/-! ### Lines -/

namespace Text

variable {α β : Type} [DecidableEq α] [DecidableEq β] {f : α → β}

theorem dropFinal_map (hf : Function.Injective f) (last : α) (segment : List α) :
  dropFinal (f last) (segment.map f) = (dropFinal last segment).map f
  := by
  have hlast : (segment.map f).getLast? = some (f last) ↔ segment.getLast? = some last := by
    rw [List.getLast?_map, ← Option.map_some, (Option.map_injective hf).eq_iff]
  by_cases h : segment.getLast? = some last
  · rw [dropFinal, dropFinal, if_pos h, if_pos (hlast.mpr h), List.map_dropLast]
  · rw [dropFinal, dropFinal, if_neg h, if_neg (mt hlast.mp h)]

theorem dropFinalEmpty_map (segments : List (List α)) :
  dropFinalEmpty (segments.map (List.map f)) = (dropFinalEmpty segments).map (List.map f)
  := by
  have hlast : (segments.map (List.map f)).getLast? = some [] ↔ segments.getLast? = some [] := by
    rw [List.getLast?_map, Option.map_eq_some_iff]
    simp
  by_cases h : segments.getLast? = some []
  · rw [dropFinalEmpty, dropFinalEmpty, if_pos h, if_pos (hlast.mpr h), List.map_dropLast]
  · rw [dropFinalEmpty, dropFinalEmpty, if_neg h, if_neg (mt hlast.mp h)]

/-- The lines of a text whose characters are replaced by others that can be told apart. -/
theorem linesBy_map (hf : Function.Injective f) (feed ret : α) (text : List α) :
  linesBy (f feed) (f ret) (text.map f) = (linesBy feed ret text).map (List.map f)
  := by
  rw [linesBy, linesBy, split_map hf, dropFinalEmpty_map, List.map_map, List.map_map]
  apply List.map_congr_left
  intro segment _
  apply dropFinal_map hf

end Text

/-- The lines of a string are made of the characters of its lines. -/
theorem SourceText.lines_ofString (text : String) :
  (ofString text).lines = (Text.lines text.toList).map (List.map .char)
  := Text.linesBy_map CodePoint.char_injective _ _ _

end Diagnostics
