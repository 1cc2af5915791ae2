import Diagnostics.Proofs.Text.Decimal
import Diagnostics.Ty.Bindings

/-!
# Names of type variables

The name of a variable is a lower-case letter and, from the second round of the alphabet on,
the number of the round, which may be negative. Letter and round make up the variable, so
different variables have different names.
-/

namespace Diagnostics

/-- The letter of a variable. -/
def variableLetter (id : Int) : Char :=
  Char.ofNat ('a'.toNat + (id % 26).toNat)

/-- What follows the letter: nothing in the first round, its number in another. -/
def variableSuffix (id : Int) : List Char :=
  if id / 26 = 0 then [] else (toString (id / 26)).toList

theorem toList_variableName (id : Int) :
  (variableName id).toList = variableLetter id :: variableSuffix id
  := by
  rw [variableName, variableSuffix]
  simp only [apply_ite String.toList, String.toList_append, String.toList_ofList]
  split
  · rfl
  · rfl

theorem toNat_variableLetter (id : Int) :
  (variableLetter id).toNat = 97 + (id % 26).toNat
  := by
  have hvalid : (97 + (id % 26).toNat).isValidChar := by
    simp only [Nat.isValidChar]
    omega
  rw [variableLetter, show 'a'.toNat = 97 from rfl, Char.ofNat, dif_pos hvalid]
  rfl

theorem isLower_variableLetter (id : Int) :
  (variableLetter id).isLower = true
  := by
  have h := toNat_variableLetter id
  apply Bool.and_eq_true_iff.mpr
  rw [decide_eq_true_iff, decide_eq_true_iff, ge_iff_le, UInt32.le_iff_toNat_le,
    UInt32.le_iff_toNat_le]
  change 97 ≤ (variableLetter id).toNat ∧ (variableLetter id).toNat ≤ 122
  omega

theorem isUpper_variableLetter (id : Int) :
  (variableLetter id).isUpper = false
  := by
  have h := toNat_variableLetter id
  apply decide_eq_false
  rw [UInt32.le_iff_toNat_le]
  rintro ⟨-, hle⟩
  change (variableLetter id).toNat ≤ 90 at hle
  omega

theorem isDigit_or_eq_of_mem_variableSuffix {id : Int} {c : Char} (h : c ∈ variableSuffix id) :
  c.isDigit = true ∨ c = '-'
  := by
  rw [variableSuffix] at h
  split at h
  · contradiction
  · apply Text.isDigit_or_eq_of_mem_toString h

theorem variableSuffix_inj {id id' : Int} (h : variableSuffix id = variableSuffix id') :
  id / 26 = id' / 26
  := by
  rw [variableSuffix, variableSuffix] at h
  split at h
  · split at h
    · simp_all
    · exact absurd h.symm (Text.toString_int_ne_empty _)
  · split at h
    · exact absurd h (Text.toString_int_ne_empty _)
    · apply Text.toList_toString_int_inj h

/-- Different variables have different names. -/
theorem variableName_injective :
  Function.Injective variableName
  := by
  intro id id' h
  have hlist := congrArg String.toList h
  rw [toList_variableName, toList_variableName] at hlist
  obtain ⟨hletter, hsuffix⟩ := List.cons_eq_cons.mp hlist
  have hround := variableSuffix_inj hsuffix
  have hcode := congrArg Char.toNat hletter
  rw [toNat_variableLetter, toNat_variableLetter] at hcode
  omega

end Diagnostics
