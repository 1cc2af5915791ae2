import Mathlib.Tactic.Common

/-!
# Numbers in texts

A number is written in decimal digits, a negative one with a minus sign in front of them. Different
numbers are written differently.
-/

namespace Diagnostics.Text

/-! ### Natural numbers -/

theorem isDigit_of_mem_toString {n : Nat} {c : Char} (h : c ∈ (toString n).toList) :
  c.isDigit = true
  := by
  rw [Nat.toString_eq_ofList_toDigits, String.toList_ofList] at h
  apply Nat.isDigit_of_mem_toDigits (by decide) (by decide) h

theorem toString_ne_empty (n : Nat) :
  (toString n).toList ≠ []
  := by
  rw [Nat.toString_eq_ofList_toDigits, String.toList_ofList]
  apply Nat.toDigits_ne_nil

/-- A number is found again in its digits. -/
theorem toList_toString_inj {n n' : Nat} (h : (toString n).toList = (toString n').toList) :
  n = n'
  := by
  rw [Nat.toString_eq_ofList_toDigits, Nat.toString_eq_ofList_toDigits, String.toList_ofList,
    String.toList_ofList] at h
  calc
    n = Nat.ofDigitChars 10 (Nat.toDigits 10 n) 0 := Nat.ofDigitChars_ten_toDigits.symm
    _ = Nat.ofDigitChars 10 (Nat.toDigits 10 n') 0 := by rw [h]
    _ = n' := Nat.ofDigitChars_ten_toDigits

/-! ### Integers -/

theorem toList_toString_negSucc (n : Nat) :
  (toString (Int.negSucc n)).toList = '-' :: (toString (n + 1)).toList
  := by
  rw [show toString (Int.negSucc n) = "-" ++ toString (n + 1) from rfl, String.toList_append]
  rfl

/-- A number is written in digits and signs. -/
theorem isDigit_or_eq_of_mem_toString {z : Int} {c : Char} (h : c ∈ (toString z).toList) :
  c.isDigit = true ∨ c = '-'
  := by
  cases z with
  | ofNat n =>
    left
    apply isDigit_of_mem_toString (n := n) h
  | negSucc n =>
    rw [toList_toString_negSucc] at h
    rcases List.mem_cons.mp h with hc | hc
    · right
      apply hc
    · left
      apply isDigit_of_mem_toString hc

theorem toString_int_ne_empty (z : Int) :
  (toString z).toList ≠ []
  := by
  cases z with
  | ofNat n => apply toString_ne_empty n
  | negSucc n =>
    rw [toList_toString_negSucc]
    apply List.cons_ne_nil

/-- Digits alone are not those of a negative number. -/
theorem toList_toString_ne_negSucc (n n' : Nat) :
  (toString n).toList ≠ (toString (Int.negSucc n')).toList
  := by
  intro h
  have hsign : '-' ∈ (toString n).toList := by
    rw [h, toList_toString_negSucc]
    apply List.mem_cons_self
  have hdigit := isDigit_of_mem_toString hsign
  contradiction

theorem toList_toString_int_inj {z z' : Int} (h : (toString z).toList = (toString z').toList) :
  z = z'
  := by
  cases z with
  | ofNat n =>
    cases z' with
    | ofNat n' => exact congrArg Int.ofNat (toList_toString_inj h)
    | negSucc n' => exact absurd h (toList_toString_ne_negSucc n n')
  | negSucc n =>
    cases z' with
    | ofNat n' => exact absurd h.symm (toList_toString_ne_negSucc n' n)
    | negSucc n' =>
      rw [toList_toString_negSucc, toList_toString_negSucc] at h
      rw [Nat.succ.inj (toList_toString_inj (List.cons_eq_cons.mp h).2)]

end Diagnostics.Text
