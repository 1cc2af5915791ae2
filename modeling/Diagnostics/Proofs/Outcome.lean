import Mathlib.Data.List.Forall2
import Mathlib.Tactic.Common

/-!
# Computations that may fail

A computation made of several others has a result when each of them has one. The lemmas say
so of `bind`, of `map`, and of a computation for every element of a list, which fails like the
first element that does: `mapM_append_of_error`.
-/

namespace Diagnostics

variable {ε α β γ : Type}

theorem bind_eq_ok_iff {x : Except ε α} {f : α → Except ε β} {y : β} :
  x >>= f = .ok y ↔ ∃ a, x = .ok a ∧ f a = .ok y
  := by
  cases x with
  | error e => simp [bind, Except.bind]
  | ok a => simp [bind, Except.bind]

theorem exists_bind_eq_ok_iff {x : Except ε α} {f : α → Except ε β} :
  (∃ y, x >>= f = .ok y) ↔ ∃ a, x = .ok a ∧ ∃ y, f a = .ok y
  := by
  simp only [bind_eq_ok_iff]
  rw [exists_comm]
  simp only [exists_and_left]

theorem bind_eq_error_iff {x : Except ε α} {f : α → Except ε β} {e : ε} :
  x >>= f = .error e ↔ x = .error e ∨ ∃ a, x = .ok a ∧ f a = .error e
  := by
  cases x with
  | error e' => simp [bind, Except.bind]
  | ok a => simp [bind, Except.bind]

theorem map_eq_ok_iff {x : Except ε α} {f : α → β} {y : β} :
  x.map f = .ok y ↔ ∃ a, x = .ok a ∧ f a = y
  := by
  cases x with
  | error e => simp [Except.map]
  | ok a => simp [Except.map]

theorem map_eq_error_iff {x : Except ε α} {f : α → β} {e : ε} :
  x.map f = .error e ↔ x = .error e
  := by
  cases x with
  | error e' => simp [Except.map]
  | ok a => simp [Except.map]

theorem map_bind_eq (x : Except ε α) (f : α → Except ε β) (g : β → γ) :
  (x >>= f).map g = x >>= fun a => (f a).map g
  := by
  cases x with
  | error e => rfl
  | ok a => rfl

theorem bind_map_eq (x : Except ε α) (f : α → β) (g : β → Except ε γ) :
  x.map f >>= g = x >>= fun a => g (f a)
  := by
  cases x with
  | error e => rfl
  | ok a => rfl

/-- The results of a computation for every element of a list are its results for each. -/
theorem mapM_eq_ok_iff {f : α → Except ε β} {xs : List α} {ys : List β} :
  xs.mapM f = .ok ys ↔ List.Forall₂ (fun x y => f x = .ok y) xs ys
  := by
  induction xs generalizing ys with
  | nil =>
    rw [List.forall₂_nil_left_iff]
    simp [pure, Except.pure, eq_comm]
  | cons x xs ih =>
    rw [List.forall₂_cons_left_iff, List.mapM_cons]
    simp only [bind_eq_ok_iff, ih, pure, Except.pure, Except.ok.injEq]
    constructor
    · rintro ⟨y, hy, ys', hys, rfl⟩
      use y, ys'
    · rintro ⟨y, ys', hy, hys, rfl⟩
      use y, hy, ys'

/-- Either every element of a list has a partner, or those before a first one that has
none. -/
theorem forall₂_or_exists_not (r : α → β → Prop) (xs : List α) :
  (∃ ys, List.Forall₂ r xs ys)
    ∨ ∃ before x after ys, xs = before ++ x :: after ∧ List.Forall₂ r before ys
      ∧ ∀ y, ¬r x y
  := by
  induction xs with
  | nil =>
    left
    use []
    apply List.Forall₂.nil
  | cons x xs ih =>
    by_cases hx : ∃ y, r x y
    · obtain ⟨y, hy⟩ := hx
      obtain ⟨ys, hys⟩ | ⟨before, x', after, ys, rfl, hys, hx'⟩ := ih
      · left
        use y :: ys
        apply List.Forall₂.cons
        · apply hy
        · apply hys
      · right
        use x :: before, x', after, y :: ys, rfl, List.Forall₂.cons hy hys, hx'
    · right
      use [], x, xs, [], rfl, List.Forall₂.nil, not_exists.mp hx

/-- Either every element of a list has a result, or those before a first one that fails. -/
theorem forall₂_or_exists_error (f : α → Except ε β) (xs : List α) :
  (∃ ys, List.Forall₂ (fun x y => f x = .ok y) xs ys)
    ∨ ∃ before x after ys e, xs = before ++ x :: after
      ∧ List.Forall₂ (fun x y => f x = .ok y) before ys ∧ f x = .error e
  := by
  obtain hall | ⟨before, x, after, ys, hxs, hys, hx⟩ :=
    forall₂_or_exists_not (fun x y => f x = .ok y) xs
  · left
    apply hall
  · right
    cases he : f x with
    | error e => use before, x, after, ys, e
    | ok y =>
      absurd he
      apply hx

theorem mapM_append_of_error {f : α → Except ε β} {before after : List α} {x : α}
    {ys : List β} {e : ε} (hys : List.Forall₂ (fun x y => f x = .ok y) before ys)
    (hx : f x = .error e) :
  (before ++ x :: after).mapM f = .error e
  := by
  rw [List.mapM_append, mapM_eq_ok_iff.mpr hys, List.mapM_cons, hx]
  rfl

/-- A computation for every element of a list fails as it does for one of them. -/
theorem exists_mem_of_mapM_eq_error {f : α → Except ε β} {xs : List α} {e : ε}
    (h : xs.mapM f = .error e) :
  ∃ x ∈ xs, f x = .error e
  := by
  obtain ⟨ys, hys⟩ | ⟨before, x, after, ys, e', rfl, hys, hx⟩ := forall₂_or_exists_error f xs
  · rw [mapM_eq_ok_iff.mpr hys] at h
    contradiction
  · rw [mapM_append_of_error hys hx] at h
    obtain rfl := Except.error.inj h
    use x, List.mem_append_right before List.mem_cons_self

/-- What holds of each element of a list and its partner relates the whole list to theirs. -/
theorem forall₂_imp_mem {r r' : α → β → Prop} {xs : List α} {ys : List β}
    (h : List.Forall₂ r xs ys) (hr : ∀ x ∈ xs, ∀ y, r x y → r' x y) :
  List.Forall₂ r' xs ys
  := by
  apply ((List.forall₂_and_left xs ys).mpr ⟨hr, h⟩).imp
  rintro x y ⟨hx, hxy⟩
  apply hx y hxy

theorem exists_getElem?_of_forall₂ {r : α → β → Prop} {xs : List α} {ys : List β}
    (h : List.Forall₂ r xs ys) {k : Nat} {x : α} (hx : xs[k]? = some x) :
  ∃ y, ys[k]? = some y ∧ r x y
  := by
  obtain ⟨hk, rfl⟩ := List.getElem?_eq_some_iff.mp hx
  have hk' : k < ys.length := by
    rw [← h.length_eq]
    apply hk
  use ys[k], List.getElem?_eq_getElem hk'
  apply h.get hk hk'

/-- There are partners for every element of a list when there is one for each. -/
theorem exists_forall₂_iff {r : α → β → Prop} {xs : List α} :
  (∃ ys, List.Forall₂ r xs ys) ↔ ∀ x ∈ xs, ∃ y, r x y
  := by
  induction xs with
  | nil => simp
  | cons x xs ih =>
    rw [List.forall_mem_cons, ← ih]
    simp only [List.forall₂_cons_left_iff]
    constructor
    · rintro ⟨_, y, ys, hy, hys, rfl⟩
      constructor
      · use y
      · use ys
    · rintro ⟨⟨y, hy⟩, ys, hys⟩
      use y :: ys, y, ys

/-- There are results for every element of a list when there is one for each. -/
theorem exists_mapM_eq_ok_iff {f : α → Except ε β} {xs : List α} :
  (∃ ys, xs.mapM f = .ok ys) ↔ ∀ x ∈ xs, ∃ y, f x = .ok y
  := by
  simp only [mapM_eq_ok_iff]
  apply exists_forall₂_iff

end Diagnostics
