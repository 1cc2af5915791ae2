import Diagnostics.Proofs.Ty.Finite

/-!
# Chains of bindings

The chain of a type begins with the type and goes on from a bound variable to its binding. Either
it comes to a type that is no bound variable and ends there, or it comes back to a variable, and
from the first variable to which it comes back it goes round for ever. Following a type finds out
which of the two it is, and tests for it at most once more than there are bindings, as each test but
the last uses up a binding.
-/

open Relation

namespace Diagnostics

namespace Bindings

variable {b : Bindings} {ty : Ty}

/-! ### Places of a chain -/

/-- The binding of a type, if the type is a bound variable. -/
def next? (b : Bindings) : Ty → Option Ty
  | .var id => b.find? id
  | _ => none

/-- The type in each place of the chain of a type: first the type itself, then its binding, the
binding of that, and so on as long as there is one. -/
def chain (b : Bindings) (ty : Ty) : Nat → Option Ty
  | 0 => some ty
  | n + 1 => (b.chain ty n).bind b.next?

theorem chain_add (b : Bindings) (ty : Ty) (m n : Nat) :
  b.chain ty (m + n) = (b.chain ty m).bind (b.chain · n)
  := by
  induction n with
  | zero => simp [chain]
  | succ n ih =>
    rw [← Nat.add_assoc, chain, ih, Option.bind_assoc]
    rfl

theorem exists_find?_of_chain_succ {n : Nat} {next : Ty} (h : b.chain ty (n + 1) = some next) :
  ∃ id, b.chain ty n = some (.var id) ∧ b.find? id = some next
  := by
  rw [chain, Option.bind_eq_some_iff] at h
  obtain ⟨t, ht, hnext⟩ := h
  cases t with
  | var id => exact ⟨id, ht, hnext⟩
  | _ => contradiction

theorem chain_succ_of_find? {n : Nat} {id : Int} {next : Ty}
    (h : b.chain ty n = some (.var id)) (hnext : b.find? id = some next) :
  b.chain ty (n + 1) = some next
  := by
  rw [chain, h]
  apply hnext

theorem eq_of_chain_eq_var {n : Nat} {id id' : Int} (h : b.chain ty n = some (.var id))
    (h' : b.chain ty n = some (.var id')) :
  id = id'
  := Ty.var.inj (Option.some.inj (h.symm.trans h'))

/-- After a type that is no bound variable the chain has nothing. -/
theorem chain_eq_none_of_lt {m n : Nat} {stop : Ty} (h : b.chain ty m = some stop)
    (hstop : b.next? stop = none) (hlt : m < n) :
  b.chain ty n = none
  := by
  obtain ⟨k, rfl⟩ := Nat.exists_eq_add_of_lt hlt
  have hnone : b.chain ty (m + 1) = none := by
    rw [chain, h]
    apply hstop
  rw [Nat.add_right_comm, chain_add, hnone]
  rfl

/-- A chain that comes back to a type has no end. -/
theorem next?_ne_none_of_repeat {i j m : Nat} {t stop : Ty} (hlt : i < j)
    (hi : b.chain ty i = some t) (hj : b.chain ty j = some t) (hm : b.chain ty m = some stop) :
  b.next? stop ≠ none
  := by
  intro hstop
  by_cases him : m < i
  · rw [chain_eq_none_of_lt hm hstop him] at hi
    contradiction
  · -- the same type stands as far behind the second occurrence as behind the first
    obtain ⟨d, rfl⟩ := Nat.exists_eq_add_of_le (Nat.le_of_not_lt him)
    have hlater : b.chain ty (j + d) = some stop := by
      rw [chain_add, hj, ← hi, ← chain_add, hm]
    rw [chain_eq_none_of_lt hm hstop (by omega)] at hlater
    contradiction

/-! ### The end of a chain and the first repetition -/

/-- Whether a type is the first on a chain that is not a bound variable, and stands in place `n`. -/
structure FirstUnbound (b : Bindings) (ty stop : Ty) (n : Nat) : Prop where
  chain_eq : b.chain ty n = some stop
  next?_eq : b.next? stop = none
  bound : ∀ m < n, ∃ t, b.chain ty m = some t ∧ b.next? t ≠ none

/-- Whether a variable is the first that occurs twice on a chain, and stands in the places `i` and
`j`: the chain comes back to nothing that stands before `i`, and before `j` it comes back to
nothing at all. -/
structure FirstRepeat (b : Bindings) (ty : Ty) (id : Int) (i j : Nat) : Prop where
  lt : i < j
  first : b.chain ty i = some (.var id)
  again : b.chain ty j = some (.var id)
  once : ∀ k l, k < i → k < l → b.chain ty k ≠ b.chain ty l
  distinct : ∀ k l, k < l → l < j → b.chain ty k ≠ b.chain ty l

theorem firstUnbound_of_chain {n : Nat} {stop : Ty} (h : b.chain ty n = some stop)
    (hstop : b.next? stop = none) :
  b.FirstUnbound ty stop n
  := by
  refine ⟨h, hstop, ?_⟩
  intro m hm
  cases hnext : b.chain ty (m + 1) with
  | none =>
    obtain ⟨k, rfl⟩ := Nat.exists_eq_add_of_le (Nat.succ_le_of_lt hm)
    rw [chain_add, hnext] at h
    contradiction
  | some next =>
    obtain ⟨id, hid, hfind⟩ := exists_find?_of_chain_succ hnext
    use .var id, hid
    rw [next?, hfind]
    apply Option.some_ne_none

theorem FirstUnbound.unique {stop stop' : Ty} {n n' : Nat} (h : b.FirstUnbound ty stop n)
    (h' : b.FirstUnbound ty stop' n') :
  stop = stop'
  := by
  obtain hlt | heq | hlt := Nat.lt_trichotomy n n'
  · have hnone := chain_eq_none_of_lt h.chain_eq h.next?_eq hlt
    rw [h'.chain_eq] at hnone
    contradiction
  · apply Option.some.inj
    rw [← h.chain_eq, ← h'.chain_eq, heq]
  · have hnone := chain_eq_none_of_lt h'.chain_eq h'.next?_eq hlt
    rw [h.chain_eq] at hnone
    contradiction

theorem FirstRepeat.unique {id id' : Int} {i i' j j' : Nat} (h : b.FirstRepeat ty id i j)
    (h' : b.FirstRepeat ty id' i' j') :
  id = id'
  := by
  obtain hlt | heq | hlt := Nat.lt_trichotomy j j'
  · exact absurd (h.first.trans h.again.symm) (h'.distinct i j h.lt hlt)
  · subst heq
    apply eq_of_chain_eq_var h.again h'.again
  · exact absurd (h'.first.trans h'.again.symm) (h.distinct i' j' h'.lt hlt)

/-- A chain does not both end and come back to a variable. -/
theorem FirstUnbound.not_firstRepeat {stop : Ty} {id : Int} {n i j : Nat}
    (h : b.FirstUnbound ty stop n) :
  ¬ b.FirstRepeat ty id i j
  := by
  intro hr
  apply next?_ne_none_of_repeat hr.lt hr.first hr.again h.chain_eq h.next?_eq

/-- What stands before the first repetition does not come back after it either. -/
theorem chain_ne_of_lt_repeat {i j : Nat} (hlt : i < j) (h : b.chain ty i = b.chain ty j)
    (hdistinct : ∀ k l, k < l → l < j → b.chain ty k ≠ b.chain ty l) {k : Nat} (hk : k < i) (l : Nat)
    (hl : k < l) :
  b.chain ty k ≠ b.chain ty l
  := by
  induction l using Nat.strongRecOn with
  | ind l ih =>
    by_cases hlj : l < j
    · apply hdistinct k l hl hlj
    · -- one round earlier the chain has the same type
      obtain ⟨d, rfl⟩ := Nat.exists_eq_add_of_le (Nat.le_of_not_lt hlj)
      have hround : b.chain ty (j + d) = b.chain ty (i + d) := by
        rw [chain_add, ← h, ← chain_add]
      rw [hround]
      apply ih (i + d) (by omega) (by omega)

/-! ### Following a chain -/

/-- Whether the variables seen are those that stand on a chain before place `n`, where none occurs
twice. -/
structure Passed (b : Bindings) (ty : Ty) (n : Nat) (seen : List Int) : Prop where
  mem_iff : ∀ id, id ∈ seen ↔ ∃ i < n, b.chain ty i = some (.var id)
  distinct : ∀ k l, k < l → l < n → b.chain ty k ≠ b.chain ty l

theorem passed_zero (b : Bindings) (ty : Ty) :
  b.Passed ty 0 []
  := by
  constructor
  · simp
  · intro k l _ hl
    contradiction

theorem Passed.succ {n : Nat} {seen : List Int} {id : Int} (h : b.Passed ty n seen)
    (hn : b.chain ty n = some (.var id)) (hid : id ∉ seen) :
  b.Passed ty (n + 1) (id :: seen)
  := by
  constructor
  · intro id'
    rw [List.mem_cons, h.mem_iff]
    constructor
    · rintro (rfl | ⟨i, hi, hid'⟩)
      · use n, Nat.lt_succ_self n, hn
      · use i, Nat.lt_succ_of_lt hi, hid'
    · rintro ⟨i, hi, hid'⟩
      rcases Nat.lt_succ_iff_lt_or_eq.mp hi with hi | rfl
      · right
        use i, hi, hid'
      · left
        apply eq_of_chain_eq_var hid' hn
  · intro k l hkl hl heq
    rcases Nat.lt_succ_iff_lt_or_eq.mp hl with hl | rfl
    · exact h.distinct k l hkl hl heq
    · apply hid
      apply (h.mem_iff id).mpr
      use k, hkl
      rw [heq, hn]

theorem exists_firstUnbound_of_followFrom {n : Nat} {seen : List Int} {here stop : Ty}
    (hn : b.chain ty n = some here) (h : b.followFrom seen here = .ok stop) :
  ∃ m, b.FirstUnbound ty stop m
  := by
  fun_induction b.followFrom seen here generalizing n with
  | case1 seen id hnone =>
    obtain rfl := Except.ok.inj h
    use n
    apply firstUnbound_of_chain hn hnone
  | case2 => contradiction
  | case3 seen id next hnext hs ih => apply ih (chain_succ_of_find? hn hnext) h
  | case4 seen here hvar =>
    obtain rfl := Except.ok.inj h
    use n
    apply firstUnbound_of_chain hn
    cases here with
    | var id => exact absurd rfl (hvar id)
    | _ => rfl

theorem exists_firstRepeat_of_followFrom {n : Nat} {seen : List Int} {here : Ty} {e : NamingError}
    (hn : b.chain ty n = some here) (hseen : b.Passed ty n seen)
    (h : b.followFrom seen here = .error e) :
  ∃ id i j, e = .cyclic id ∧ b.FirstRepeat ty id i j
  := by
  fun_induction b.followFrom seen here generalizing n with
  | case1 => contradiction
  | case2 seen id next hnext hs =>
    obtain rfl := Except.error.inj h
    obtain ⟨i, hi, hid⟩ := (hseen.mem_iff id).mp hs
    refine ⟨id, i, n, rfl, hi, hid, hn, ?_, hseen.distinct⟩
    intro k l hk hl
    apply chain_ne_of_lt_repeat hi (hid.trans hn.symm) hseen.distinct hk l hl
  | case3 seen id next hnext hs ih =>
    apply ih (chain_succ_of_find? hn hnext) (hseen.succ hn hs) h
  | case4 => contradiction

/-- Following comes to the first type on the chain that is no bound variable. -/
theorem follow_eq_ok_iff {stop : Ty} :
  b.follow ty = .ok stop ↔ ∃ n, b.FirstUnbound ty stop n
  := by
  constructor
  · intro h
    apply exists_firstUnbound_of_followFrom (n := 0) rfl h
  · rintro ⟨n, hstop⟩
    cases h : b.follow ty with
    | ok stop' =>
      obtain ⟨n', hstop'⟩ := exists_firstUnbound_of_followFrom (n := 0) rfl h
      rw [hstop.unique hstop']
    | error e =>
      obtain ⟨id, i, j, -, hr⟩ := exists_firstRepeat_of_followFrom (n := 0) rfl (passed_zero b ty) h
      exact absurd hr hstop.not_firstRepeat

/-- Following fails for the first variable that occurs twice on the chain. -/
theorem follow_eq_error_iff {e : NamingError} :
  b.follow ty = .error e ↔ ∃ id i j, e = .cyclic id ∧ b.FirstRepeat ty id i j
  := by
  constructor
  · intro h
    apply exists_firstRepeat_of_followFrom (n := 0) rfl (passed_zero b ty) h
  · rintro ⟨id, i, j, rfl, hr⟩
    cases h : b.follow ty with
    | ok stop =>
      obtain ⟨n, hstop⟩ := follow_eq_ok_iff.mp h
      exact absurd hr hstop.not_firstRepeat
    | error e =>
      obtain ⟨id', i', j', rfl, hr'⟩ :=
        exists_firstRepeat_of_followFrom (n := 0) rfl (passed_zero b ty) h
      rw [hr.unique hr']

/-! ### Cycles of variables -/

/-- A cycle of variables keeps a chain that comes to it. -/
theorem exists_var_of_cycle {n : Nat} {v : Int} (h : b.chain ty n = some (.var v))
    (hv : TransGen b.Renames v v) (k : Nat) :
  ∃ w, b.chain ty (n + k) = some (.var w) ∧ TransGen b.Renames w w
  := by
  induction k with
  | zero => use v, h
  | succ k ih =>
    obtain ⟨w, hw, hcycle⟩ := ih
    obtain ⟨u, hwu, huw⟩ := TransGen.head'_iff.mp hcycle
    use u, chain_succ_of_find? hw hwu
    apply TransGen.tail' huw hwu

/-- Following fails when the chain enters a cycle of variables. -/
theorem exists_follow_eq_error_iff :
  (∃ e, b.follow ty = .error e) ↔ ∃ n v, b.chain ty n = some (.var v) ∧ TransGen b.Renames v v
  := by
  constructor
  · rintro ⟨e, h⟩
    obtain ⟨id, i, j, rfl, hr⟩ := follow_eq_error_iff.mp h
    use i, id, hr.first
    rw [follow] at h
    apply cycle_of_followFrom _ h
    intro u hu
    contradiction
  · rintro ⟨n, v, hn, hv⟩
    cases h : b.follow ty with
    | error e => exact ⟨e, rfl⟩
    | ok stop =>
      obtain ⟨m, hstop⟩ := follow_eq_ok_iff.mp h
      obtain ⟨w, hw, -⟩ := exists_var_of_cycle hn hv (m + 1)
      rw [chain_eq_none_of_lt hstop.chain_eq hstop.next?_eq (by omega)] at hw
      contradiction

/-! ### The number of tests -/

/-- Following a chain with so many tests at most of whether it goes on; nothing if they do not
suffice. -/
def followWithin (b : Bindings) : Nat → List Int → Ty → Option (Except NamingError Ty)
  | 0, _, _ => none
  | tests + 1, seen, .var id =>
    match b.find? id with
    | none => some (.ok (.var id))
    | some next =>
      if id ∈ seen then some (.error (.cyclic id)) else b.followWithin tests (id :: seen) next
  | _ + 1, _, ty => some (.ok ty)

/-- It takes one test more than there are bound variables not seen yet. -/
theorem followWithin_of_le {tests : Nat} {seen : List Int} (h : (b.unseen seen).length ≤ tests) :
  b.followWithin (tests + 1) seen ty = some (b.followFrom seen ty)
  := by
  fun_induction b.followFrom seen ty generalizing tests with
  | case1 seen id hnone => rw [followWithin, hnone]
  | case2 seen id next hnext hs =>
    rw [followWithin, hnext]
    exact if_pos hs
  | case3 seen id next hnext hs ih =>
    have hlt := length_unseen_cons_lt (mem_ids_of_find? hnext) hs
    obtain ⟨tests, rfl⟩ : ∃ k, tests = k + 1 := Nat.exists_eq_add_of_le' (by omega)
    have hrest := @ih tests (by omega)
    rw [followWithin, hnext, ← hrest]
    exact if_neg hs
  | case4 seen ty hvar =>
    cases ty with
    | var id => exact absurd rfl (hvar id)
    | _ => rfl

theorem length_unseen_nil (b : Bindings) :
  (b.unseen []).length = b.entries.length
  := by
  simp [unseen, ids]

/-- Following a type tests at most once more than there are bindings whether the chain goes on. It
comes to the first type on the chain that is no bound variable, if there is one, and otherwise fails
for the first variable that occurs twice; so it fails exactly when the chain enters a cycle of
variables. Following what was come to changes nothing. -/
theorem follow_outcome (b : Bindings) (ty : Ty) :
  b.followWithin (b.entries.length + 1) [] ty = some (b.follow ty)
    ∧ (∀ stop, b.follow ty = .ok stop ↔ ∃ n, b.FirstUnbound ty stop n)
    ∧ (∀ e, b.follow ty = .error e ↔ ∃ id i j, e = .cyclic id ∧ b.FirstRepeat ty id i j)
    ∧ ((∃ e, b.follow ty = .error e)
      ↔ ∃ n v, b.chain ty n = some (.var v) ∧ TransGen b.Renames v v)
    ∧ (b.follow ty).bind b.follow = b.follow ty
  := by
  refine ⟨?_, fun _ => follow_eq_ok_iff, fun _ => follow_eq_error_iff, exists_follow_eq_error_iff,
    ?_⟩
  · apply followWithin_of_le (Nat.le_of_eq b.length_unseen_nil)
  · cases h : b.follow ty with
    | error e => rfl
    | ok stop =>
      obtain ⟨n, hstop⟩ := follow_eq_ok_iff.mp h
      apply follow_eq_ok_iff.mpr
      use 0
      apply firstUnbound_of_chain rfl hstop.next?_eq

example : (⟨[(0, .var 1), (1, .var 2), (2, .var 1)], by decide⟩ : Bindings).follow (.var 0)
    = .error (.cyclic 1) := by
  cbv

end Bindings

end Diagnostics
