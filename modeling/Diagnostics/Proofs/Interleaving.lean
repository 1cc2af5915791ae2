import Mathlib.Data.List.Perm.Basic
import Mathlib.Tactic.Common

/-!
# Interleavings

Lists are interleaved by taking one element at a time from the front of one of them, until
nothing is left. An interleaving has the elements of all the lists and no others, and those of
each list in their order. To have the lists one after the other is to interleave them, whichever
comes first, because it does not matter in which order the lists are given.
-/

namespace Diagnostics

variable {α β : Type}

/-- Whether elements are taken from the front of several lists until none is left. -/
inductive Interleaving : List (List α) → List α → Prop where
  | done {lists : List (List α)} (h : ∀ list ∈ lists, list = []) : Interleaving lists []
  | take {before after : List (List α)} {x : α} {list whole : List α}
      (h : Interleaving (before ++ list :: after) whole) :
    Interleaving (before ++ (x :: list) :: after) (x :: whole)

namespace Interleaving

variable {lists lists' : List (List α)} {list whole : List α}

/-! ### Elements and their order -/

theorem eq_nil (h : Interleaving lists []) (hlist : list ∈ lists) :
  list = []
  := by
  cases h with
  | done h => apply h list hlist

/-- Nothing is lost and nothing is taken twice. -/
theorem perm_flatten (h : Interleaving lists whole) :
  whole.Perm lists.flatten
  := by
  induction h with
  | done h =>
    rw [List.flatten_eq_nil_iff.mpr h]
  | take h ih =>
    simp only [List.flatten_append, List.flatten_cons, List.cons_append] at ih ⊢
    apply (ih.cons _).trans
    apply List.perm_middle.symm

/-- Each list keeps its order. -/
theorem sublist (h : Interleaving lists whole) (hlist : list ∈ lists) :
  list.Sublist whole
  := by
  induction h generalizing list with
  | done h =>
    rw [h list hlist]
  | @take before after x first whole h ih =>
    rcases List.mem_append.mp hlist with hbefore | hcons
    · apply List.Sublist.cons
      apply ih (List.mem_append_left _ hbefore)
    · rcases List.mem_cons.mp hcons with rfl | hafter
      · apply List.Sublist.cons_cons
        apply ih (List.mem_append_right _ List.mem_cons_self)
      · apply List.Sublist.cons
        apply ih (List.mem_append_right _ (List.mem_cons_of_mem _ hafter))

/-! ### Lists in another order -/

theorem of_perm (h : Interleaving lists whole) (hperm : lists.Perm lists') :
  Interleaving lists' whole
  := by
  induction h generalizing lists' with
  | done h =>
    apply done
    intro list hlist
    apply h list (hperm.mem_iff.mpr hlist)
  | @take before after x first whole h ih =>
    obtain ⟨before', after', rfl⟩ :=
      List.append_of_mem (hperm.mem_iff.mp (List.mem_append_right _ List.mem_cons_self))
    apply take
    apply ih
    -- the list taken from is the same one, so the others are in another order
    have hothers := (List.perm_middle.symm.trans (hperm.trans List.perm_middle)).cons_inv
    apply List.perm_middle.trans ((hothers.cons first).trans List.perm_middle.symm)

/-! ### More elements -/

theorem take_head {x : α} (h : Interleaving (list :: lists) whole) :
  Interleaving ((x :: list) :: lists) (x :: whole)
  := @take α [] lists x list whole h

/-- Elements may be put in front of the first list. -/
theorem prepend (added : List α) (h : Interleaving (list :: lists) whole) :
  Interleaving ((added ++ list) :: lists) (added ++ whole)
  := by
  induction added with
  | nil => apply h
  | cons x added ih => apply take_head ih

theorem nil_cons (h : Interleaving lists whole) :
  Interleaving ([] :: lists) whole
  := by
  induction h with
  | done h =>
    apply done
    intro list hlist
    rcases List.mem_cons.mp hlist with rfl | hlist
    · rfl
    · apply h list hlist
  | take h ih =>
    rw [← List.cons_append] at ih ⊢
    apply take ih

theorem of_nil_cons (h : Interleaving ([] :: lists) whole) :
  Interleaving lists whole
  := by
  generalize hall : [] :: lists = all at h
  induction h generalizing lists with
  | done h =>
    apply done
    intro list hlist
    apply h
    rw [← hall]
    apply List.mem_cons_of_mem _ hlist
  | @take before after x first whole h ih =>
    cases before with
    | nil => simp at hall
    | cons empty before =>
      obtain ⟨rfl, rfl⟩ := List.cons.inj hall
      apply take (ih rfl)

/-- Lists one after the other. -/
theorem flatten (lists : List (List α)) :
  Interleaving lists lists.flatten
  := by
  induction lists with
  | nil =>
    apply done
    intro list hlist
    contradiction
  | cons list lists ih =>
    have h := prepend list (nil_cons ih)
    rw [List.append_nil] at h
    apply h

/-! ### Lists given by a function -/

/-- The first element comes from one of the lists. -/
theorem exists_of_map_cons {f : β → List α} {sources : List β} {x : α}
    (h : Interleaving (sources.map f) (x :: whole)) :
  ∃ source others list, sources.Perm (source :: others) ∧ f source = x :: list
    ∧ Interleaving (list :: others.map f) whole
  := by
  generalize hall : sources.map f = all at h
  cases h with
  | @take _ _ _ list _ h =>
    obtain ⟨before, rest, rfl, rfl, hrest⟩ := List.map_eq_append_iff.mp hall
    obtain ⟨source, after, rfl, hsource, rfl⟩ := List.map_eq_cons_iff.mp hrest
    use source, before ++ after, list, List.perm_middle, hsource
    rw [List.map_append]
    apply h.of_perm List.perm_middle

end Interleaving

end Diagnostics
