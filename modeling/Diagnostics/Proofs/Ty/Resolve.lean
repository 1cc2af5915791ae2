import Diagnostics.Proofs.Ty.Parts
import Mathlib.Data.List.Perm.Subperm
import Mathlib.Logic.Function.Iterate

/-!
# Resolved types

`Ty.subst` puts types in place of variables. `Bindings.expand` replaces every bound variable
of a type by its binding, and `Bindings.resolve` does so as often as there are bindings. That
is often enough for a nameable type: a variable left in the end would have been reached through
as many different bound variables. A type is named like its resolved form, which needs no
bindings any more.
-/

open Relation

namespace Diagnostics

namespace Ty

mutual

/-- A type with a type in place of every variable. -/
def subst (σ : Int → Ty) : Ty → Ty
  | primitive name => primitive name
  | var id => σ id
  | ref element => ref (subst σ element)
  | function params result => function (substList σ params) (subst σ result)
  | bare kind => bare kind
  | stray value => stray value

/-- Several types with a type in place of every variable. -/
def substList (σ : Int → Ty) : List Ty → List Ty
  | [] => []
  | t :: ts => subst σ t :: substList σ ts

end

theorem substList_eq_map (σ : Int → Ty) (ts : List Ty) :
  substList σ ts = ts.map (subst σ)
  := by
  induction ts with
  | nil => rfl
  | cons t ts ih => rw [substList, ih, List.map_cons]

/-- After a substitution the variables are those of the types put in. -/
theorem mem_vars_subst {σ : Int → Ty} {ty : Ty} {w : Int} :
  w ∈ (ty.subst σ).vars ↔ ∃ v ∈ ty.vars, w ∈ (σ v).vars
  := by
  induction ty using Ty.induction with
  | primitive name => simp [subst, vars]
  | var id => simp [subst, vars]
  | ref element ih => simpa only [subst, vars] using ih
  | function params result ihparams ihresult =>
    rw [subst, mem_vars_function, ihresult, substList_eq_map]
    simp only [List.mem_map, exists_exists_and_eq_and, mem_vars_function]
    constructor
    · rintro (⟨t, ht, hw⟩ | ⟨v, hv, hw⟩)
      · obtain ⟨v, hv, hw⟩ := (ihparams t ht).mp hw
        exact ⟨v, Or.inl ⟨t, ht, hv⟩, hw⟩
      · exact ⟨v, Or.inr hv, hw⟩
    · rintro ⟨v, ⟨t, ht, hv⟩ | hv, hw⟩
      · exact Or.inl ⟨t, ht, (ihparams t ht).mpr ⟨v, hv, hw⟩⟩
      · exact Or.inr ⟨v, hv, hw⟩
  | bare kind => simp [subst, vars]
  | stray value => simp [subst, vars]

/-- A substitution that leaves the variables of a type alone leaves the type alone. -/
theorem subst_eq_self {σ : Int → Ty} {ty : Ty} (h : ∀ v ∈ ty.vars, σ v = var v) :
  ty.subst σ = ty
  := by
  induction ty using Ty.induction with
  | primitive name => rfl
  | var id => apply h id (List.mem_singleton_self id)
  | ref element ih => rw [subst, ih h]
  | function params result ihparams ihresult =>
    simp only [mem_vars_function] at h
    have hparams : params.map (subst σ) = params.map id := by
      apply List.map_congr_left
      intro t ht
      apply ihparams t ht (fun v hv => h v (Or.inl ⟨t, ht, hv⟩))
    rw [subst, substList_eq_map, hparams, List.map_id, ihresult (fun v hv => h v (Or.inr hv))]
  | bare kind => rfl
  | stray value => rfl

/-- A type with another one in place of a variable. -/
def replace (ty : Ty) (v : Int) (t : Ty) : Ty :=
  ty.subst (fun w => if w = v then t else var w)

theorem replace_eq_self {v : Int} {t ty : Ty} (h : v ∉ ty.vars) :
  ty.replace v t = ty
  := by
  apply subst_eq_self
  intro w hw
  apply if_neg
  rintro rfl
  apply h hw

end Ty

namespace Bindings

variable {b : Bindings}

/-! ### Replacing bound variables -/

/-- What a variable stands for: its binding, or itself where it has none. -/
def meaning (b : Bindings) (id : Int) : Ty :=
  (b.find? id).getD (.var id)

/-- A type with every bound variable replaced by its binding. -/
def expand (b : Bindings) (ty : Ty) : Ty :=
  ty.subst b.meaning

/-- A type with bound variables replaced as often as there are bindings. -/
def resolve (b : Bindings) (ty : Ty) : Ty :=
  b.expand^[b.entries.length] ty

theorem mem_vars_expand {ty : Ty} {w : Int} :
  w ∈ (b.expand ty).vars ↔ (w ∈ ty.vars ∧ b.find? w = none) ∨ ∃ v ∈ ty.vars, b.Leads v w
  := by
  have hmeaning : ∀ v, w ∈ (b.meaning v).vars ↔ (w = v ∧ b.find? v = none) ∨ b.Leads v w := by
    intro v
    rw [meaning, Leads]
    cases b.find? v with
    | none => simp [Ty.vars]
    | some next => simp
  rw [expand, Ty.mem_vars_subst]
  simp only [hmeaning]
  constructor
  · rintro ⟨v, hv, ⟨rfl, hnone⟩ | hvw⟩
    · left
      exact ⟨hv, hnone⟩
    · right
      use v
  · rintro (⟨hw, hnone⟩ | ⟨v, hv, hvw⟩)
    · use w, hw
      left
      exact ⟨rfl, hnone⟩
    · use v, hv
      right
      apply hvw

/-- Replacing bound variables leads to nothing that was not reached before. -/
theorem reaches_of_reaches_expand {ty : Ty} {w : Int} (h : b.Reaches (b.expand ty) w) :
  b.Reaches ty w
  := by
  obtain ⟨v, hv, hvw⟩ := h
  rcases mem_vars_expand.mp hv with ⟨hv, -⟩ | ⟨u, hu, huv⟩
  · use v, hv
  · use u, hu, hvw.head huv

theorem reaches_of_mem_vars_resolve {ty : Ty} {w : Int} (h : w ∈ (b.resolve ty).vars) :
  b.Reaches ty w
  := by
  rw [resolve] at h
  generalize b.entries.length = count at h
  induction count generalizing ty with
  | zero => use w, h
  | succ k ih =>
    rw [Function.iterate_succ_apply] at h
    apply reaches_of_reaches_expand (ih h)

theorem mem_ids_of_leads {u w : Int} (h : b.Leads u w) :
  u ∈ b.ids
  := by
  obtain ⟨ty, hty, -⟩ := h
  apply mem_ids_of_find? hty

/-- A bound variable that is left after `k` replacements was reached through `k` different
bound variables. -/
theorem exists_chain {k : Nat} {ty : Ty} {w : Int}
    (hacyclic : ∀ v, b.Reaches ty v → ¬ TransGen b.Leads v v)
    (hw : w ∈ (b.expand^[k] ty).vars) (hbound : b.find? w ≠ none) :
  b.Reaches ty w ∧ ∃ chain : List Int, chain.length = k ∧ chain.Nodup
    ∧ ∀ u ∈ chain, u ∈ b.ids ∧ TransGen b.Leads u w
  := by
  induction k generalizing w with
  | zero =>
    constructor
    · use w, hw
    · use []
      simp
  | succ k ih =>
    rw [Function.iterate_succ_apply'] at hw
    rcases mem_vars_expand.mp hw with ⟨-, hnone⟩ | ⟨v, hv, hvw⟩
    · contradiction
    · have hv' : b.find? v ≠ none := by
        obtain ⟨next, hnext, -⟩ := hvw
        simp [hnext]
      obtain ⟨hreach, chain, hlength, hnodup, hchain⟩ := ih hv hv'
      constructor
      · obtain ⟨u, hu, huv⟩ := hreach
        use u, hu, huv.tail hvw
      · use v :: chain
        refine ⟨by rw [List.length_cons, hlength], ?_, ?_⟩
        · rw [List.nodup_cons]
          constructor
          · intro hmem
            apply hacyclic v hreach (hchain v hmem).2
          · apply hnodup
        · intro u hu
          rcases List.mem_cons.mp hu with rfl | hu
          · exact ⟨mem_ids_of_leads hvw, .single hvw⟩
          · exact ⟨(hchain u hu).1, (hchain u hu).2.tail hvw⟩

/-- No bound variable is left of a nameable type in the end. -/
theorem find?_of_mem_vars_resolve {ty : Ty} {w : Int} (hn : b.Nameable ty)
    (hw : w ∈ (b.resolve ty).vars) :
  b.find? w = none
  := by
  by_contra hbound
  obtain ⟨hreach, chain, hlength, hnodup, hchain⟩ := exists_chain hn.acyclic hw hbound
  obtain ⟨next, hnext⟩ := Option.ne_none_iff_exists'.mp hbound
  have hcons : (w :: chain).Nodup := by
    rw [List.nodup_cons]
    constructor
    · intro hmem
      apply hn.acyclic w hreach (hchain w hmem).2
    · apply hnodup
  have hsubset : w :: chain ⊆ b.ids := by
    apply List.cons_subset.mpr
    constructor
    · apply mem_ids_of_find? hnext
    · intro u hu
      apply (hchain u hu).1
  have hle := hcons.length_le_of_subset hsubset
  rw [List.length_cons, hlength, ids, List.length_map] at hle
  apply Nat.not_succ_le_self _ hle

/-! ### Names of resolved types -/

/-- A substitution that keeps the names of variables keeps the names of types. -/
theorem nameOf_subst {σ : Int → Ty} {ty : Ty} {name : String}
    (hσ : ∀ v text, b.nameOf (.var v) = .ok text → b.nameOf (σ v) = .ok text)
    (h : b.nameOf ty = .ok name) :
  b.nameOf (ty.subst σ) = .ok name
  := by
  induction ty using Ty.induction generalizing name with
  | primitive => apply h
  | var id => apply hσ id name h
  | ref element ih =>
    obtain ⟨text, ht, htext⟩ := nameOf_ref_iff.mp h
    apply nameOf_ref_iff.mpr
    use text, ih ht
  | function params result ihparams ihresult =>
    obtain ⟨texts, text, hp, hr, htext⟩ := nameOf_function_iff.mp h
    rw [Ty.subst, Ty.substList_eq_map]
    apply nameOf_function_iff.mpr
    use texts, text
    refine ⟨?_, ihresult hr, htext⟩
    rw [List.forall₂_map_left_iff]
    apply forall₂_imp_mem hp
    intro t ht s hs
    apply ihparams t ht hs
  | bare => apply h
  | stray => apply h

/-- Whether further bindings keep these. -/
def Extends (b b' : Bindings) : Prop :=
  ∀ v next, b.find? v = some next → b'.find? v = some next

/-- Replacing bound variables changes no name, neither here nor after further bindings. -/
theorem nameOf_expand {b' : Bindings} {ty : Ty} {name : String} (hextends : b.Extends b')
    (h : b'.nameOf ty = .ok name) :
  b'.nameOf (b.expand ty) = .ok name
  := by
  apply nameOf_subst _ h
  intro v text hv
  rw [meaning]
  cases hnext : b.find? v with
  | none => apply hv
  | some next => apply (nameOf_var_iff (hextends v next hnext)).mp hv

/-- A type is named like its resolved form. -/
theorem nameOf_resolve {b' : Bindings} {ty : Ty} {name : String} (hextends : b.Extends b')
    (h : b'.nameOf ty = .ok name) :
  b'.nameOf (b.resolve ty) = .ok name
  := by
  rw [resolve]
  induction b.entries.length with
  | zero => apply h
  | succ k ih =>
    rw [Function.iterate_succ_apply']
    apply nameOf_expand hextends ih

/-- A type without bound variables has the same name in all bindings that leave its variables
free. -/
theorem nameOf_of_free {b' : Bindings} {ty : Ty} {name : String}
    (hfree : ∀ v ∈ ty.vars, b.find? v = none) (hfree' : ∀ v ∈ ty.vars, b'.find? v = none)
    (h : b.nameOf ty = .ok name) :
  b'.nameOf ty = .ok name
  := by
  induction ty using Ty.induction generalizing name with
  | primitive text =>
    rw [nameOf_primitive] at h ⊢
    apply h
  | var id =>
    rw [nameOf_of_find?_none (hfree id (List.mem_singleton_self id))] at h
    rw [nameOf_of_find?_none (hfree' id (List.mem_singleton_self id))]
    apply h
  | ref element ih =>
    obtain ⟨text, ht, htext⟩ := nameOf_ref_iff.mp h
    apply nameOf_ref_iff.mpr
    use text, ih hfree hfree' ht
  | function params result ihparams ihresult =>
    obtain ⟨texts, text, hp, hr, htext⟩ := nameOf_function_iff.mp h
    simp only [Ty.mem_vars_function] at hfree hfree'
    apply nameOf_function_iff.mpr
    use texts, text
    refine ⟨?_, ihresult (fun v hv => hfree v (Or.inr hv)) (fun v hv => hfree' v (Or.inr hv)) hr,
      htext⟩
    apply forall₂_imp_mem hp
    intro t ht s hs
    apply ihparams t ht (fun v hv => hfree v (Or.inl ⟨t, ht, hv⟩))
      (fun v hv => hfree' v (Or.inl ⟨t, ht, hv⟩)) hs
  | bare => exact absurd (exists_nameOf_iff.mp ⟨name, h⟩).proper (by simp [Ty.isProper])
  | stray => exact absurd (exists_nameOf_iff.mp ⟨name, h⟩).proper (by simp [Ty.isProper])

/-- The resolved form of a type has its name without any bindings. -/
theorem nameOf_empty_resolve {ty : Ty} {name : String} (h : b.nameOf ty = .ok name) :
  empty.nameOf (b.resolve ty) = .ok name
  := by
  apply nameOf_of_free _ (fun _ _ => rfl) (nameOf_resolve (fun _ _ hnext => hnext) h)
  intro v hv
  apply find?_of_mem_vars_resolve (exists_nameOf_iff.mp ⟨name, h⟩) hv

/-- A type with a name has a resolved form without bound variables, of the same name where
nothing is bound. -/
theorem exists_resolved_name {ty : Ty} {name : String} (h : b.nameOf ty = .ok name) :
  (∀ v ∈ (b.resolve ty).vars, b.find? v = none)
    ∧ empty.nameOf (b.resolve ty) = .ok name
  := by
  constructor
  · intro v hv
    apply find?_of_mem_vars_resolve (exists_nameOf_iff.mp ⟨name, h⟩) hv
  · apply nameOf_empty_resolve h

/-- Bindings of a variable to a function of two others, which are bound too. -/
def nested : Bindings :=
  ⟨[(0, .function [.var 1] (.var 2)), (1, .ref (.var 2)), (2, .int)], by decide⟩

/-- A reference to a variable that is resolved in three steps. -/
theorem exists_resolved_name_nested :
  nested.nameOf (.ref (.var 0)) = .ok "ref (ref Int -> Int)"
    ∧ (∀ v ∈ (nested.resolve (.ref (.var 0))).vars, nested.find? v = none)
    ∧ empty.nameOf (nested.resolve (.ref (.var 0))) = .ok "ref (ref Int -> Int)"
  := by
  have hint : nested.nameOf (.var 2) = .ok "Int" := (nameOf_var_iff rfl).mpr (nameOf_primitive _ _)
  have href : nested.nameOf (.var 1) = .ok "ref Int" := by
    apply (nameOf_var_iff rfl).mpr
    apply nameOf_ref_iff.mpr ⟨"Int", hint, rfl⟩
  have hfunction : nested.nameOf (.var 0) = .ok "(ref Int -> Int)" := by
    apply (nameOf_var_iff rfl).mpr
    apply nameOf_function_iff.mpr ⟨["ref Int"], "Int", .cons href .nil, hint, by decide⟩
  have h : nested.nameOf (.ref (.var 0)) = .ok "ref (ref Int -> Int)" :=
    nameOf_ref_iff.mpr ⟨"(ref Int -> Int)", hfunction, rfl⟩
  exact ⟨h, exists_resolved_name h⟩

end Bindings

end Diagnostics
