import Diagnostics.Proofs.Ty.Resolve

/-!
# One more binding

Further bindings keep what variables led to. One more binding, `Bindings.Adds`, replaces one variable
in every resolved type: what was named by the resolved form of a type is then named by the same form
with the new binding, resolved itself, in place of the variable.
-/

open Relation

namespace Diagnostics

namespace Bindings

variable {b b' : Bindings} {v : Int} {t ty : Ty} {name : String}

/-! ### One more binding -/

theorem not_mem_ids_of_find?_none (h : b.find? v = none) :
  v ∉ b.ids
  := by
  intro hmem
  obtain ⟨e, he, rfl⟩ := List.mem_map.mp hmem
  have hne := List.lookup_eq_none_iff.mp h e he
  simp at hne

/-- A bound variable is not bound again. -/
theorem bind_of_find?_some {next : Ty} (h : b.find? v = some next) (t : Ty) :
  b.bind v t = .error ⟨v⟩
  := dif_pos (mem_ids_of_find? h)

/-- Whether other bindings are these and one more. -/
structure Adds (b : Bindings) (v : Int) (t : Ty) (b' : Bindings) : Prop where
  free : b.find? v = none
  find?_self : b'.find? v = some t
  find?_of_ne {w : Int} (hw : w ≠ v) : b'.find? w = b.find? w

theorem exists_adds_of_find?_none (h : b.find? v = none) (t : Ty) :
  ∃ b', b.bind v t = .ok b' ∧ b.Adds v t b'
  := by
  refine ⟨_, dif_neg (not_mem_ids_of_find?_none h), h, ?_, ?_⟩
  · rw [find?, List.lookup_append, ← find?, h, Option.none_or, List.lookup_cons_self]
  · intro w hw
    rw [find?, List.lookup_append, List.lookup_cons, beq_false_of_ne hw]
    apply Option.or_none

/-! ### What further bindings lead to -/

theorem Extends.leads (h : b.Extends b') {u w : Int} (huw : b.Leads u w) :
  b'.Leads u w
  := by
  obtain ⟨next, hnext, hw⟩ := huw
  use next, h u next hnext

theorem Extends.reaches (h : b.Extends b') {w : Int} (hw : b.Reaches ty w) :
  b'.Reaches ty w
  := by
  obtain ⟨u, hu, huw⟩ := hw
  use u, hu, ReflTransGen.mono (fun _ _ => h.leads) _ _ huw

theorem Extends.acyclic (h : b.Extends b') (ha : b'.Acyclic) :
  b.Acyclic
  := by
  intro w hw
  apply ha w (TransGen.mono (fun _ _ => h.leads) _ _ hw)

/-! ### Names after one more binding -/

namespace Adds

theorem toExtends (h : b.Adds v t b') :
  b.Extends b'
  := by
  intro w next hnext
  have hw : w ≠ v := by
    rintro rfl
    rw [h.free] at hnext
    contradiction
  rw [h.find?_of_ne hw, hnext]

theorem isProper (h : b.Adds v t b') (hb : b.IsProper) (ht : t.isProper = true) :
  b'.IsProper
  := by
  intro w next hnext
  by_cases hw : w = v
  · obtain rfl := hw
    obtain rfl := Option.some.inj (h.find?_self.symm.trans hnext)
    apply ht
  · rw [h.find?_of_ne hw] at hnext
    apply hb w next hnext

/-- With the new binding put in, a resolved form has no bound variables any more. -/
theorem find?_of_mem_vars_replace (h : b.Adds v t b') (ha : b'.Acyclic) (hty : b.Nameable ty)
    (ht : b.Nameable t) {w : Int}
    (hw : w ∈ ((b.resolve ty).replace v (b.resolve t)).vars) :
  b'.find? w = none
  := by
  obtain ⟨u, hu, hwu⟩ := Ty.mem_vars_subst.mp hw
  split at hwu
  · -- the new binding does not reach its own variable, which would lead back to itself
    have hne : w ≠ v := by
      rintro rfl
      apply ha w
      apply (transGen_leads_iff h.find?_self).mpr
      apply h.toExtends.reaches (reaches_of_mem_vars_resolve hwu)
    rw [h.find?_of_ne hne]
    apply find?_of_mem_vars_resolve ht hwu
  · rename_i hne
    obtain rfl := List.mem_singleton.mp hwu
    rw [h.find?_of_ne hne]
    apply find?_of_mem_vars_resolve hty hu

/-- A type has the name of its form resolved before, with the new binding put in. -/
theorem nameOf_replace (h : b.Adds v t b') (ha : b'.Acyclic) (hty : b.Nameable ty)
    (ht : b.Nameable t) (hname : b'.nameOf ty = .ok name) :
  empty.nameOf ((b.resolve ty).replace v (b.resolve t)) = .ok name
  := by
  apply nameOf_of_free _ (fun _ _ => rfl)
  · apply nameOf_subst _ (nameOf_resolve h.toExtends hname)
    intro w text hw
    split
    · rename_i heq
      obtain rfl := heq
      apply nameOf_resolve h.toExtends
      apply (nameOf_var_iff h.find?_self).mp hw
    · apply hw
  · intro w
    apply h.find?_of_mem_vars_replace ha hty ht

end Adds

end Bindings

end Diagnostics
