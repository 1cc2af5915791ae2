import Diagnostics.Ty.Name
import Mathlib.Logic.Relation
import Mathlib.Tactic.Common

/-!
# Variables reached through bindings

A bound variable leads to the variables that occur in its binding, and a type reaches those
that occur in it and those they lead to in any number of steps. A type is `Nameable` when no
variable it reaches leads back to itself and nothing it is made of lacks a name. That a type
is nameable is a matter of its parts, and of its binding where it is a bound variable.
-/

open Relation

namespace Diagnostics

namespace Ty

theorem depth_pos (ty : Ty) :
  0 < ty.depth
  := by
  cases ty <;> simp [depth]

mutual

/-- The variables that occur in a type. -/
def vars : Ty → List Int
  | var id => [id]
  | ref element => vars element
  | function params result => varsList params ++ vars result
  | _ => []

/-- The variables that occur in one of several types. -/
def varsList : List Ty → List Int
  | [] => []
  | t :: ts => vars t ++ varsList ts

end

theorem mem_varsList {id : Int} {ts : List Ty} :
  id ∈ varsList ts ↔ ∃ t ∈ ts, id ∈ vars t
  := by
  induction ts with
  | nil => simp [varsList]
  | cons t ts ih => simp [varsList, ih]

theorem mem_vars_function {id : Int} {params : List Ty} {result : Ty} :
  id ∈ vars (function params result) ↔ (∃ t ∈ params, id ∈ vars t) ∨ id ∈ vars result
  := by
  rw [vars, List.mem_append, mem_varsList]

mutual

/-- Whether a type is made of primitive types, variables, references and functions. -/
def isProper : Ty → Bool
  | primitive _ => true
  | var _ => true
  | ref element => isProper element
  | function params result => isProperList params && isProper result
  | _ => false

/-- Whether several types are made so. -/
def isProperList : List Ty → Bool
  | [] => true
  | t :: ts => isProper t && isProperList ts

end

theorem isProperList_iff {ts : List Ty} :
  isProperList ts = true ↔ ∀ t ∈ ts, isProper t = true
  := by
  induction ts with
  | nil => simp [isProperList]
  | cons t ts ih => simp [isProperList, ih]

theorem isProper_function {params : List Ty} {result : Ty} :
  isProper (function params result) = true
    ↔ (∀ t ∈ params, isProper t = true) ∧ isProper result = true
  := by
  rw [isProper, Bool.and_eq_true, isProperList_iff]

end Ty

namespace Bindings

/-- A bound variable leads to the variables in its binding. -/
def Leads (b : Bindings) (u w : Int) : Prop :=
  ∃ ty, b.find? u = some ty ∧ w ∈ ty.vars

/-- A type reaches the variables in it and those they lead to. -/
def Reaches (b : Bindings) (ty : Ty) (w : Int) : Prop :=
  ∃ v ∈ ty.vars, ReflTransGen b.Leads v w

/-- A type with a finite unfolding all of whose parts have a name. -/
structure Nameable (b : Bindings) (ty : Ty) : Prop where
  proper : ty.isProper = true
  proper_binding : ∀ w next, b.Reaches ty w → b.find? w = some next → next.isProper = true
  acyclic : ∀ w, b.Reaches ty w → ¬ TransGen b.Leads w w

/-- Whether all bindings are to types made of primitive types, variables, references and
functions. -/
def IsProper (b : Bindings) : Prop :=
  ∀ v next, b.find? v = some next → next.isProper = true

/-- Whether no variable leads back to itself. -/
def Acyclic (b : Bindings) : Prop :=
  ∀ v, ¬ TransGen b.Leads v v

variable {b : Bindings}

theorem mem_entries_of_find? {id : Int} {next : Ty} (h : b.find? id = some next) :
  (id, next) ∈ b.entries
  := by
  obtain ⟨before, after, hentries, -⟩ := List.lookup_eq_some_iff.mp h
  simp [hentries]

/-- With proper bindings a proper type is nameable when its unfolding is finite. -/
theorem IsProper.nameable_iff {ty : Ty} (hb : b.IsProper) (hty : ty.isProper = true) :
  b.Nameable ty ↔ ∀ w, b.Reaches ty w → ¬ TransGen b.Leads w w
  := by
  constructor
  · intro h
    apply h.acyclic
  · intro h
    constructor
    · apply hty
    · intro w next _
      apply hb
    · apply h

theorem IsProper.nameable {ty : Ty} (hb : b.IsProper) (ha : b.Acyclic)
    (hty : ty.isProper = true) :
  b.Nameable ty
  := by
  apply (hb.nameable_iff hty).mpr
  intro w _
  apply ha

/-- Variables that only lead to greater ones do not lead back. -/
theorem acyclic_of_lt (h : ∀ u w, b.Leads u w → u < w) :
  b.Acyclic
  := by
  have hlt : ∀ u w, TransGen b.Leads u w → u < w := by
    intro u w huw
    induction huw with
    | single huv => apply h u _ huv
    | tail _ hvw ih => apply Int.lt_trans ih (h _ _ hvw)
  intro v hv
  apply Int.lt_irrefl v (hlt v v hv)

/-! ### What a type reaches -/

/-- The variables that a bound variable leads to are those that its binding reaches. -/
theorem transGen_leads_iff {u w : Int} {next : Ty} (h : b.find? u = some next) :
  TransGen b.Leads u w ↔ b.Reaches next w
  := by
  rw [TransGen.head'_iff]
  constructor
  · rintro ⟨v, ⟨ty, hty, hv⟩, hvw⟩
    obtain rfl : next = ty := Option.some.inj (h.symm.trans hty)
    use v, hv
  · rintro ⟨v, hv, hvw⟩
    use v
    constructor
    · use next, h
    · apply hvw

theorem reaches_var_self (b : Bindings) (id : Int) :
  b.Reaches (.var id) id
  := by
  use id
  constructor
  · apply List.mem_singleton_self
  · apply ReflTransGen.refl

theorem reaches_var_iff {id w : Int} :
  b.Reaches (.var id) w ↔ w = id ∨ TransGen b.Leads id w
  := by
  rw [← reflTransGen_iff_eq_or_transGen]
  simp [Reaches, Ty.vars]

theorem reaches_function_iff {params : List Ty} {result : Ty} {w : Int} :
  b.Reaches (.function params result) w
    ↔ (∃ t ∈ params, b.Reaches t w) ∨ b.Reaches result w
  := by
  simp only [Reaches, Ty.mem_vars_function]
  constructor
  · rintro ⟨v, ⟨t, ht, hv⟩ | hv, hvw⟩
    · left
      use t, ht, v
    · right
      use v
  · rintro (⟨t, ht, v, hv, hvw⟩ | ⟨v, hv, hvw⟩)
    · use v
      constructor
      · left
        use t
      · apply hvw
    · use v
      constructor
      · right
        apply hv
      · apply hvw

theorem not_leads_of_find?_none {id w : Int} (h : b.find? id = none) :
  ¬ TransGen b.Leads id w
  := by
  rw [TransGen.head'_iff]
  rintro ⟨v, ⟨ty, hty, -⟩, -⟩
  rw [h] at hty
  contradiction

/-! ### Nameable types -/

theorem nameable_primitive (b : Bindings) (name : String) :
  b.Nameable (.primitive name)
  := by
  constructor
  · rfl
  · rintro w next ⟨v, hv, -⟩
    contradiction
  · rintro w ⟨v, hv, -⟩
    contradiction

theorem nameable_of_find?_none {id : Int} (h : b.find? id = none) :
  b.Nameable (.var id)
  := by
  have hw : ∀ w, b.Reaches (.var id) w → w = id := by
    intro w hw
    rcases reaches_var_iff.mp hw with rfl | hw
    · rfl
    · apply absurd hw (not_leads_of_find?_none h)
  constructor
  · rfl
  · intro w next hr hn
    rw [hw w hr, h] at hn
    contradiction
  · intro w hr
    rw [hw w hr]
    apply not_leads_of_find?_none h

/-- A bound variable is nameable when its binding is. -/
theorem nameable_var_iff {id : Int} {next : Ty} (h : b.find? id = some next) :
  b.Nameable (.var id) ↔ b.Nameable next
  := by
  constructor
  · rintro ⟨-, hp, ha⟩
    have hr : ∀ w, b.Reaches next w → b.Reaches (.var id) w := by
      intro w hw
      apply reaches_var_iff.mpr
      right
      apply (transGen_leads_iff h).mpr hw
    constructor
    · apply hp id next (reaches_var_self b id) h
    · intro w ty hw
      apply hp w ty (hr w hw)
    · intro w hw
      apply ha w (hr w hw)
  · rintro ⟨hn, hp, ha⟩
    constructor
    · rfl
    · intro w ty hw hty
      rcases reaches_var_iff.mp hw with rfl | hw
      · obtain rfl : next = ty := Option.some.inj (h.symm.trans hty)
        apply hn
      · apply hp w ty ((transGen_leads_iff h).mp hw) hty
    · intro w hw hc
      rcases reaches_var_iff.mp hw with rfl | hw
      · -- a way back to the variable starts in its binding, which reaches it then
        apply ha w ((transGen_leads_iff h).mp hc) hc
      · apply ha w ((transGen_leads_iff h).mp hw) hc

theorem nameable_ref_iff {element : Ty} :
  b.Nameable (.ref element) ↔ b.Nameable element
  := by
  constructor
  · rintro ⟨h, hp, ha⟩
    exact ⟨h, hp, ha⟩
  · rintro ⟨h, hp, ha⟩
    exact ⟨h, hp, ha⟩

theorem nameable_function_iff {params : List Ty} {result : Ty} :
  b.Nameable (.function params result)
    ↔ (∀ t ∈ params, b.Nameable t) ∧ b.Nameable result
  := by
  constructor
  · rintro ⟨h, hp, ha⟩
    rw [Ty.isProper_function] at h
    simp only [reaches_function_iff] at hp ha
    constructor
    · intro t ht
      constructor
      · apply h.1 t ht
      · intro w next hw
        apply hp w next (Or.inl ⟨t, ht, hw⟩)
      · intro w hw
        apply ha w (Or.inl ⟨t, ht, hw⟩)
    · constructor
      · apply h.2
      · intro w next hw
        apply hp w next (Or.inr hw)
      · intro w hw
        apply ha w (Or.inr hw)
  · rintro ⟨hparams, hresult⟩
    constructor
    · rw [Ty.isProper_function]
      constructor
      · intro t ht
        apply (hparams t ht).proper
      · apply hresult.proper
    · intro w next hw
      rcases reaches_function_iff.mp hw with ⟨t, ht, hw⟩ | hw
      · apply (hparams t ht).proper_binding w next hw
      · apply hresult.proper_binding w next hw
    · intro w hw
      rcases reaches_function_iff.mp hw with ⟨t, ht, hw⟩ | hw
      · apply (hparams t ht).acyclic w hw
      · apply hresult.acyclic w hw

end Bindings

end Diagnostics
