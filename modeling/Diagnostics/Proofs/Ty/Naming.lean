import Diagnostics.Proofs.Outcome
import Diagnostics.Proofs.Ty.Reach

/-!
# Types that have a name

Naming a type follows its bindings and names its parts, each with one nested call less.
`nameWithin_eq_ok_iff` says what a name is made of, and from it `exists_nameOf_iff` follows:
the types that have a name are those that are `Nameable`. On the way down into such a type
no binding is entered twice, for a variable entered before would lead back to itself; so the
depths of the bindings not entered yet, with that of the type, bound the nested calls needed.
-/

open Relation

namespace Diagnostics

namespace Bindings

variable {b : Bindings}

/-! ### Following a chain -/

/-- A chain does not end at a bound variable. -/
theorem find?_of_followFrom {seen : List Int} {ty : Ty} {id : Int}
    (h : b.followFrom seen ty = .ok (.var id)) :
  b.find? id = none
  := by
  fun_induction b.followFrom seen ty with
  | case1 seen id' hnone =>
    obtain rfl : id' = id := by simpa using h
    apply hnone
  | case2 => contradiction
  | case3 _ _ _ _ _ ih => apply ih h
  | case4 seen ty hty => simp_all

/-- A type is nameable when the end of its chain is. -/
theorem nameable_iff_of_followFrom {seen : List Int} {ty stop : Ty}
    (h : b.followFrom seen ty = .ok stop) :
  b.Nameable ty ↔ b.Nameable stop
  := by
  fun_induction b.followFrom seen ty with
  | case1 =>
    obtain rfl := Except.ok.inj h
    rfl
  | case2 => contradiction
  | case3 seen id next hnext hs ih =>
    rw [nameable_var_iff hnext]
    apply ih h
  | case4 =>
    obtain rfl := Except.ok.inj h
    rfl

/-! ### Names -/

/-- What a name found in `n + 1` nested calls is made of. -/
theorem nameWithin_eq_ok_iff {n : Nat} {ty : Ty} {name : String} :
  b.nameWithin (n + 1) ty = .ok name ↔
    b.follow ty = .ok (.primitive name)
    ∨ (∃ id, b.follow ty = .ok (.var id) ∧ variableName id = name)
    ∨ (∃ element text, b.follow ty = .ok (.ref element)
      ∧ b.nameWithin n element = .ok text ∧ "ref " ++ text = name)
    ∨ (∃ params result texts text, b.follow ty = .ok (.function params result)
      ∧ List.Forall₂ (fun t s => b.nameWithin n t = .ok s) params texts
      ∧ b.nameWithin n result = .ok text ∧ functionName texts text = name)
  := by
  rw [nameWithin, bind_eq_ok_iff]
  constructor
  · rintro ⟨stop, hf, h⟩
    cases stop with
    | primitive => simp_all [pure, Except.pure]
    | var => simp_all [pure, Except.pure]
    | ref element =>
      obtain ⟨text, he, h⟩ := bind_eq_ok_iff.mp h
      simp_all [pure, Except.pure]
    | function params result =>
      obtain ⟨texts, hp, h⟩ := bind_eq_ok_iff.mp h
      obtain ⟨text, hr, h⟩ := bind_eq_ok_iff.mp h
      rw [mapM_eq_ok_iff] at hp
      right
      right
      right
      use params, result, texts, text, hf, hp, hr
      apply Except.ok.inj h
    | bare => contradiction
    | stray => contradiction
  · rintro (hf | ⟨id, hf, rfl⟩ | ⟨element, text, hf, he, rfl⟩
      | ⟨params, result, texts, text, hf, hp, hr, rfl⟩)
    · use .primitive name, hf
      rfl
    · use .var id, hf
      rfl
    · use .ref element, hf
      apply bind_eq_ok_iff.mpr
      use text, he
      rfl
    · use .function params result, hf
      rw [← mapM_eq_ok_iff] at hp
      apply bind_eq_ok_iff.mpr
      use texts, hp
      apply bind_eq_ok_iff.mpr
      use text, hr
      rfl

/-- A type with a name is nameable. -/
theorem nameable_of_nameWithin {n : Nat} {ty : Ty} {name : String}
    (h : b.nameWithin n ty = .ok name) :
  b.Nameable ty
  := by
  induction n generalizing ty name with
  | zero => simp [nameWithin] at h
  | succ n ih =>
    rcases nameWithin_eq_ok_iff.mp h with hf | ⟨id, hf, -⟩ | ⟨element, text, hf, he, -⟩
      | ⟨params, result, texts, text, hf, hp, hr, -⟩
    · rw [nameable_iff_of_followFrom hf]
      apply nameable_primitive
    · rw [nameable_iff_of_followFrom hf]
      apply nameable_of_find?_none (find?_of_followFrom hf)
    · rw [nameable_iff_of_followFrom hf, nameable_ref_iff]
      apply ih he
    · rw [nameable_iff_of_followFrom hf, nameable_function_iff]
      constructor
      · intro t ht
        obtain ⟨s, hs⟩ := exists_mapM_eq_ok_iff.mp ⟨texts, mapM_eq_ok_iff.mpr hp⟩ t ht
        apply ih hs
      · apply ih hr

/-! ### The nested calls that suffice -/

theorem entriesDepth_append (entries entries' : List (Int × Ty)) :
  entriesDepth (entries ++ entries') = entriesDepth entries + entriesDepth entries'
  := by
  induction entries with
  | nil => rw [List.nil_append, entriesDepth, Nat.zero_add]
  | cons e entries ih => rw [List.cons_append, entriesDepth, entriesDepth, ih, Nat.add_assoc]

/-- The sum of the nesting depths of the bindings of variables not entered. -/
def depthOutside (b : Bindings) (entered : List Int) : Nat :=
  entriesDepth (b.entries.filter (fun e => e.1 ∉ entered))

theorem depthOutside_nil (b : Bindings) :
  b.depthOutside [] = b.totalDepth
  := by
  simp [depthOutside, totalDepth]

/-- Entering a binding takes its depth off those that are left. -/
theorem depthOutside_cons {entered : List Int} {id : Int} {next : Ty}
    (h : b.find? id = some next) (hs : id ∉ entered) :
  b.depthOutside entered = next.depth + b.depthOutside (id :: entered)
  := by
  obtain ⟨before, after, he, hbefore⟩ := List.lookup_eq_some_iff.mp h
  have hnodup := b.nodup
  rw [he, List.map_append, List.map_cons, List.nodup_append] at hnodup
  -- no other entry is one of the variable, so leaving it out changes nothing for them
  have hkeep : ∀ es : List (Int × Ty), (∀ e ∈ es, e.1 ≠ id) →
      es.filter (fun e => e.1 ∉ entered) = es.filter (fun e => e.1 ∉ id :: entered) := by
    intro es hes
    apply List.filter_congr
    intro e hmem
    simp [hes e hmem]
  have hafter : ∀ e ∈ after, e.1 ≠ id := by
    intro e hmem hid
    apply (List.nodup_cons.mp hnodup.2.1).1
    rw [← hid]
    apply List.mem_map_of_mem hmem
  have hbefore' : ∀ e ∈ before, e.1 ≠ id := by
    intro e hmem hid
    simpa [hid] using hbefore e hmem
  simp only [depthOutside, he, List.filter_append, List.filter_cons]
  rw [hkeep before hbefore', hkeep after hafter, if_pos (by simpa using hs),
    if_neg (by simp)]
  simp only [entriesDepth_append, entriesDepth]
  omega

/-- Each of the variables entered on the way to a type leads to all that the type reaches. -/
def Entered (b : Bindings) (entered : List Int) (ty : Ty) : Prop :=
  ∀ v ∈ entered, ∀ w, b.Reaches ty w → TransGen b.Leads v w

theorem Entered.mono {entered : List Int} {ty part : Ty} (h : b.Entered entered ty)
    (hp : ∀ w, b.Reaches part w → b.Reaches ty w) :
  b.Entered entered part
  := by
  intro v hv w hw
  apply h v hv w (hp w hw)

/-- A nameable variable was not entered on the way to it. -/
theorem Entered.not_mem {entered : List Int} {id : Int} (h : b.Entered entered (.var id))
    (hn : b.Nameable (.var id)) :
  id ∉ entered
  := by
  intro hid
  apply hn.acyclic id (reaches_var_self b id)
  apply h id hid id (reaches_var_self b id)

theorem Entered.cons {entered : List Int} {id : Int} {next : Ty}
    (h : b.Entered entered (.var id)) (hnext : b.find? id = some next) :
  b.Entered (id :: entered) next
  := by
  intro v hv w hw
  have hid := (transGen_leads_iff hnext).mpr hw
  rcases List.mem_cons.mp hv with rfl | hv
  · apply hid
  · apply h v hv w (reaches_var_iff.mpr (Or.inr hid))

/-- The chain of a nameable type ends, and the bindings on it pay for the depth of the type
at its end. -/
theorem exists_followFrom {seen entered : List Int} {ty : Ty} (hn : b.Nameable ty)
    (he : b.Entered entered ty) (hs : seen ⊆ entered) :
  ∃ stop entered', b.followFrom seen ty = .ok stop ∧ b.Entered entered' stop
    ∧ stop.depth + b.depthOutside entered' ≤ ty.depth + b.depthOutside entered
  := by
  fun_induction b.followFrom seen ty generalizing entered with
  | case1 seen id hnone => exact ⟨.var id, entered, rfl, he, Nat.le_refl _⟩
  | case2 seen id next hnext hid =>
    apply absurd (hs hid) (he.not_mem hn)
  | case3 seen id next hnext hid ih =>
    have hcons := depthOutside_cons hnext (he.not_mem hn)
    obtain ⟨stop, entered', hf, he', hle⟩ := ih ((nameable_var_iff hnext).mp hn)
      (he.cons hnext) (List.cons_subset_cons id hs)
    use stop, entered', hf, he'
    omega
  | case4 seen ty hty => exact ⟨ty, entered, rfl, he, Nat.le_refl _⟩

/-- A nameable type has a name within its own depth and that of the bindings not entered on
the way to it. -/
theorem exists_nameWithin {n : Nat} {entered : List Int} {ty : Ty} (hn : b.Nameable ty)
    (he : b.Entered entered ty) (hle : ty.depth + b.depthOutside entered ≤ n) :
  ∃ name, b.nameWithin n ty = .ok name
  := by
  induction n generalizing entered ty with
  | zero =>
    have hpos := ty.depth_pos
    omega
  | succ n ih =>
    obtain ⟨stop, entered', hf, he', hle'⟩ := exists_followFrom hn he (List.nil_subset _)
    have hstop := (nameable_iff_of_followFrom hf).mp hn
    cases stop with
    | primitive name =>
      use name
      apply nameWithin_eq_ok_iff.mpr
      left
      apply hf
    | var id =>
      use variableName id
      apply nameWithin_eq_ok_iff.mpr
      right
      left
      use id
      exact ⟨hf, rfl⟩
    | ref element =>
      rw [Ty.depth] at hle'
      obtain ⟨text, ht⟩ := ih (nameable_ref_iff.mp hstop) he' (by omega)
      use "ref " ++ text
      apply nameWithin_eq_ok_iff.mpr
      right
      right
      left
      use element, text, hf, ht
    | function params result =>
      rw [Ty.depth] at hle'
      obtain ⟨hparams, hresult⟩ := nameable_function_iff.mp hstop
      have hp : ∀ t ∈ params, ∃ text, b.nameWithin n t = .ok text := by
        intro t ht
        have hdepth := Ty.depth_le_depthList ht
        apply ih (hparams t ht)
        · apply he'.mono
          intro w hw
          apply reaches_function_iff.mpr (Or.inl ⟨t, ht, hw⟩)
        · omega
      obtain ⟨texts, htexts⟩ := exists_mapM_eq_ok_iff.mpr hp
      obtain ⟨text, ht⟩ := ih hresult
        (he'.mono (fun w hw => reaches_function_iff.mpr (Or.inr hw))) (by omega)
      use functionName texts text
      apply nameWithin_eq_ok_iff.mpr
      right
      right
      right
      use params, result, texts, text, hf, mapM_eq_ok_iff.mp htexts, ht
    | bare kind => apply absurd hstop.proper (by simp [Ty.isProper])
    | stray value => apply absurd hstop.proper (by simp [Ty.isProper])

/-- The types that have a name are those that are nameable. -/
theorem exists_nameOf_iff {ty : Ty} :
  (∃ name, b.nameOf ty = .ok name) ↔ b.Nameable ty
  := by
  constructor
  · rintro ⟨name, h⟩
    apply nameable_of_nameWithin h
  · intro h
    apply exists_nameWithin h (fun v hv => absurd hv List.not_mem_nil)
    apply Nat.le_of_eq
    rw [depthOutside_nil]

end Bindings

end Diagnostics
