import Diagnostics.Proofs.Ty.Naming

/-!
# Names of parts

An allowance that gives a type its name gives the same name when it grows, so `nameOf` finds
whatever name any allowance finds. Hence the name of a bound variable is that of its binding,
and the name of a reference or a function is made of the names of its parts, with nothing
said of allowances.
-/

namespace Diagnostics

/-- A property of all types from their parts upwards. -/
@[elab_as_elim]
theorem Ty.induction {motive : Ty → Prop}
    (primitive : ∀ name, motive (.primitive name)) (var : ∀ id, motive (.var id))
    (ref : ∀ element, motive element → motive (.ref element))
    (function : ∀ params result, (∀ t ∈ params, motive t) → motive result →
      motive (.function params result))
    (bare : ∀ kind, motive (.bare kind)) (stray : ∀ value, motive (.stray value)) (ty : Ty) :
  motive ty
  := by
  refine @Ty.rec motive (fun ts => ∀ t ∈ ts, motive t) primitive var ref function bare stray
    ?_ ?_ ty
  · intro t ht
    contradiction
  · intro head tail hhead htail t ht
    rcases List.mem_cons.mp ht with rfl | ht
    · apply hhead
    · apply htail t ht

namespace Bindings

variable {b : Bindings}

/-! ### Chains -/

theorem followFrom_of_find?_none {seen : List Int} {id : Int} (h : b.find? id = none) :
  b.followFrom seen (.var id) = .ok (.var id)
  := by
  rw [followFrom]
  split
  · rfl
  · simp_all

theorem followFrom_of_find?_some {seen : List Int} {id : Int} {next : Ty}
    (h : b.find? id = some next) (hs : id ∉ seen) :
  b.followFrom seen (.var id) = b.followFrom (id :: seen) next
  := by
  rw [followFrom]
  split
  · simp_all
  · rename_i next' hnext
    obtain rfl : next = next' := Option.some.inj (h.symm.trans hnext)
    rw [dif_neg hs]

/-- A chain that ends meets its end also when fewer variables were seen before. -/
theorem followFrom_of_subset {seen seen' : List Int} {ty stop : Ty} (hs : seen' ⊆ seen)
    (h : b.followFrom seen ty = .ok stop) :
  b.followFrom seen' ty = .ok stop
  := by
  fun_induction b.followFrom seen ty generalizing seen' with
  | case1 seen id hnone =>
    rw [followFrom_of_find?_none hnone]
    apply h
  | case2 => contradiction
  | case3 seen id next hnext hid ih =>
    rw [followFrom_of_find?_some hnext (fun hmem => hid (hs hmem))]
    apply ih (List.cons_subset_cons id hs) h
  | case4 seen ty hty =>
    rw [followFrom.eq_def]
    cases ty with
    | var id => exact absurd rfl (hty id)
    | _ => apply h

/-- A bound variable and its binding have the same end of their chains. -/
theorem follow_of_follow_var {id : Int} {next stop : Ty} (hnext : b.find? id = some next)
    (h : b.follow (.var id) = .ok stop) :
  b.follow next = .ok stop
  := by
  rw [follow, followFrom_of_find?_some hnext List.not_mem_nil] at h
  apply followFrom_of_subset (List.nil_subset _) h

/-- The name of a type depends on no more than the end of its chain. -/
theorem nameWithin_of_follow {n : Nat} {ty ty' : Ty} {name : String}
    (hf : ∀ stop, b.follow ty = .ok stop → b.follow ty' = .ok stop)
    (h : b.nameWithin n ty = .ok name) :
  b.nameWithin n ty' = .ok name
  := by
  cases n with
  | zero => simp [nameWithin] at h
  | succ n =>
    rw [nameWithin, bind_eq_ok_iff] at h ⊢
    obtain ⟨stop, hstop, hname⟩ := h
    use stop, hf stop hstop, hname

/-! ### Larger allowances -/

theorem nameWithin_of_le {n m : Nat} {ty : Ty} {name : String} (hle : n ≤ m)
    (h : b.nameWithin n ty = .ok name) :
  b.nameWithin m ty = .ok name
  := by
  induction n generalizing m ty name with
  | zero => simp [nameWithin] at h
  | succ n ih =>
    obtain ⟨m, rfl⟩ := Nat.exists_eq_add_of_le' (Nat.lt_of_lt_of_le (Nat.succ_pos n) hle)
    have hle' := Nat.le_of_succ_le_succ hle
    apply nameWithin_eq_ok_iff.mpr
    rcases nameWithin_eq_ok_iff.mp h with hf | hvar | ⟨element, text, hf, he, htext⟩
      | ⟨params, result, texts, text, hf, hp, hr, htext⟩
    · left
      apply hf
    · right
      left
      apply hvar
    · right
      right
      left
      use element, text, hf, ih hle' he
    · right
      right
      right
      use params, result, texts, text, hf, hp.imp (fun _ _ => ih hle'), ih hle' hr

/-- The name that an allowance finds is the name. -/
theorem nameOf_of_nameWithin {n : Nat} {ty : Ty} {name : String}
    (h : b.nameWithin n ty = .ok name) :
  b.nameOf ty = .ok name
  := by
  obtain ⟨name', h'⟩ := exists_nameOf_iff.mpr (nameable_of_nameWithin h)
  have hmax := nameWithin_of_le (Nat.le_max_left n (ty.depth + b.totalDepth)) h
  have hmax' := nameWithin_of_le (Nat.le_max_right n (ty.depth + b.totalDepth)) h'
  rw [hmax, Except.ok.injEq] at hmax'
  rw [h', hmax']

theorem nameOf_eq_ok_iff {ty : Ty} {name : String} :
  b.nameOf ty = .ok name ↔ ∃ n, b.nameWithin n ty = .ok name
  := by
  constructor
  · intro h
    use ty.depth + b.totalDepth, h
  · rintro ⟨n, h⟩
    apply nameOf_of_nameWithin h

/-! ### Names by the form of a type -/

@[simp]
theorem nameOf_primitive (b : Bindings) (name : String) :
  b.nameOf (.primitive name) = .ok name
  := by
  apply nameOf_of_nameWithin (n := 1)
  apply nameWithin_eq_ok_iff.mpr
  left
  rw [follow, followFrom.eq_def]

/-- A free variable has a name of its own. -/
theorem nameOf_of_find?_none {id : Int} (h : b.find? id = none) :
  b.nameOf (.var id) = .ok (variableName id)
  := by
  apply nameOf_of_nameWithin (n := 1)
  apply nameWithin_eq_ok_iff.mpr
  right
  left
  use id, followFrom_of_find?_none h

/-- A bound variable has the name of its binding. -/
theorem nameOf_var_iff {id : Int} {next : Ty} {name : String} (h : b.find? id = some next) :
  b.nameOf (.var id) = .ok name ↔ b.nameOf next = .ok name
  := by
  have hname : ∀ {name}, b.nameOf (.var id) = .ok name → b.nameOf next = .ok name := by
    intro name hvar
    obtain ⟨n, hn⟩ := nameOf_eq_ok_iff.mp hvar
    apply nameOf_of_nameWithin
    apply nameWithin_of_follow (fun _ => follow_of_follow_var h) hn
  constructor
  · apply hname
  · intro hnext
    have hn := (nameable_var_iff h).mpr (exists_nameOf_iff.mp ⟨name, hnext⟩)
    obtain ⟨name', hvar⟩ := exists_nameOf_iff.mpr hn
    have hsame := hname hvar
    rw [hnext, Except.ok.injEq] at hsame
    rw [hvar, hsame]

/-- Whatever is no bound variable is the end of its own chain. -/
theorem follow_of_not_var {ty : Ty} (h : ∀ id, ty ≠ .var id) :
  b.follow ty = .ok ty
  := by
  rw [follow, followFrom.eq_def]
  cases ty with
  | var id => exact absurd rfl (h id)
  | _ => rfl

/-- A kind alone has no name. -/
theorem nameOf_bare (b : Bindings) (kind : Ty.Kind) :
  b.nameOf (.bare kind) = .error (.unnameable (.bare kind))
  := by
  have hdepth : (Ty.bare kind).depth = 1 := by simp [Ty.depth]
  rw [nameOf, hdepth, Nat.add_comm, nameWithin, follow_of_not_var (by simp)]
  rfl

theorem nameWithin_ref (b : Bindings) (n : Nat) (element : Ty) :
  b.nameWithin (n + 1) (.ref element) = do return "ref " ++ (← b.nameWithin n element)
  := by
  rw [nameWithin, follow_of_not_var (by simp)]
  rfl

theorem nameWithin_function (b : Bindings) (n : Nat) (params : List Ty) (result : Ty) :
  b.nameWithin (n + 1) (.function params result) = do
    let params ← params.mapM (b.nameWithin n)
    return functionName params (← b.nameWithin n result)
  := by
  rw [nameWithin, follow_of_not_var (by simp)]
  rfl

theorem nameOf_ref_iff {element : Ty} {name : String} :
  b.nameOf (.ref element) = .ok name
    ↔ ∃ text, b.nameOf element = .ok text ∧ "ref " ++ text = name
  := by
  constructor
  · intro h
    obtain ⟨n, hn⟩ := nameOf_eq_ok_iff.mp h
    cases n with
    | zero => simp [nameWithin] at hn
    | succ n =>
      rw [nameWithin_ref] at hn
      obtain ⟨text, he, htext⟩ := bind_eq_ok_iff.mp hn
      use text, nameOf_of_nameWithin he
      apply Except.ok.inj htext
  · rintro ⟨text, he, rfl⟩
    obtain ⟨n, hn⟩ := nameOf_eq_ok_iff.mp he
    apply nameOf_of_nameWithin (n := n + 1)
    rw [nameWithin_ref, hn]
    rfl

/-- One allowance suffices for several types that have names. -/
theorem exists_forall₂_nameWithin {ts : List Ty} {texts : List String}
    (h : List.Forall₂ (fun t s => b.nameOf t = .ok s) ts texts) :
  ∃ n, ∀ m, n ≤ m → List.Forall₂ (fun t s => b.nameWithin m t = .ok s) ts texts
  := by
  induction h with
  | nil =>
    use 0
    intro m hm
    apply List.Forall₂.nil
  | cons h _ ih =>
    obtain ⟨n, hn⟩ := nameOf_eq_ok_iff.mp h
    obtain ⟨n', hn'⟩ := ih
    use max n n'
    intro m hm
    apply List.Forall₂.cons
    · apply nameWithin_of_le (by omega) hn
    · apply hn' m (by omega)

theorem nameOf_function_iff {params : List Ty} {result : Ty} {name : String} :
  b.nameOf (.function params result) = .ok name
    ↔ ∃ texts text, List.Forall₂ (fun t s => b.nameOf t = .ok s) params texts
      ∧ b.nameOf result = .ok text ∧ functionName texts text = name
  := by
  constructor
  · intro h
    obtain ⟨n, hn⟩ := nameOf_eq_ok_iff.mp h
    cases n with
    | zero => simp [nameWithin] at hn
    | succ n =>
      rw [nameWithin_function] at hn
      obtain ⟨texts, hp, hn⟩ := bind_eq_ok_iff.mp hn
      obtain ⟨text, hr, htext⟩ := bind_eq_ok_iff.mp hn
      use texts, text, (mapM_eq_ok_iff.mp hp).imp (fun _ _ => nameOf_of_nameWithin),
        nameOf_of_nameWithin hr
      apply Except.ok.inj htext
  · rintro ⟨texts, text, hp, hr, rfl⟩
    obtain ⟨n, hn⟩ := exists_forall₂_nameWithin hp
    obtain ⟨n', hn'⟩ := nameOf_eq_ok_iff.mp hr
    apply nameOf_of_nameWithin (n := max n n' + 1)
    rw [nameWithin_function, mapM_eq_ok_iff.mpr (hn _ (Nat.le_max_left n n')),
      nameWithin_of_le (Nat.le_max_right n n') hn']
    rfl

end Bindings

end Diagnostics
