import Diagnostics.Proofs.Render.Success

/-!
# Rendering while inference goes on

A message keeps the types it was made with, but their names are found through the bindings
at the time of rendering, and `Cache.bindAll` makes any bindings of variables not bound yet.
A variable may be bound to a type that contains it, so a message with a rendering may lose
it. `Message.exists_render_bindAll_iff` says when it keeps one: no variable that its types
reach leads back to itself, and none is bound to what has no name.
-/

open Relation

namespace Diagnostics

namespace Cache

/-- Binds several variables, one after the other. -/
def bindAll (c : Cache) (binds : List (Int × Ty)) : Except AlreadyBound Cache :=
  binds.foldlM (fun c e => c.bind e.1 e.2) c

/-- A binding leaves the sources as they are. -/
theorem sources_bind {c c' : Cache} {id : Int} {ty : Ty} (h : c.bind id ty = .ok c') :
  c'.sources = c.sources
  := by
  obtain ⟨bindings, -, rfl⟩ := map_eq_ok_iff.mp h
  rfl

/-- So do any number of bindings. -/
theorem sources_bindAll {c c' : Cache} {binds : List (Int × Ty)}
    (h : c.bindAll binds = .ok c') :
  c'.sources = c.sources
  := by
  induction binds generalizing c with
  | nil =>
    obtain rfl := Except.ok.inj h
    rfl
  | cons e binds ih =>
    rw [bindAll, List.foldlM_cons] at h
    obtain ⟨next, hnext, h⟩ := bind_eq_ok_iff.mp h
    rw [ih h, sources_bind hnext]

end Cache

namespace Message

/-! ### A message about a variable -/

/-- A message about a variable, at the start of a source. -/
def aboutVariable : Message :=
  ⟨⟨.written "main.an", 1, 1, 0, Nat.one_pos, Nat.one_pos⟩, .refRequired (.var 0)⟩

/-- An empty source in memory, and no bindings. -/
def emptySource : Cache :=
  Cache.empty.addSource (.written "main.an") ""

/-- The bindings that bind the variable of the message. -/
def variableBound (ty : Ty) : Bindings :=
  ⟨[(0, ty)], by simp⟩

theorem bindAll_emptySource (ty : Ty) :
  emptySource.bindAll [(0, ty)] = .ok { emptySource with bindings := variableBound ty }
  := rfl

theorem exists_render_aboutVariable (s : Styling) :
  ∃ text, aboutVariable.render emptySource s = .ok text
  := by
  apply exists_render_iff.mpr
  refine ⟨⟨"", [], Sources.textOf_insert _ _ _, rfl⟩, rfl, ?_⟩
  intro ty hty
  obtain rfl := List.mem_singleton.mp hty
  apply Bindings.nameable_of_find?_none
  rfl

theorem not_nameable_variableBound_ref :
  ¬ (variableBound (.ref (.var 0))).Nameable (.var 0)
  := by
  intro h
  apply h.acyclic 0 (Bindings.reaches_var_self _ _)
  apply TransGen.single
  use .ref (.var 0), rfl
  apply List.mem_singleton_self

/-! ### Further bindings -/

/-- A message with a rendering still has one after further bindings when its types are
nameable through them. -/
theorem exists_render_bindAll_iff {m : Message} {c c' : Cache} {s : Styling}
    {binds : List (Int × Ty)} (h : ∃ text, m.render c s = .ok text)
    (hb : c.bindAll binds = .ok c') :
  (∃ text, m.render c' s = .ok text)
    ↔ ∀ ty ∈ m.payload.types, c'.bindings.Nameable ty
  := by
  obtain ⟨hsource, hwording, -⟩ := exists_render_iff.mp h
  rw [exists_render_iff, Cache.sources_bindAll hb]
  constructor
  · rintro ⟨-, -, htypes⟩
    apply htypes
  · intro htypes
    exact ⟨hsource, hwording, htypes⟩

/-- A message still has a rendering after its variable is bound to a reference to another
one. -/
theorem exists_render_bindAll_iff_ref :
  (∃ text, aboutVariable.render emptySource .noColor = .ok text)
    ∧ emptySource.bindAll [(0, .ref (.var 1))]
      = .ok { emptySource with bindings := variableBound (.ref (.var 1)) }
    ∧ ∃ text, aboutVariable.render
      { emptySource with bindings := variableBound (.ref (.var 1)) } .noColor = .ok text
  := by
  refine ⟨exists_render_aboutVariable _, bindAll_emptySource _, ?_⟩
  apply (exists_render_bindAll_iff (exists_render_aboutVariable _)
    (bindAll_emptySource _)).mpr
  intro ty hty
  obtain rfl := List.mem_singleton.mp hty
  rw [Bindings.nameable_var_iff rfl, Bindings.nameable_ref_iff]
  apply Bindings.nameable_of_find?_none
  rfl

/-- Not every message with a rendering keeps one while inference goes on. -/
theorem not_forall_exists_render_bindAll :
  ¬ ∀ (m : Message) (c c' : Cache) (s : Styling) (binds : List (Int × Ty)),
    (∃ text, m.render c s = .ok text) → c.bindAll binds = .ok c' →
      ∃ text, m.render c' s = .ok text
  := by
  intro h
  have hrender := h aboutVariable emptySource _ .noColor _ (exists_render_aboutVariable _)
    (bindAll_emptySource (.ref (.var 0)))
  obtain ⟨-, -, htypes⟩ := exists_render_iff.mp hrender
  apply not_nameable_variableBound_ref
  apply htypes
  apply List.mem_singleton_self

end Message

end Diagnostics
