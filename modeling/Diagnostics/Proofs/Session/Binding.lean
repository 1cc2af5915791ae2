import Diagnostics.Proofs.Ty.Extension
import Diagnostics.Session

/-!
# Names while a session binds variables

A variable that is not bound yet gets its binding, and this is put in its place in every name; names
without the variable stay as they are: `Session.nameOf_step_bind`. They all do when a variable is
bound again, since this is refused.
-/

namespace Diagnostics

namespace Session

variable {s : Session}

theorem step_bind_of_find?_some {v : Int} {next : Ty}
    (h : s.cache.bindings.find? v = some next) (t : Ty) :
  s.step (.bind v t) = (s, .error (.alreadyBound ⟨v⟩))
  := by
  rw [step, Cache.bind, Bindings.bind_of_find?_some h]
  rfl

theorem exists_adds_step_bind {v : Int} (h : s.cache.bindings.find? v = none) (t : Ty) :
  (s.step (.bind v t)).2 = .ok .done
    ∧ s.cache.bindings.Adds v t (s.step (.bind v t)).1.cache.bindings
  := by
  obtain ⟨b, hbind, hadds⟩ := Bindings.exists_adds_of_find?_none h t
  rw [step, Cache.bind, hbind]
  exact ⟨rfl, hadds⟩

theorem step_nameOf_of_ok {ty : Ty} {name : String}
    (h : s.cache.bindings.nameOf ty = .ok name) :
  (s.step (.nameOf ty)).2 = .ok (.text name)
  := by
  rw [step, h]
  rfl

/-- Binding a variable puts its binding in its place in every type: afterwards a type is named by
its form resolved before, with the binding resolved in place of the variable. A type whose resolved
form lacks the variable keeps its name, and to bind a variable again is refused and changes
nothing. -/
theorem nameOf_step_bind (s : Session) (v : Int) (t : Ty) :
  (s.cache.bindings.find? v = none → s.cache.bindings.IsProper → t.isProper = true →
      (s.step (.bind v t)).1.cache.bindings.Acyclic →
      (s.step (.bind v t)).2 = .ok .done
        ∧ ∀ ty, ty.isProper = true → ∃ name,
          ((s.step (.bind v t)).1.step (.nameOf ty)).2 = .ok (.text name)
            ∧ Bindings.empty.nameOf ((s.cache.bindings.resolve ty).replace v
              (s.cache.bindings.resolve t)) = .ok name
            ∧ (v ∉ (s.cache.bindings.resolve ty).vars →
              (s.step (.nameOf ty)).2 = .ok (.text name)))
    ∧ ∀ next, s.cache.bindings.find? v = some next →
      s.step (.bind v t) = (s, .error (.alreadyBound ⟨v⟩))
  := by
  constructor
  · intro hfree hb ht ha
    obtain ⟨hreply, hadds⟩ := exists_adds_step_bind hfree t
    use hreply
    intro ty hty
    have ha' := hadds.toExtends.acyclic ha
    obtain ⟨name, hname⟩ :=
      Bindings.exists_nameOf_iff.mpr ((hadds.isProper hb ht).nameable ha hty)
    have hreplaced := hadds.nameOf_replace ha (hb.nameable ha' hty) (hb.nameable ha' ht) hname
    use name, step_nameOf_of_ok hname, hreplaced
    intro hmem
    obtain ⟨name', hname'⟩ := Bindings.exists_nameOf_iff.mpr (hb.nameable ha' hty)
    have hresolved := Bindings.nameOf_empty_resolve hname'
    rw [Ty.replace_eq_self hmem, hresolved] at hreplaced
    obtain rfl := Except.ok.inj hreplaced
    apply step_nameOf_of_ok hname'
  · intro next hnext
    apply step_bind_of_find?_some hnext

/-- A variable is bound that occurs in the binding of another one. -/
theorem nameOf_step_bind_reference :
  let s : Session := .ofCache ⟨⟨[(0, .ref (.var 1))], by decide⟩, ⟨.empty, .empty⟩⟩
  ((s.step (.bind 1 .int)).1.step (.nameOf (.function [.var 1] (.var 0)))).2
      = .ok (.text "(Int -> ref Int)")
    ∧ (s.step (.nameOf (.ref (.var 2)))).2
      = ((s.step (.bind 1 .int)).1.step (.nameOf (.ref (.var 2)))).2
    ∧ s.step (.bind 0 .int) = (s, .error (.alreadyBound ⟨0⟩))
  := by
  intro s
  have hb : s.cache.bindings.IsProper := by
    intro v next hnext
    obtain ⟨rfl, rfl⟩ := Prod.mk.inj (List.mem_singleton.mp (Bindings.mem_entries_of_find? hnext))
    rfl
  have ha : (s.step (.bind 1 .int)).1.cache.bindings.Acyclic := by
    apply Bindings.acyclic_of_lt
    rintro u w ⟨next, hnext, hw⟩
    rcases List.mem_cons.mp (Bindings.mem_entries_of_find? hnext) with heq | hmem
    · obtain ⟨rfl, rfl⟩ := Prod.mk.inj heq
      obtain rfl := List.mem_singleton.mp hw
      decide
    · obtain ⟨-, rfl⟩ := Prod.mk.inj (List.mem_singleton.mp hmem)
      contradiction
  obtain ⟨hbind, -⟩ := nameOf_step_bind s 1 .int
  obtain ⟨-, hrefused⟩ := nameOf_step_bind s 0 .int
  obtain ⟨-, hnames⟩ := hbind rfl hb rfl ha
  obtain ⟨name, hname, hreplaced, -⟩ := hnames (.function [.var 1] (.var 0)) rfl
  obtain ⟨kept, hkept, -, hunchanged⟩ := hnames (.ref (.var 2)) rfl
  have hint : Bindings.empty.nameOf .int = .ok "Int" := Bindings.nameOf_primitive _ _
  have href : Bindings.empty.nameOf (.ref .int) = .ok "ref Int" :=
    Bindings.nameOf_ref_iff.mpr ⟨"Int", hint, rfl⟩
  have hresolved : Bindings.empty.nameOf (.function [.int] (.ref .int)) = .ok "(Int -> ref Int)" :=
    Bindings.nameOf_function_iff.mpr ⟨["Int"], "ref Int", .cons hint .nil, href, by decide⟩
  obtain rfl := Except.ok.inj (hreplaced.symm.trans hresolved)
  refine ⟨hname, ?_, hrefused _ rfl⟩
  rw [hunchanged (by decide), hkept]

end Session

end Diagnostics
