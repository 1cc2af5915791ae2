import Diagnostics.Proofs.Ty.Parts

/-!
# Types with a finite name

With proper bindings a proper type has a name when no variable that it reaches leads back to
itself, and then the nesting depths bound the nested calls. A chain of variables that returns to
its start is told as such. It takes a cycle of bindings to variables alone, `Bindings.Renames`;
any other cycle is entered again and again, which no allowance suffices for.
-/

open Relation

namespace Diagnostics

namespace Bindings

variable {b : Bindings}

/-- Whether a variable is bound to another one alone. -/
def Renames (b : Bindings) (u w : Int) : Prop :=
  b.find? u = some (.var w)

/-- A variable that a chain meets twice is one of a cycle, if those seen before led to the start
of the chain. -/
theorem cycle_of_followFrom {seen : List Int} {ty : Ty} {id : Int}
    (hseen : ∀ u ∈ seen, ∀ w, ty = .var w → TransGen b.Renames u w)
    (h : b.followFrom seen ty = .error (.cyclic id)) :
  TransGen b.Renames id id
  := by
  fun_induction b.followFrom seen ty with
  | case1 => contradiction
  | case2 seen id' next hnext hs =>
    obtain rfl : id' = id := by simpa using h
    apply hseen id' hs id' rfl
  | case3 seen id' next hnext hs ih =>
    apply ih _ h
    rintro u hu w rfl
    rcases List.mem_cons.mp hu with rfl | hu
    · exact TransGen.single hnext
    · apply (hseen u hu id' rfl).tail hnext
  | case4 => contradiction

/-- A variable that is told to be bound to itself is one of a cycle. -/
theorem cycle_of_nameWithin {n : Nat} {ty : Ty} {id : Int}
    (h : b.nameWithin n ty = .error (.cyclic id)) :
  TransGen b.Renames id id
  := by
  induction n generalizing ty with
  | zero => simp [nameWithin] at h
  | succ n ih =>
    rw [nameWithin, bind_eq_error_iff] at h
    rcases h with hf | ⟨stop, hf, h⟩
    · apply cycle_of_followFrom _ hf
      intro u hu
      contradiction
    · cases stop with
      | primitive => contradiction
      | var => contradiction
      | ref element =>
        rcases bind_eq_error_iff.mp h with he | ⟨text, -, h⟩
        · apply ih he
        · contradiction
      | function params result =>
        rcases bind_eq_error_iff.mp h with hp | ⟨texts, -, h⟩
        · obtain ⟨t, -, ht⟩ := exists_mem_of_mapM_eq_error hp
          apply ih ht
        · rcases bind_eq_error_iff.mp h with hr | ⟨text, -, h⟩
          · apply ih hr
          · contradiction
      | bare => simp [throw, throwThe, MonadExceptOf.throw] at h
      | stray => simp [throw, throwThe, MonadExceptOf.throw] at h

/-- A binding of a variable to a function of itself. -/
def recursive : Bindings :=
  ⟨[(0, .function [.var 0] .int)], by decide⟩

end Bindings

end Diagnostics
