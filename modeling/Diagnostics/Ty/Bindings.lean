import Diagnostics.Ty.Basic

/-!
# Bindings of type variables

Inference binds a variable at most once, so `Bindings` are a list without two entries for
one variable, in the order in which they were made. `follow` goes from a bound variable to
its binding, and on while that is a bound variable too. It refuses to meet a variable twice,
and it ends because every step uses up one of the finitely many bound variables.
-/

namespace Diagnostics

/-- The name of a type variable: a letter, then a number once the letters are used up. -/
def variableName (id : Int) : String :=
  let letter := String.ofList [Char.ofNat ('a'.toNat + (id % 26).toNat)]
  let round := id / 26
  if round = 0 then letter else letter ++ toString round

/-- What type variables stand for. -/
structure Bindings where
  entries : List (Int × Ty)
  nodup : (entries.map Prod.fst).Nodup

/-- The variable of a second binding. -/
structure AlreadyBound where
  id : Int

/-- The text of the error. -/
def AlreadyBound.message (e : AlreadyBound) : String :=
  s!"type variable {variableName e.id} is already bound"

/-- Why a type has no name. -/
inductive NamingError where
  /-- A variable that is bound to itself through variables alone. -/
  | cyclic (id : Int)
  /-- Something that is not one of the types with a name. -/
  | unnameable (ty : Ty)
  /-- A type that contains itself. -/
  | endless

/-- The text of a naming error, where it has one. -/
def NamingError.message? : NamingError → Option String
  | cyclic id => some s!"cyclic binding for type variable {variableName id}"
  | unnameable ty => some s!"cannot name type {ty.written}"
  | endless => none

namespace Bindings

/-- No bindings. -/
def empty : Bindings := ⟨[], List.nodup_nil⟩

/-- The bound variables. -/
def ids (b : Bindings) : List Int :=
  b.entries.map Prod.fst

/-- The binding of a variable. -/
def find? (b : Bindings) (id : Int) : Option Ty :=
  b.entries.lookup id

theorem mem_ids_of_find? {b : Bindings} {id : Int} {ty : Ty} (h : b.find? id = some ty) :
  id ∈ b.ids
  := by
  obtain ⟨before, after, h, _⟩ := List.lookup_eq_some_iff.1 h
  simp [ids, h]

/-- Binds a variable that is not bound yet. -/
def bind (b : Bindings) (id : Int) (ty : Ty) : Except AlreadyBound Bindings :=
  if h : id ∈ b.ids then .error ⟨id⟩
  else
    .ok ⟨b.entries ++ [(id, ty)], by
      rw [List.map_append, List.nodup_append]
      refine ⟨b.nodup, by simp, ?_⟩
      intro a ha c hc hac
      simp only [List.map_cons, List.map_nil, List.mem_singleton] at hc
      exact h (by rw [← hc, ← hac]; exact ha)⟩

/-- The bound variables that are not among those seen. -/
def unseen (b : Bindings) (seen : List Int) : List Int :=
  b.ids.filter (· ∉ seen)

theorem length_unseen_cons_lt {b : Bindings} {seen : List Int} {id : Int} (h : id ∈ b.ids)
    (hs : id ∉ seen) :
  (b.unseen (id :: seen)).length < (b.unseen seen).length
  := by
  have hf : b.unseen (id :: seen) = (b.unseen seen).filter (fun a => decide (a ≠ id)) := by
    simp only [unseen, List.filter_filter]
    congr 1
    funext a
    simp
  rw [hf]
  apply List.length_filter_lt_length_iff_exists.2
  exact ⟨id, by simp [unseen, h, hs], by simp⟩

/-- The type at the end of the chain of bindings from a type, after those of the variables
`seen`. -/
def followFrom (b : Bindings) (seen : List Int) (ty : Ty) : Except NamingError Ty :=
  match ty with
  | .var id =>
    match _h : b.find? id with
    | none => .ok (.var id)
    | some next => if _hs : id ∈ seen then .error (.cyclic id) else b.followFrom (id :: seen) next
  | ty => .ok ty
termination_by (b.unseen seen).length
decreasing_by exact length_unseen_cons_lt (mem_ids_of_find? _h) _hs

/-- The type at the end of the chain of bindings from a type. -/
def follow (b : Bindings) (ty : Ty) : Except NamingError Ty :=
  b.followFrom [] ty

/-- The sum of the nesting depths of the types that variables are bound to. -/
def entriesDepth : List (Int × Ty) → Nat
  | [] => 0
  | e :: entries => e.2.depth + entriesDepth entries

/-- The sum of the nesting depths of all bound types. -/
def totalDepth (b : Bindings) : Nat :=
  entriesDepth b.entries

end Bindings

end Diagnostics
