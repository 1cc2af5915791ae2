/-!
# Tables

A `Table` keeps values under names. `set` puts a value in the place of an earlier one of
the same name, `find?` looks a name up.
-/

namespace Diagnostics

/-- Values under names. -/
structure Table (α : Type) where
  entries : List (String × α)

namespace Table

variable {α : Type}

/-- A table without values. -/
def empty : Table α := ⟨[]⟩

/-- The value under a name. -/
def find? (t : Table α) (name : String) : Option α :=
  t.entries.lookup name

/-- Puts a value under a name. -/
def set (t : Table α) (name : String) (value : α) : Table α :=
  ⟨(name, value) :: t.entries.filter (fun e => e.1 ≠ name)⟩

/-- The names that have a value. -/
def names (t : Table α) : List String :=
  t.entries.map Prod.fst

@[simp]
theorem find?_set_self (t : Table α) (name : String) (value : α) :
  (t.set name value).find? name = some value
  := by
  simp [set, find?]

theorem lookup_filter_ne {entries : List (String × α)} {name name' : String}
    (h : name' ≠ name) :
  (entries.filter (fun e => e.1 ≠ name)).lookup name' = entries.lookup name'
  := by
  induction entries with
  | nil => rfl
  | cons e entries ih =>
    obtain ⟨key, value⟩ := e
    by_cases hk : key = name
    · have hn : (name' == key) = false := by
        rw [hk]
        exact beq_false_of_ne h
      rw [List.filter_cons_of_neg (by simp [hk]), ih, List.lookup_cons, hn]
    · rw [List.filter_cons_of_pos (by simp [hk]), List.lookup_cons, List.lookup_cons, ih]

theorem find?_set_of_ne (t : Table α) {name name' : String} (value : α) (h : name' ≠ name) :
  (t.set name value).find? name' = t.find? name'
  := by
  rw [set, find?, find?, List.lookup_cons, beq_false_of_ne h]
  exact lookup_filter_ne h

end Table

end Diagnostics
