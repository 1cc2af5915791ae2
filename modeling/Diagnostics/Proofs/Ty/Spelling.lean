import Diagnostics.Proofs.Ty.Resolve
import Diagnostics.Proofs.Ty.VariableName

/-!
# Unambiguous names

A name without bindings is spelled out by `Ty.spelled`, in which every parameter of a function
is followed by a space. A spelling starts with a word that tells its kind, and the word ends at
the first character that stops words, so a spelling can be read off the front of any text that
goes on with such a character: `Ty.Common.readable`. Only a function without parameters is
spelled like another type, the one with the unit type as its parameter.
-/

namespace Diagnostics

namespace Ty

/-! ### The types with an unambiguous name -/

/-- The common primitive types. -/
def constants : List Ty := [int, float, bool, char, string, unit]

/-- A type made of common primitive types, variables, references and functions. -/
inductive Common : Ty → Prop where
  | primitive {name : String} (h : Ty.primitive name ∈ constants) : Common (.primitive name)
  | var (id : Int) : Common (.var id)
  | ref {element : Ty} (h : Common element) : Common (.ref element)
  | function {params : List Ty} {result : Ty} (hparams : ∀ t ∈ params, Common t)
    (hresult : Common result) : Common (.function params result)

theorem mem_constants_iff {name : String} :
  primitive name ∈ constants ↔ name ∈ ["Int", "Float", "Bool", "Char", "String", "Unit"]
  := by
  simp [constants, int, float, bool, char, string, unit]

/-- Substitution keeps a type common when the types put in are common. -/
theorem Common.subst {ty : Ty} {σ : Int → Ty} (h : ty.Common) (hσ : ∀ id, (σ id).Common) :
  (ty.subst σ).Common
  := by
  induction h with
  | primitive h => apply Common.primitive h
  | var id => apply hσ
  | ref _ ih => apply Common.ref ih
  | function _ _ ihparams ihresult =>
    apply Common.function
    · rw [substList_eq_map]
      intro t ht
      obtain ⟨t', ht', rfl⟩ := List.mem_map.mp ht
      apply ihparams t' ht'
    · apply ihresult

/-! ### Functions without parameters -/

/-- The parameters of a function, a single unit type in place of none. -/
def orUnit : List Ty → List Ty
  | [] => [unit]
  | t :: ts => t :: ts

mutual

/-- A type with the unit type as the parameter of every function that has none. -/
def explicitUnit : Ty → Ty
  | ref element => ref (explicitUnit element)
  | function params result =>
    function (orUnit (explicitUnitList params)) (explicitUnit result)
  | ty => ty

/-- Several types with the unit type as the parameter of every function that has none. -/
def explicitUnitList : List Ty → List Ty
  | [] => []
  | t :: ts => explicitUnit t :: explicitUnitList ts

end

theorem explicitUnitList_eq_map (ts : List Ty) :
  explicitUnitList ts = ts.map explicitUnit
  := by
  induction ts with
  | nil => rfl
  | cons t ts ih => rw [explicitUnitList, ih, List.map_cons]

theorem common_of_mem_orUnit {ts : List Ty} (h : ∀ t ∈ ts, t.Common) :
  ∀ t ∈ orUnit ts, t.Common
  := by
  cases ts with
  | nil =>
    intro t ht
    obtain rfl := List.mem_singleton.mp ht
    apply Common.primitive
    simp [constants, unit]
  | cons t ts => apply h

theorem Common.explicitUnit {ty : Ty} (h : ty.Common) :
  ty.explicitUnit.Common
  := by
  induction h with
  | primitive h => apply Common.primitive h
  | var id => apply Common.var
  | ref _ ih => apply Common.ref ih
  | function _ _ ihparams ihresult =>
    apply Common.function
    · apply common_of_mem_orUnit
      rw [explicitUnitList_eq_map]
      intro t ht
      obtain ⟨t', ht', rfl⟩ := List.mem_map.mp ht
      apply ihparams t' ht'
    · apply ihresult

/-! ### Spellings -/

mutual

/-- The name of a type without bindings, character by character. -/
def spelled : Ty → List Char
  | primitive name => name.toList
  | var id => (variableName id).toList
  | ref element => 'r' :: 'e' :: 'f' :: ' ' :: spelled element
  | function params result =>
    '(' :: (spelledList params ++ '-' :: '>' :: ' ' :: (spelled result ++ [')']))
  | _ => []

/-- The names of several types, each with a space after it. -/
def spelledList : List Ty → List Char
  | [] => []
  | t :: ts => spelled t ++ ' ' :: spelledList ts

end

/-- Whether a character ends a word of a name. -/
def endsWord (c : Char) : Bool :=
  c = ' ' || c = '(' || c = ')'

/-- Whether a text goes on, if at all, with a character that ends a word. -/
def Closed (rest : List Char) : Prop :=
  ∀ c ∈ rest.head?, endsWord c = true

theorem closed_cons {c : Char} {rest : List Char} (h : endsWord c = true) :
  Closed (c :: rest)
  := by
  intro c' hc
  obtain rfl := Option.some.inj hc
  apply h

/-- The word at the start of the name of a type; a function starts with none. -/
def headWord : Ty → List Char
  | primitive name => name.toList
  | var id => (variableName id).toList
  | ref _ => ['r', 'e', 'f']
  | _ => []

/-- What follows the first word of the name of a type. -/
def afterWord : Ty → List Char
  | ref element => ' ' :: spelled element
  | function params result =>
    '(' :: (spelledList params ++ '-' :: '>' :: ' ' :: (spelled result ++ [')']))
  | _ => []

/-- The kind of the types that start with a word. -/
def kindOfWord : List Char → Kind
  | [] => .function
  | c :: word => if c.isUpper then .primitive else if word = ['e', 'f'] then .ref else .variable

theorem spelled_eq (ty : Ty) :
  ty.spelled = ty.headWord ++ ty.afterWord
  := by
  cases ty with
  | primitive | var => simp [spelled, headWord, afterWord]
  | _ => rfl

/-- Two words are equal when the texts that go on after their ends are. -/
theorem word_append_inj {word word' rest rest' : List Char}
    (hword : ∀ c ∈ word, endsWord c = false) (hword' : ∀ c ∈ word', endsWord c = false)
    (hrest : Closed rest) (hrest' : Closed rest') (h : word ++ rest = word' ++ rest') :
  word = word' ∧ rest = rest'
  := by
  rcases List.append_eq_append_iff.mp h with ⟨more, rfl, rfl⟩ | ⟨more, rfl, rfl⟩
  · cases more with
    | nil => simp
    | cons c more =>
      have hc := hrest c rfl
      rw [hword' c (by simp)] at hc
      contradiction
  · cases more with
    | nil => simp
    | cons c more =>
      have hc := hrest' c rfl
      rw [hword c (by simp)] at hc
      contradiction

/-! ### First words -/

/-- The name of a common primitive type is a capitalised word. -/
theorem exists_toList_of_mem_constants {name : String} (h : primitive name ∈ constants) :
  ∃ c word, name.toList = c :: word ∧ c.isUpper = true
    ∧ ∀ c' ∈ name.toList, endsWord c' = false
  := by
  have hnames : ∀ name ∈ ["Int", "Float", "Bool", "Char", "String", "Unit"],
      (∃ c ∈ name.toList.head?, c.isUpper = true) ∧ ∀ c ∈ name.toList, endsWord c = false := by
    simp [endsWord]
  obtain ⟨⟨c, hc, hupper⟩, hword⟩ := hnames name (mem_constants_iff.mp h)
  obtain ⟨word, hname⟩ := List.head?_eq_some_iff.mp hc
  use c, word, hname, hupper

theorem endsWord_of_mem_variableName {id : Int} {c : Char}
    (h : c ∈ (variableName id).toList) :
  endsWord c = false
  := by
  rw [toList_variableName] at h
  have hc : c.isLower = true ∨ c.isDigit = true ∨ c = '-' := by
    rcases List.mem_cons.mp h with rfl | h
    · left
      apply isLower_variableLetter
    · right
      apply isDigit_or_eq_of_mem_variableSuffix h
  simp only [endsWord, Bool.or_eq_false_iff, decide_eq_false_iff_not]
  refine ⟨⟨?_, ?_⟩, ?_⟩
  all_goals
    rintro rfl
    revert hc
    decide

theorem Common.endsWord_of_mem_headWord {ty : Ty} (h : ty.Common) {c : Char}
    (hc : c ∈ ty.headWord) :
  endsWord c = false
  := by
  cases h with
  | primitive h =>
    obtain ⟨_, _, -, -, hword⟩ := exists_toList_of_mem_constants h
    apply hword c hc
  | var id => apply endsWord_of_mem_variableName hc
  | ref =>
    have href : ∀ c ∈ ['r', 'e', 'f'], endsWord c = false := by simp [endsWord]
    apply href c hc
  | function => contradiction

theorem closed_afterWord_append {ty : Ty} {rest : List Char} (h : Closed rest) :
  Closed (ty.afterWord ++ rest)
  := by
  cases ty with
  | ref | function => apply closed_cons rfl
  | _ => apply h

/-- The first word of the name of a common type tells its kind. -/
theorem Common.kind?_eq {ty : Ty} (h : ty.Common) :
  ty.kind? = some (kindOfWord ty.headWord)
  := by
  cases h with
  | primitive h =>
    obtain ⟨c, word, hname, hupper, -⟩ := exists_toList_of_mem_constants h
    rw [headWord, hname, kindOfWord, if_pos hupper]
    rfl
  | var id =>
    have hsuffix : variableSuffix id ≠ ['e', 'f'] := by
      intro hsuffix
      have he : 'e' ∈ variableSuffix id := by
        rw [hsuffix]
        decide
      have hdigit := isDigit_or_eq_of_mem_variableSuffix he
      revert hdigit
      decide
    rw [headWord, toList_variableName, kindOfWord, if_neg, if_neg hsuffix]
    · rfl
    · rw [isUpper_variableLetter]
      decide
  | ref => rfl
  | function => rfl

/-- Texts that start with the names of two common types are equal only if the types are of one
kind, start with the same word and go on equally. -/
theorem Common.headWord_append_inj {t u : Ty} (ht : t.Common) (hu : u.Common)
    {rest rest' : List Char} (hrest : Closed rest) (hrest' : Closed rest')
    (h : t.spelled ++ rest = u.spelled ++ rest') :
  t.kind? = u.kind? ∧ t.headWord = u.headWord
    ∧ t.afterWord ++ rest = u.afterWord ++ rest'
  := by
  rw [spelled_eq, spelled_eq, List.append_assoc, List.append_assoc] at h
  obtain ⟨hword, hafter⟩ := word_append_inj (fun _ => ht.endsWord_of_mem_headWord)
    (fun _ => hu.endsWord_of_mem_headWord) (closed_afterWord_append hrest)
    (closed_afterWord_append hrest') h
  rw [ht.kind?_eq, hu.kind?_eq, hword]
  exact ⟨rfl, rfl, hafter⟩

/-- The name of a common type has a first character, and does not start like an arrow. -/
theorem Common.exists_spelled_eq_cons {ty : Ty} (h : ty.Common) :
  ∃ c more, ty.spelled = c :: more ∧ c ≠ '-'
  := by
  cases h with
  | primitive h =>
    obtain ⟨c, word, hname, hupper, -⟩ := exists_toList_of_mem_constants h
    use c, word, hname
    rintro rfl
    contradiction
  | var id =>
    have hlower := isLower_variableLetter id
    use variableLetter id, variableSuffix id, toList_variableName id
    intro hletter
    rw [hletter] at hlower
    contradiction
  | ref => exact ⟨'r', _, rfl, by decide⟩
  | function => exact ⟨'(', _, rfl, by decide⟩

theorem Common.spelled_append_ne {ty : Ty} (h : ty.Common) (rest rest' : List Char) :
  ty.spelled ++ rest ≠ '-' :: rest'
  := by
  obtain ⟨c, more, hspelled, hc⟩ := h.exists_spelled_eq_cons
  rw [hspelled]
  intro heq
  apply hc (List.cons_eq_cons.mp heq).1

/-! ### Reading names -/

/-- Whether the name of a type can be told from any text that starts with it and goes on with
the end of a word. -/
def Readable (t : Ty) : Prop :=
  ∀ u : Ty, u.Common → ∀ rest rest', Closed rest → Closed rest' →
    t.spelled ++ rest = u.spelled ++ rest' → t = u ∧ rest = rest'

/-- So can the names of several types in front of an arrow. -/
theorem spelledList_append_inj {ts us : List Ty} {rest rest' : List Char}
    (hread : ∀ t ∈ ts, t.Readable) (hts : ∀ t ∈ ts, t.Common) (hus : ∀ u ∈ us, u.Common)
    (h : spelledList ts ++ '-' :: rest = spelledList us ++ '-' :: rest') :
  ts = us ∧ rest = rest'
  := by
  induction ts generalizing us with
  | nil =>
    cases us with
    | nil =>
      obtain ⟨-, hrest⟩ := List.cons_eq_cons.mp h
      exact ⟨rfl, hrest⟩
    | cons u us =>
      rw [spelledList, spelledList, List.append_assoc] at h
      apply absurd h.symm
      apply (hus u List.mem_cons_self).spelled_append_ne
  | cons t ts ih =>
    cases us with
    | nil =>
      rw [spelledList, spelledList, List.append_assoc] at h
      apply absurd h
      apply (hts t List.mem_cons_self).spelled_append_ne
    | cons u us =>
      rw [spelledList, spelledList, List.append_assoc, List.append_assoc, List.cons_append,
        List.cons_append] at h
      obtain ⟨rfl, htail⟩ := hread t List.mem_cons_self u (hus u List.mem_cons_self) _ _
        (closed_cons rfl) (closed_cons rfl) h
      obtain ⟨rfl, hrest⟩ := ih (fun t ht => hread t (List.mem_cons_of_mem _ ht))
        (fun t ht => hts t (List.mem_cons_of_mem _ ht))
        (fun u hu => hus u (List.mem_cons_of_mem _ hu)) (List.cons_eq_cons.mp htail).2
      exact ⟨rfl, hrest⟩

theorem Common.readable {t : Ty} (ht : t.Common) :
  t.Readable
  := by
  induction ht with
  | primitive hmem =>
    intro u hu rest rest' hrest hrest' h
    obtain ⟨hkind, hword, hafter⟩ :=
      (Common.primitive hmem).headWord_append_inj hu hrest hrest' h
    cases hu with
    | primitive =>
      rw [String.toList_inj.mp hword]
      exact ⟨rfl, hafter⟩
    | _ => simp [kind?] at hkind
  | var id =>
    intro u hu rest rest' hrest hrest' h
    obtain ⟨hkind, hword, hafter⟩ := (Common.var id).headWord_append_inj hu hrest hrest' h
    cases hu with
    | var =>
      rw [variableName_injective (String.toList_inj.mp hword)]
      exact ⟨rfl, hafter⟩
    | _ => simp [kind?] at hkind
  | ref ht ih =>
    intro u hu rest rest' hrest hrest' h
    obtain ⟨hkind, -, hafter⟩ := (Common.ref ht).headWord_append_inj hu hrest hrest' h
    cases hu with
    | ref hu =>
      obtain ⟨rfl, hrest⟩ := ih _ hu rest rest' hrest hrest' (List.cons_eq_cons.mp hafter).2
      exact ⟨rfl, hrest⟩
    | _ => simp [kind?] at hkind
  | function hparams hresult ihparams ihresult =>
    intro u hu rest rest' hrest hrest' h
    obtain ⟨hkind, -, hafter⟩ :=
      (Common.function hparams hresult).headWord_append_inj hu hrest hrest' h
    cases hu with
    | function hparams' hresult' =>
      simp only [afterWord, List.cons_append, List.append_assoc, List.nil_append] at hafter
      obtain ⟨rfl, harrow⟩ := spelledList_append_inj ihparams hparams hparams'
        (List.cons_eq_cons.mp hafter).2
      obtain ⟨-, hspace⟩ := List.cons_eq_cons.mp harrow
      obtain ⟨rfl, hclose⟩ := ihresult _ hresult' _ _ (closed_cons rfl) (closed_cons rfl)
        (List.cons_eq_cons.mp hspace).2
      exact ⟨rfl, (List.cons_eq_cons.mp hclose).2⟩
    | _ => simp [kind?] at hkind

/-- Common types with the same spelling are equal. -/
theorem Common.eq_of_spelled_eq {t u : Ty} (ht : t.Common) (hu : u.Common)
    (h : t.spelled = u.spelled) :
  t = u
  := by
  have hclosed : Closed [] := by
    intro c hc
    contradiction
  apply (ht.readable u hu [] [] hclosed hclosed (by rw [h])).1

/-! ### Names and their spellings -/

theorem toList_intercalate_append {ts : List Ty} {texts : List String}
    (h : List.Forall₂ (fun t s => s.toList = spelled t) ts texts) (hne : ts ≠ []) :
  (" ".intercalate texts).toList ++ [' '] = spelledList ts
  := by
  induction h with
  | nil => contradiction
  | @cons t s ts texts hs htexts ih =>
    cases htexts with
    | nil => rw [String.intercalate_singleton, hs, spelledList, spelledList]
    | cons =>
      rw [String.intercalate_cons_cons, String.toList_append, String.toList_append,
        List.append_assoc, ih (List.cons_ne_nil _ _), hs, spelledList, List.append_assoc]
      rfl

theorem toList_functionName {ts : List Ty} {texts : List String} {result : Ty} {text : String}
    (h : List.Forall₂ (fun t s => s.toList = spelled t) ts texts)
    (hts : ∀ t ∈ ts, t.Common) (htext : text.toList = result.spelled) :
  (functionName texts text).toList = (function (orUnit ts) result).spelled
  := by
  cases h with
  | nil =>
    simp [functionName, orUnit, spelled, spelledList, unit, htext]
  | @cons t s ts texts hs htexts =>
    have hjoined := toList_intercalate_append (.cons hs htexts) (List.cons_ne_nil t ts)
    have hne : " ".intercalate (s :: texts) ≠ "" := by
      intro hempty
      obtain ⟨c, more, hspelled, -⟩ := (hts t List.mem_cons_self).exists_spelled_eq_cons
      rw [hempty, spelledList, hspelled] at hjoined
      have hlength := congrArg List.length hjoined
      simp at hlength
    rw [functionName, orUnit, spelled, ← hjoined]
    simp [hne, htext]

end Ty

namespace Bindings

theorem toList_of_nameOf_empty {ty : Ty} {name : String} (hty : ty.Common)
    (h : empty.nameOf ty = .ok name) :
  name.toList = ty.explicitUnit.spelled
  := by
  induction hty generalizing name with
  | primitive =>
    rw [nameOf_primitive] at h
    obtain rfl := Except.ok.inj h
    rfl
  | var id =>
    rw [nameOf_of_find?_none rfl] at h
    obtain rfl := Except.ok.inj h
    rfl
  | ref _ ih =>
    obtain ⟨text, ht, rfl⟩ := nameOf_ref_iff.mp h
    rw [String.toList_append, ih ht]
    rfl
  | @function params result hparams hresult ihparams ihresult =>
    obtain ⟨texts, text, hp, hr, rfl⟩ := nameOf_function_iff.mp h
    rw [Ty.explicitUnit, Ty.explicitUnitList_eq_map]
    apply Ty.toList_functionName _ _ (ihresult hr)
    · rw [List.forall₂_map_left_iff]
      apply forall₂_imp_mem hp
      intro t ht s hs
      apply ihparams t ht hs
    · intro t ht
      obtain ⟨t', ht', rfl⟩ := List.mem_map.mp ht
      apply (hparams t' ht').explicitUnit

/-! ### Names through bindings -/

variable {b : Bindings}

/-- Common types are resolved to common types where only such are bound. -/
theorem common_resolve {ty : Ty} (hb : ∀ id next, b.find? id = some next → next.Common)
    (hty : ty.Common) :
  (b.resolve ty).Common
  := by
  have hmeaning : ∀ id, (b.meaning id).Common := by
    intro id
    rw [meaning]
    cases hid : b.find? id with
    | none => apply Ty.Common.var
    | some next => apply hb id next hid
  rw [resolve]
  induction b.entries.length with
  | zero => apply hty
  | succ k ih =>
    rw [Function.iterate_succ_apply']
    apply ih.subst hmeaning

theorem toList_of_nameOf {ty : Ty} {name : String}
    (hb : ∀ id next, b.find? id = some next → next.Common) (hty : ty.Common)
    (h : b.nameOf ty = .ok name) :
  name.toList = (b.resolve ty).explicitUnit.spelled
  := by
  apply toList_of_nameOf_empty (common_resolve hb hty)
  apply nameOf_empty_resolve h

/-- Two types have the same name exactly when they resolve to the same type, functions without
parameters being taken for functions of the unit type. -/
theorem nameOf_inj_iff {t u : Ty} {name name' : String}
    (hb : ∀ id next, b.find? id = some next → next.Common) (ht : t.Common) (hu : u.Common)
    (hname : b.nameOf t = .ok name) (hname' : b.nameOf u = .ok name') :
  name = name' ↔ (b.resolve t).explicitUnit = (b.resolve u).explicitUnit
  := by
  have hlist := toList_of_nameOf hb ht hname
  have hlist' := toList_of_nameOf hb hu hname'
  constructor
  · rintro rfl
    apply (common_resolve hb ht).explicitUnit.eq_of_spelled_eq (common_resolve hb hu).explicitUnit
    rw [← hlist, ← hlist']
  · intro heq
    rw [heq, ← hlist'] at hlist
    apply String.toList_inj.mp hlist

/-- A variable bound to a function without parameters. -/
def thunkBound : Bindings :=
  ⟨[(0, .function [] .int)], by decide⟩

/-- Such a variable and a function of the unit type. -/
theorem nameOf_inj_iff_thunk :
  (∀ id next, thunkBound.find? id = some next → next.Common)
    ∧ (Ty.var 0).Common ∧ (Ty.function [.unit] .int).Common
    ∧ thunkBound.nameOf (.var 0) = .ok "(Unit -> Int)"
    ∧ thunkBound.nameOf (.function [.unit] .int) = .ok "(Unit -> Int)"
    ∧ ("(Unit -> Int)" = "(Unit -> Int)" ↔ (thunkBound.resolve (.var 0)).explicitUnit
      = (thunkBound.resolve (.function [.unit] .int)).explicitUnit)
  := by
  have hint : Ty.int.Common := .primitive (by simp [Ty.constants, Ty.int])
  have hunit : Ty.unit.Common := .primitive (by simp [Ty.constants, Ty.unit])
  have hb : ∀ id next, thunkBound.find? id = some next → next.Common := by
    intro id next h
    obtain ⟨before, after, hentries, -⟩ := List.lookup_eq_some_iff.mp h
    have hmem : (id, next) ∈ thunkBound.entries := by simp [hentries]
    obtain ⟨-, rfl⟩ := Prod.mk.inj (List.mem_singleton.mp hmem)
    exact .function (by simp) hint
  have hu : (Ty.function [.unit] .int).Common := .function (by simpa using hunit) hint
  have hname : thunkBound.nameOf (.var 0) = .ok "(Unit -> Int)" := by
    apply (nameOf_var_iff rfl).mpr
    apply nameOf_function_iff.mpr
    exact ⟨[], "Int", .nil, nameOf_primitive _ _, by decide⟩
  have hname' : thunkBound.nameOf (.function [.unit] .int) = .ok "(Unit -> Int)" := by
    apply nameOf_function_iff.mpr
    exact ⟨["Unit"], "Int", .cons (nameOf_primitive _ _) .nil, nameOf_primitive _ _, by decide⟩
  exact ⟨hb, .var 0, hu, hname, hname', nameOf_inj_iff hb (.var 0) hu hname hname'⟩

end Bindings

end Diagnostics
