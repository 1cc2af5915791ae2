import Diagnostics.Path.Component
import Diagnostics.Proofs.Text.Split

/-!
# The text of displayed components

Names are displayed with a separator between neighbours, a separator stands before them for a root,
and a point counts as one more name: `Component.toList_format_names`. Whatever components there are,
the only thing that the display of some takes over from those before them is whether a separator is
due: `Component.formatDue_append`. Apart from separators, the characters of a displayed path are
those of its names, each as often: `Path.count_display`.
-/

namespace Diagnostics

namespace Component

/-! ### Single components -/

theorem shown_ofName (name : List Char) :
  (ofName name).shown = String.ofList name
  := by
  rw [ofName]
  split
  · rename_i h
    rw [h]
    rfl
  · rfl

theorem kind_ofName_ne_root (name : List Char) :
  (ofName name).kind ≠ .root
  := by
  rw [ofName]
  split
  · decide
  · simp [normal]

theorem map_shown_ofName (names : List (List Char)) :
  (names.map ofName).map (fun c => c.shown.toList) = names
  := by
  rw [List.map_map]
  conv_rhs => rw [← List.map_id names]
  apply List.map_congr_left
  intro name _
  simp [shown_ofName]

/-! ### Separators -/

theorem toList_formatDue (due : Bool) (c : Component) (cs : List Component) :
  (formatDue due (c :: cs)).toList
    = (if due then [separator] else []) ++ c.shown.toList
      ++ (formatDue (c.kind ≠ .root) cs).toList
  := by
  rw [formatDue_cons, String.toList_append, String.toList_append]
  cases due
  · rfl
  · rfl

/-- Where no root takes its place, a separator stands before each component. -/
theorem toList_formatDue_true {cs : List Component} (h : ∀ c ∈ cs, c.kind ≠ .root) :
  (formatDue true cs).toList = (cs.map (fun c => c.shown.toList)).flatMap (separator :: ·)
  := by
  induction cs with
  | nil => rfl
  | cons c cs ih =>
    obtain ⟨hc, hcs⟩ := List.forall_mem_cons.mp h
    rw [toList_formatDue, decide_eq_true hc, ih hcs, List.map_cons, List.flatMap_cons]
    rfl

/-- Components without a root are joined by separators. -/
theorem toList_format {cs : List Component} (h : ∀ c ∈ cs, c.kind ≠ .root) :
  (format cs).toList = Text.join separator (cs.map (fun c => c.shown.toList))
  := by
  cases cs with
  | nil => rfl
  | cons c cs =>
    obtain ⟨hc, hcs⟩ := List.forall_mem_cons.mp h
    rw [format, toList_formatDue, decide_eq_true hc, toList_formatDue_true hcs, List.map_cons,
      Text.join_cons]
    rfl

/-- No separator follows a root. -/
theorem toList_format_root_cons (cs : List Component) :
  (format (root :: cs)).toList = separator :: (format cs).toList
  := by
  rw [format, toList_formatDue]
  rfl

theorem toList_format_names (names : List (List Char)) :
  (format (names.map ofName)).toList = Text.join separator names
  := by
  rw [toList_format, map_shown_ofName]
  intro c hc
  obtain ⟨name, -, rfl⟩ := List.mem_map.mp hc
  apply kind_ofName_ne_root

theorem toList_format_currentDir_names (names : List (List Char)) :
  (format (currentDir :: names.map ofName)).toList = Text.join separator (['.'] :: names)
  := by
  rw [toList_format, List.map_cons, map_shown_ofName]
  · rfl
  · intro c hc
    obtain rfl | hc := List.mem_cons.mp hc
    · decide
    · obtain ⟨name, -, rfl⟩ := List.mem_map.mp hc
      apply kind_ofName_ne_root

/-! ### Components one after the other -/

/-- Whether a separator is due after some components, where one is `due` before them. -/
def dueAfter (due : Bool) : List Component → Bool
  | [] => due
  | c :: cs => dueAfter (c.kind ≠ .root) cs

/-- What is due after components is all that the display of the next ones takes over from them. -/
theorem formatDue_append (due : Bool) (xs ys : List Component) :
  formatDue due (xs ++ ys) = formatDue due xs ++ formatDue (dueAfter due xs) ys
  := by
  induction xs generalizing due with
  | nil => rw [List.nil_append, formatDue, dueAfter, String.empty_append]
  | cons x xs ih =>
    rw [List.cons_append, formatDue_cons, formatDue_cons, ih, dueAfter, ← String.append_assoc]

/-- Nothing is due after a root. -/
theorem dueAfter_iff {due : Bool} {cs : List Component} (h : cs ≠ []) :
  dueAfter due cs = true ↔ ∀ c ∈ cs.getLast?, c.kind ≠ .root
  := by
  induction cs generalizing due with
  | nil => exact absurd rfl h
  | cons c cs ih =>
    cases cs with
    | nil => simp [dueAfter]
    | cons c' cs => rw [dueAfter, ih (List.cons_ne_nil c' cs), List.getLast?_cons_cons]

theorem dueAfter_false_iff {cs : List Component} :
  dueAfter false cs = true ↔ cs ≠ [] ∧ ∀ c ∈ cs.getLast?, c.kind ≠ .root
  := by
  by_cases h : cs = []
  · simp [h, dueAfter]
  · rw [dueAfter_iff h, and_iff_right h]

/-- A separator that is due is written before the first component, if there is one. -/
theorem formatDue_eq (due : Bool) (cs : List Component) :
  formatDue due cs = (if due = true ∧ cs ≠ [] then separator.toString else "") ++ format cs
  := by
  cases cs with
  | nil => simp [formatDue]
  | cons c cs => simp [format, formatDue_cons, String.append_assoc]

/-- Lists of components are displayed one after the other, with a separator between them unless one
of them is empty or the first ends in a root. -/
theorem format_append (xs ys : List Component) :
  format (xs ++ ys)
    = format xs
      ++ (if xs ≠ [] ∧ ys ≠ [] ∧ ∀ c ∈ xs.getLast?, c.kind ≠ .root then separator.toString else "")
      ++ format ys
  := by
  have hdue : dueAfter false xs = true ∧ ys ≠ []
      ↔ xs ≠ [] ∧ ys ≠ [] ∧ ∀ c ∈ xs.getLast?, c.kind ≠ .root := by
    rw [dueAfter_false_iff, and_right_comm, and_assoc]
  rw [format, formatDue_append, formatDue_eq (dueAfter false xs), if_congr hdue rfl rfl,
    String.append_assoc]
  rfl

example : format ([drive "C:"] ++ [root, normal "a"]) = "//a" := by decide

/-! ### Characters -/

theorem count_formatDue {ch : Char} (h : ch ≠ separator) (due : Bool) (cs : List Component) :
  (formatDue due cs).toList.count ch = (cs.flatMap (fun c => c.shown.toList)).count ch
  := by
  induction cs generalizing due with
  | nil => rfl
  | cons c cs ih =>
    have hseparator : (if due then [separator] else []).count ch = 0 := by
      cases due
      · rfl
      · rw [if_pos rfl, List.count_singleton, beq_false_of_ne (Ne.symm h)]
        rfl
    rw [toList_formatDue, List.count_append, List.count_append, ih, hseparator, Nat.zero_add,
      List.flatMap_cons, List.count_append]

end Component

namespace Path

/-- A path taken apart has no components but its drive, its root and its names. -/
theorem components_parsed (f : Flavour) (p : Parts) :
  (parsed f p).components
    = (if p.drive = [] then [] else [.drive (String.ofList p.drive)])
      ++ (if p.root ≠ .relative then [.root] else []) ++ p.names.map .ofName
  := rfl

/-- Drive and root are shown as separators at most, so a path shows the characters of its names. -/
theorem count_display {ch : Char} (h : ch ≠ Component.separator) (f : Flavour) (p : Parts) :
  (parsed f p).display.toList.count ch = p.names.flatten.count ch
  := by
  have hroot : Component.root.shown.toList.count ch = 0 := by
    rw [show Component.root.shown.toList = [Component.separator] from rfl, List.count_singleton,
      beq_false_of_ne (Ne.symm h)]
    rfl
  have hleading : (((if p.drive = [] then [] else [Component.drive (String.ofList p.drive)])
      ++ if p.root ≠ .relative then [Component.root] else []).flatMap
        (fun c => c.shown.toList)).count ch = 0 := by
    rw [List.flatMap_append, List.count_append, Nat.add_eq_zero_iff]
    constructor
    · split
      · rfl
      · rfl
    · split
      · simpa using hroot
      · rfl
  have hnames : (p.names.map Component.ofName).flatMap (fun c => c.shown.toList)
      = p.names.flatten := by
    rw [List.flatMap_def, Component.map_shown_ofName]
  rw [display, Component.format, Component.count_formatDue h, components_parsed,
    List.flatMap_append, List.count_append, hleading, Nat.zero_add, hnames]

end Path

end Diagnostics
