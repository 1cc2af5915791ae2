import Diagnostics.Location
import Diagnostics.Proofs.Text.Split

/-!
# What taking a path apart gives

A name in a path is neither empty nor a single point and mentions no separator,
`Flavour.IsName`, so by the POSIX rules it is again the one name of the path it writes.
`Text.names` are the names in a text, which a separator parts like the segments they come from.
`Parts.reparse_of_names` says what parts are rebuilt as when all their names are so.
-/

namespace Diagnostics

/-! ### Names in a text -/

namespace Text

/-- The names in a text: the segments between separators that are neither empty nor a point. -/
def names (sep : Char) (text : List Char) : List (List Char) :=
  (split sep text).filter (fun n => n ≠ [] ∧ n ≠ ['.'])

/-- A separator between two texts stands between their names. -/
theorem names_append (sep : Char) (before after : List Char) :
  names sep (before ++ sep :: after) = names sep before ++ names sep after
  := by
  rw [names, split_append, List.filter_append]
  rfl

/-- Separators at the front are in no name. -/
theorem names_dropWhile (sep : Char) (text : List Char) :
  names sep (text.dropWhile (· == sep)) = names sep text
  := filter_split_dropWhile rfl text

end Text

/-- Whether a text can be a name in a path of a flavour. -/
structure Flavour.IsName (f : Flavour) (name : List Char) : Prop where
  ne_nil : name ≠ []
  ne_point : name ≠ ['.']
  separator_not_mem : f.separator ∉ name

theorem Parts.isName_of_mem_names {f : Flavour} {text name : List Char}
    (h : name ∈ (parse f text).names) :
  f.IsName name
  := by
  obtain ⟨hsplit, hname⟩ := List.mem_filter.mp h
  obtain ⟨hnil, hpoint⟩ := of_decide_eq_true hname
  exact ⟨hnil, hpoint, Text.not_mem_of_mem_split hsplit⟩

/-- A name is the only name in itself. -/
theorem Flavour.IsName.names_eq {f : Flavour} {name : List Char} (h : f.IsName name) :
  Text.names f.separator name = [name]
  := by
  rw [Text.names, Text.split_of_not_mem h.separator_not_mem]
  simp [h.ne_nil, h.ne_point]

/-- Joined names are found again. -/
theorem Text.names_join {f : Flavour} {ns : List (List Char)} (h : ∀ n ∈ ns, f.IsName n) :
  names f.separator (join f.separator ns) = ns
  := by
  induction ns with
  | nil => rfl
  | cons n ns ih =>
    obtain ⟨hn, hns⟩ := List.forall_mem_cons.mp h
    by_cases hnil : ns = []
    · rw [hnil, join, hn.names_eq]
    · rw [join_cons_cons _ n hnil, names_append, ih hns, hn.names_eq, List.singleton_append]

/-! ### POSIX paths -/

/-- A POSIX path is relative unless its text starts with a slash. -/
theorem splitPosix_eq_relative_iff {text : List Char} :
  (splitPosix text).1 = .relative ↔ text.head? ≠ some '/'
  := by
  cases text with
  | nil => simp [splitPosix]
  | cons c text =>
    by_cases hc : c = '/'
    · simp only [splitPosix, hc, beq_self_eq_true, List.takeWhile_cons_of_pos, List.length_cons]
      split <;> simp_all
    · simp [splitPosix, hc]

theorem splitPosix_slash {text : List Char} (h : text.head? ≠ some '/') :
  (splitPosix ('/' :: text)).1 = .single
  := by
  simp [splitPosix, Text.takeWhile_eq_nil h]

/-- The names of a POSIX path are those in its whole text. -/
theorem Parts.parse_posix (text : List Char) :
  parse .posix text = ⟨[], (splitPosix text).1, Text.names '/' text⟩
  := by
  rw [← Text.names_dropWhile]
  rfl

/-- By the POSIX rules a name is the only name of the path it writes. -/
theorem Flavour.IsName.parse_posix {name : List Char} (h : posix.IsName name) :
  Parts.parse posix name = ⟨[], .relative, [name]⟩
  := by
  have hhead : name.head? ≠ some '/' := fun hhead => h.separator_not_mem (List.mem_of_head? hhead)
  have hnames : Text.names '/' name = [name] := h.names_eq
  rw [Parts.parse_posix, hnames, splitPosix_eq_relative_iff.mpr hhead]

/-! ### Texts taken together -/

namespace Parts

variable {f : Flavour}

@[simp]
theorem combine_nil :
  combine f [] = ⟨[], .relative, []⟩
  := rfl

/-- The last text replaces all before it when it has a drive. -/
theorem combine_concat_of_drive {texts : List (List Char)} {text : List Char}
    (h : (parse f text).drive ≠ []) :
  combine f (texts ++ [text]) = parse f text
  := by
  simp [combine, combineReversed, isAnchored, h]

/-- The last text only adds names when it has neither drive nor root. -/
theorem combine_concat_of_relative {texts : List (List Char)} {text : List Char}
    {names : List (List Char)} (h : parse f text = ⟨[], .relative, names⟩) :
  combine f (texts ++ [text])
    = { combine f texts with names := (combine f texts).names ++ names }
  := by
  simp [combine, combineReversed, isAnchored, h]

theorem combine_singleton (text : List Char) :
  combine f [text] = parse f text
  := by
  simp only [combine, List.reverse_singleton, combineReversed, firstDrive, isAnchored]
  obtain ⟨drive, root, names⟩ := parse f text
  cases drive <;> cases root <;> simp

/-- Texts that are names of their own add themselves. -/
theorem combine_append_of_names {texts names : List (List Char)}
    (h : ∀ n ∈ names, parse f n = ⟨[], .relative, [n]⟩) :
  combine f (texts ++ names)
    = { combine f texts with names := (combine f texts).names ++ names }
  := by
  induction names generalizing texts with
  | nil => simp
  | cons n names ih =>
    have hn := h n List.mem_cons_self
    rw [List.append_cons, ih (fun m hm => h m (List.mem_cons_of_mem n hm)),
      combine_concat_of_relative hn]
    simp

/-- Parts whose names are names of their own are rebuilt from what their anchor reads as. -/
theorem reparse_of_names {p : Parts} (h : ∀ n ∈ p.names, parse f n = ⟨[], .relative, [n]⟩) :
  p.reparse f = { parse f (p.anchor f) with names := (parse f (p.anchor f)).names ++ p.names }
  := by
  rw [reparse, toTexts]
  cases hp : p.isAnchored with
  | true =>
    rw [if_pos rfl, ← List.singleton_append, combine_append_of_names h, combine_singleton]
  | false =>
    obtain ⟨drive, root, names⟩ := p
    obtain ⟨rfl, rfl⟩ : drive = [] ∧ root = .relative := by simpa [isAnchored] using hp
    have hempty : parse f [] = ⟨[], .relative, []⟩ := by
      cases f <;> rfl
    have happend : combine f ([] ++ names) = _ := combine_append_of_names h
    simpa [anchor, Root.text, hempty] using happend

end Parts

end Diagnostics
