import Diagnostics.Proofs.Path.Components
import Diagnostics.Proofs.Path.Format

/-!
# Displayed paths read again

By the POSIX rules a displayed path has the parts of the path it shows, with a single separator for
its root, and a path as it was written is displayed as what its display is displayed as:
`Path.parts_display`.
-/

namespace Diagnostics

/-- The root that a path is displayed with. -/
def Root.displayed : Root → Root
  | .relative => .relative
  | .single => .single
  | .double => .single

theorem Root.displayed_eq_relative_iff {r : Root} :
  r.displayed = .relative ↔ r = .relative
  := by
  cases r <;> decide

/-- The parts that a path is displayed with. -/
def Parts.displayed (p : Parts) : Parts :=
  { p with root := p.root.displayed }

/-! ### Joined names -/

namespace Text

/-- Joined names do not start with a separator. -/
theorem head?_join_ne {f : Flavour} {ns : List (List Char)} (h : ∀ n ∈ ns, f.IsName n) :
  (join f.separator ns).head? ≠ some f.separator
  := by
  cases ns with
  | nil => simp [join]
  | cons n ns =>
    have hn := h n List.mem_cons_self
    obtain ⟨c, n, rfl⟩ := List.exists_cons_of_ne_nil hn.ne_nil
    have hc := List.ne_of_not_mem_cons hn.separator_not_mem
    rw [join_cons, List.cons_append, List.head?_cons, ne_eq, Option.some.injEq]
    apply Ne.symm hc

end Text

namespace Parts

variable {names : List (List Char)}

theorem parse_join (h : ∀ n ∈ names, Flavour.posix.IsName n) :
  parse .posix (Text.join '/' names) = ⟨[], .relative, names⟩
  := by
  have hhead : (Text.join '/' names).head? ≠ some '/' := Text.head?_join_ne h
  have hnames : Text.names '/' (Text.join '/' names) = names := Text.names_join h
  rw [parse_posix, hnames, splitPosix_eq_relative_iff.mpr hhead]

theorem parse_slash_join (h : ∀ n ∈ names, Flavour.posix.IsName n) :
  parse .posix ('/' :: Text.join '/' names) = ⟨[], .single, names⟩
  := by
  have hhead : (Text.join '/' names).head? ≠ some '/' := Text.head?_join_ne h
  have hnames : Text.names '/' ('/' :: Text.join '/' names) = names := by
    apply (Text.names_append '/' [] _).trans
    apply Text.names_join h
  rw [parse_posix, hnames, splitPosix_slash hhead]

/-- A point in front of names is none of them. -/
theorem parse_point_join (h : ∀ n ∈ names, Flavour.posix.IsName n) :
  parse .posix (Text.join '/' (['.'] :: names)) = ⟨[], .relative, names⟩
  := by
  have hhead : (Text.join '/' (['.'] :: names)).head? ≠ some '/' := by
    rw [Text.join_cons]
    simp
  have hnames : Text.names '/' (Text.join '/' (['.'] :: names)) = names := by
    by_cases hnil : names = []
    · rw [hnil]
      rfl
    · rw [Text.join_cons_cons '/' _ hnil, Text.names_append]
      apply Text.names_join h
  rw [parse_posix, hnames, splitPosix_eq_relative_iff.mpr hhead]

end Parts

/-! ### Paths read again -/

namespace Path

/-- What stands before the names of a path without a drive. -/
theorem leading_of_drive_eq_nil {p : Path} (h : p.parts.drive = []) :
  p.leading = [.root] ∧ p.parts.root ≠ .relative
    ∨ p.leading = [.currentDir] ∧ p.parts.root = .relative
    ∨ p.leading = [] ∧ p.parts.root = .relative
  := by
  simp only [leading, if_pos h, List.nil_append]
  split
  · left
    exact ⟨rfl, ‹_›⟩
  · rename_i hroot
    right
    rw [not_not] at hroot
    split
    · split
      · left
        exact ⟨rfl, hroot⟩
      · right
        exact ⟨rfl, hroot⟩
    · right
      exact ⟨rfl, hroot⟩

theorem toList_display_of_root {p : Path} (h : p.leading = [.root]) :
  p.display.toList = '/' :: Text.join '/' p.parts.names
  := by
  rw [display, components, h, List.singleton_append, Component.toList_format_root_cons,
    Component.toList_format_names]
  rfl

theorem toList_display_of_point {p : Path} (h : p.leading = [.currentDir]) :
  p.display.toList = Text.join '/' (['.'] :: p.parts.names)
  := by
  rw [display, components, h, List.singleton_append, Component.toList_format_currentDir_names]
  rfl

theorem toList_display_of_nil {p : Path} (h : p.leading = []) :
  p.display.toList = Text.join '/' p.parts.names
  := by
  rw [display, components, h, List.nil_append, Component.toList_format_names]
  rfl

/-- A path without a drive is displayed as a text with the same parts, but for a second separator
in its root. -/
theorem parse_display {p : Path} (hdrive : p.parts.drive = [])
    (hnames : ∀ n ∈ p.parts.names, Flavour.posix.IsName n) :
  Parts.parse .posix p.display.toList = p.parts.displayed
  := by
  rw [Parts.displayed, hdrive]
  obtain ⟨hleading, hroot⟩ | ⟨hleading, hroot⟩ | ⟨hleading, hroot⟩ :=
    leading_of_drive_eq_nil hdrive
  · have hdisplayed : p.parts.root.displayed = .single := by
      cases hp : p.parts.root with
      | relative => contradiction
      | single => rfl
      | double => rfl
    rw [toList_display_of_root hleading, Parts.parse_slash_join hnames, hdisplayed]
  · rw [toList_display_of_point hleading, Parts.parse_point_join hnames, hroot]
    rfl
  · rw [toList_display_of_nil hleading, Parts.parse_join hnames, hroot]
    rfl

end Path

/-! ### Paths displayed again -/

/-- The first name of a text is its first segment, unless that is empty or a point. -/
theorem Text.head?_split_of_names {text n : List Char} {ns : List (List Char)}
    (h : names '/' text = n :: ns) (hroot : text.head? ≠ some '/')
    (hpoint : (split '/' text).head? ≠ some ['.']) :
  (split '/' text).head? = some n
  := by
  have hnil : text ≠ [] := by
    rintro rfl
    contradiction
  obtain ⟨first, rest, hsplit⟩ := List.exists_cons_of_ne_nil (split_ne_nil '/' text)
  have hfirst := ne_nil_of_split_eq_cons hsplit hnil hroot
  rw [hsplit, List.head?_cons, ne_eq, Option.some.injEq] at hpoint
  rw [names, hsplit, List.filter_cons_of_pos (by simp [hfirst, hpoint])] at h
  rw [hsplit, List.head?_cons, (List.cons_eq_cons.mp h).1]

namespace Path

/-- The names of a text that starts with no point do not either. -/
theorem startsAtCurrentDir_join_names {text : List Char} (hroot : text.head? ≠ some '/')
    (hpoint : startsAtCurrentDir text = false) :
  startsAtCurrentDir (Text.join '/' (Text.names '/' text)) = false
  := by
  rw [Bool.eq_false_iff, ne_eq, startsAtCurrentDir_iff, not_or] at hpoint
  cases hnames : Text.names '/' text with
  | nil => rfl
  | cons n ns =>
    have hn : Flavour.posix.IsName n := by
      apply @Parts.isName_of_mem_names .posix text
      rw [Parts.parse_posix, hnames]
      apply List.mem_cons_self
    have hsplit : (Text.split '/' (Text.join '/' (n :: ns))).head? = some n :=
      Text.head?_split_join hn.separator_not_mem ns
    have hfirst := Text.head?_split_of_names hnames hroot hpoint.1
    rw [Bool.eq_false_iff, ne_eq, startsAtCurrentDir_iff]
    rintro (hdisplay | hdisplay)
    · apply hn.ne_point
      apply Option.some.inj (hsplit.symm.trans hdisplay)
    · apply hpoint.2
      rw [Text.prefix_iff_of_head?_split hfirst (by decide)]
      rwa [Text.prefix_iff_of_head?_split hsplit (by decide)] at hdisplay

/-- A relative path is displayed with a point in front when it was written so. -/
theorem startsAtCurrentDir_display {text : String}
    (hroot : (splitPosix text.toList).1 = .relative) :
  startsAtCurrentDir (written text).display.toList = startsAtCurrentDir text.toList
  := by
  have hleading := leading_written text
  rw [if_neg (not_not_intro hroot)] at hleading
  cases hpoint : startsAtCurrentDir text.toList with
  | true =>
    rw [hpoint, if_pos rfl] at hleading
    rw [toList_display_of_point hleading, startsAtCurrentDir_iff]
    left
    apply Text.head?_split_join
    decide
  | false =>
    rw [hpoint, if_neg Bool.false_ne_true] at hleading
    rw [toList_display_of_nil hleading, parts, Parts.parse_posix]
    apply startsAtCurrentDir_join_names (splitPosix_eq_relative_iff.mp hroot) hpoint

theorem parse_display_written (text : String) :
  Parts.parse .posix (written text).display.toList = (Parts.parse .posix text.toList).displayed
  := by
  have hnames : ∀ n ∈ (written text).parts.names, Flavour.posix.IsName n :=
    fun _ hn => Parts.isName_of_mem_names hn
  rw [parse_display rfl hnames]
  rfl

theorem parse_display_ofText (text : String) :
  Parts.parse .posix (ofText .posix text).display.toList
    = (Parts.parse .posix text.toList).displayed
  := by
  have hnames : ∀ n ∈ (ofText .posix text).parts.names, Flavour.posix.IsName n :=
    fun _ hn => Parts.isName_of_mem_names hn
  rw [parse_display rfl hnames]
  rfl

/-- A path as it was written is displayed as its display is. -/
theorem display_display (text : String) :
  (written (written text).display).display = (written text).display
  := by
  have hparts := parse_display_written text
  rw [Parts.parse_posix, Parts.parse_posix text.toList, Parts.displayed, Parts.mk.injEq] at hparts
  obtain ⟨-, hroot, hnames⟩ := hparts
  have hleading : (written (written text).display).leading = (written text).leading := by
    rw [leading_written, leading_written, hroot]
    by_cases h : (splitPosix text.toList).1 = .relative
    · rw [startsAtCurrentDir_display h, h, Root.displayed]
    · rw [if_pos h, if_pos (mt Root.displayed_eq_relative_iff.mp h)]
  have hcomponents : (written (written text).display).components = (written text).components := by
    rw [components, components, hleading, parts, parts, Parts.parse_posix, Parts.parse_posix, hnames]
  exact congrArg Component.format hcomponents

/-- A path that a text names, as it was written or taken apart by the POSIX rules, is displayed as a
text with the same parts, where a root of two separators is a single one, and as it was written it
is displayed as its display is. -/
theorem parts_display (text : String) :
  Parts.parse .posix (written text).display.toList = (Parts.parse .posix text.toList).displayed
    ∧ Parts.parse .posix (ofText .posix text).display.toList
      = (Parts.parse .posix text.toList).displayed
    ∧ (written (written text).display).display = (written text).display
  := ⟨parse_display_written text, parse_display_ofText text, display_display text⟩

end Path

end Diagnostics
