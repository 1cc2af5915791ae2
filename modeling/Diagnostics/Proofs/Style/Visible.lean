import Diagnostics.Style.RichText
import Diagnostics.Style.Styling
import Mathlib.Tactic.Common

/-!
# Visible text

A terminal shows of a text what is left when the codes in it are taken out. A code starts with
the escape character, so a text without this character is shown as it is, and in front of other
text it changes nothing about the codes there. A text in a style that is built from emphases
therefore shows as the text alone, and `RichText.visible_painted` says so of rich text.
-/

namespace Diagnostics

namespace Terminal

/-- The character that starts a terminal code. -/
def escape : Char := '\x1b'

/-- Whether a character can stand between the bracket and the letter of a terminal code. -/
def inCode (c : Char) : Bool :=
  c.isDigit || c = ';'

/-- The text after the terminal code that a text starts with, if it starts with one. -/
def afterCode? : List Char → Option (List Char)
  | '\x1b' :: '[' :: text =>
    match text.dropWhile inCode with
    | 'm' :: rest => some rest
    | _ => none
  | _ => none

theorem length_lt_of_afterCode? {text rest : List Char} (h : afterCode? text = some rest) :
  rest.length < text.length
  := by
  rw [afterCode?.eq_def] at h
  split at h
  · rename_i numbers
    split at h
    · rename_i rest' hrest
      obtain rfl := Option.some.inj h
      have hle := (List.dropWhile_suffix inCode (l := numbers)).length_le
      rw [hrest] at hle
      simp only [List.length_cons] at hle ⊢
      omega
    · contradiction
  · contradiction

/-- A text with every terminal code taken out. -/
def strip : List Char → List Char
  | [] => []
  | c :: text =>
    match _h : afterCode? (c :: text) with
    | some rest => strip rest
    | none => c :: strip text
termination_by text => text.length
decreasing_by
  · apply length_lt_of_afterCode? _h
  · apply Nat.lt_succ_self

/-- What a terminal shows of a text. -/
def visible (text : String) : String :=
  String.ofList (strip text.toList)

theorem strip_nil :
  strip [] = []
  := by
  rw [strip]

theorem strip_of_afterCode? {text rest : List Char} (h : afterCode? text = some rest) :
  strip text = strip rest
  := by
  cases text with
  | nil => contradiction
  | cons c text =>
    rw [strip]
    split
    · rename_i rest' h'
      rw [h] at h'
      rw [Option.some.inj h']
    · rename_i h'
      rw [h] at h'
      contradiction

theorem strip_cons_of_ne {c : Char} (h : c ≠ escape) (text : List Char) :
  strip (c :: text) = c :: strip text
  := by
  have hcode : afterCode? (c :: text) = none := by
    rw [afterCode?]
    intro _ heq
    apply h (List.cons_eq_cons.mp heq).1
  rw [strip]
  split
  · rename_i h'
    rw [hcode] at h'
    contradiction
  · rfl

/-- Text without the escape character shows as it is. -/
theorem strip_append {text : List Char} (h : escape ∉ text) (rest : List Char) :
  strip (text ++ rest) = text ++ strip rest
  := by
  induction text with
  | nil => rfl
  | cons c text ih =>
    rw [List.mem_cons, not_or] at h
    rw [List.cons_append, strip_cons_of_ne (Ne.symm h.1), ih h.2, List.cons_append]

/-- A terminal code does not show. -/
theorem strip_terminalCode_append {number : String} (h : number.toList.all inCode = true)
    (rest : List Char) :
  strip ((terminalCode number).toList ++ rest) = strip rest
  := by
  apply strip_of_afterCode?
  rw [terminalCode, String.toList_append, String.toList_append, List.append_assoc,
    List.append_assoc]
  simp only [show "\x1b[".toList = ['\x1b', '['] by rfl, show "m".toList = ['m'] by rfl,
    List.cons_append, List.nil_append]
  rw [afterCode?, List.dropWhile_append_of_pos (List.all_eq_true.mp h), List.dropWhile_cons_of_neg (by decide)]
  rfl

end Terminal

open Terminal

/-! ### Styles -/

theorem Emphasis.all_inCode_number (e : Emphasis) :
  e.number.toList.all inCode = true
  := by
  cases e <;> decide

namespace Style

/-- Whether a style is built from the plain one by adding emphases. -/
def IsBuilt (s : Style) : Prop :=
  ∃ es, s = ofList es

theorem isBuilt_ofList (es : List Emphasis) :
  (ofList es).IsBuilt
  := ⟨es, rfl⟩

theorem strip_opening_append {s : Style} (h : s.IsBuilt) (rest : List Char) :
  strip (s.opening.toList ++ rest) = strip rest
  := by
  obtain ⟨es, rfl⟩ := h
  rw [opening, codes_ofList]
  induction es with
  | nil => rfl
  | cons e es ih =>
    rw [List.map_cons, String.join_cons, String.toList_append, List.append_assoc, Emphasis.code,
      strip_terminalCode_append e.all_inCode_number, ih]

/-- A text in a style shows as the text alone. -/
theorem strip_paint_append {s : Style} (h : s.IsBuilt) {text : String}
    (htext : escape ∉ text.toList) (rest : List Char) :
  strip ((s.paint text).toList ++ rest) = text.toList ++ strip rest
  := by
  rw [paint]
  split
  · apply strip_append htext
  · rw [String.toList_append, String.toList_append, List.append_assoc, List.append_assoc,
      strip_opening_append h, strip_append htext, resetCode, strip_terminalCode_append (by decide)]

end Style

/-! ### Rich text -/

/-- A text without codes of its own, in a style built from emphases. -/
structure Fragment.Clean (f : Fragment) : Prop where
  style : f.style.IsBuilt
  text : escape ∉ f.text.toList

theorem Fragment.clean_ofText_iff {text : String} :
  (ofText text).Clean ↔ escape ∉ text.toList
  := by
  constructor
  · intro h
    apply h.text
  · intro h
    exact ⟨Style.isBuilt_ofList [], h⟩

/-- A fragment without its style. -/
def Fragment.unstyled (f : Fragment) : Fragment :=
  .ofText f.text

namespace RichText

/-- Rich text without its styles. -/
def unstyled (r : RichText) : RichText :=
  r.map Fragment.unstyled

@[simp]
theorem unstyled_cons (f : Fragment) (r : RichText) :
  unstyled (f :: r) = f.unstyled :: unstyled r
  := rfl

@[simp]
theorem unstyled_append (r r' : RichText) :
  unstyled (r ++ r') = unstyled r ++ unstyled r'
  := List.map_append

theorem unstyled_nonempty (style : Style) (text : String) :
  unstyled (nonempty style text) = nonempty .plain text
  := by
  rw [nonempty, nonempty]
  split
  · rfl
  · rfl

/-- Without styles a terminal is sent the mere text. -/
theorem painted_unstyled (r : RichText) :
  painted (unstyled r) = content r
  := by
  induction r with
  | nil => rfl
  | cons f r ih => rw [unstyled_cons, painted_cons, content_cons, ih]; rfl

/-- A terminal shows the text that rich text has without styles. -/
theorem visible_painted {r : RichText} (h : ∀ f ∈ r, f.Clean) :
  visible (painted r) = content r
  := by
  have hstrip : strip (painted r).toList = (content r).toList := by
    induction r with
    | nil => apply strip_nil
    | cons f r ih =>
      obtain ⟨hf, hr⟩ := List.forall_mem_cons.mp h
      rw [painted_cons, content_cons, String.toList_append, String.toList_append,
        Fragment.painted, Style.strip_paint_append hf.style hf.text, ih hr]
  rw [visible, hstrip, String.ofList_toList]

example : visible "a\x1b[31;1mb\x1b[0mc\x1b[" = "abc\x1b[" := by cbv

end RichText

end Diagnostics
