import Diagnostics.Style.Basic

/-!
# Rich text

A `RichText` is a sequence of texts, each in a style. `painted` is what a terminal is
sent, `content` the same without any styles.
-/

namespace Diagnostics

/-- A text in a style. -/
structure Fragment where
  style : Style
  text : String
deriving DecidableEq, Repr

/-- A text without style. -/
def Fragment.ofText (text : String) : Fragment := ⟨.plain, text⟩

/-- A fragment as a terminal is sent it. -/
def Fragment.painted (f : Fragment) : String :=
  f.style.paint f.text

/-- Fragments one after the other. -/
abbrev RichText := List Fragment

namespace RichText

/-- The text that a terminal is sent. -/
def painted (r : RichText) : String :=
  String.join (r.map Fragment.painted)

/-- The text without styles. -/
def content (r : RichText) : String :=
  String.join (r.map Fragment.text)

/-- A fragment for a text unless it is empty. -/
def nonempty (style : Style) (text : String) : RichText :=
  if text = "" then [] else [⟨style, text⟩]

@[simp]
theorem painted_nil :
  painted [] = ""
  := rfl

@[simp]
theorem painted_cons (f : Fragment) (r : RichText) :
  painted (f :: r) = f.painted ++ painted r
  := by
  simp [painted]

@[simp]
theorem painted_append (r r' : RichText) :
  painted (r ++ r') = painted r ++ painted r'
  := by
  induction r with
  | nil => simp
  | cons f r ih => simp [ih, String.append_assoc]

@[simp]
theorem content_cons (f : Fragment) (r : RichText) :
  content (f :: r) = f.text ++ content r
  := by
  simp [content]

end RichText

end Diagnostics
