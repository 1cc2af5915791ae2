import Diagnostics.Path.Basic

/-!
# Components of a path and their display

A path is shown with `/` between its components whatever the rules it was written by, so
that a diagnostic reads the same everywhere. A drive is shown as nothing, a root as a
separator, every other component as its text. `format` puts a separator before every
component but the first and those that directly follow a root.
-/

namespace Diagnostics

/-- The kinds of path components. -/
inductive Component.Kind where
  | drive
  | root
  | currentDir
  | parentDir
  | normal
deriving DecidableEq, Repr

/-- A component of a path. -/
structure Component where
  kind : Component.Kind
  text : String
deriving DecidableEq, Repr

namespace Component

/-- A drive, which stands before everything else. -/
def drive (text : String) : Component := ⟨.drive, text⟩

/-- The root of an absolute path. -/
def root : Component := ⟨.root, ""⟩

/-- The directory a relative path starts from. -/
def currentDir : Component := ⟨.currentDir, "."⟩

/-- The directory above. -/
def parentDir : Component := ⟨.parentDir, ".."⟩

/-- A file or directory name. -/
def normal (text : String) : Component := ⟨.normal, text⟩

/-- The component of a name inside a path. -/
def ofName (name : List Char) : Component :=
  if name = ['.', '.'] then parentDir else normal (String.ofList name)

/-- The character between displayed components. -/
def separator : Char := '/'

/-- The text a component is shown as. -/
def shown (c : Component) : String :=
  match c.kind with
  | .drive => ""
  | .root => separator.toString
  | _ => c.text

/-- The display of components, with a separator in front where one is `due`. -/
def formatDue (due : Bool) : List Component → String
  | [] => ""
  | c :: cs =>
    (if due then separator.toString else "") ++ c.shown ++ formatDue (c.kind ≠ .root) cs

/-- The display of components. -/
def format (cs : List Component) : String :=
  formatDue false cs

@[simp]
theorem format_nil :
  format [] = ""
  := rfl

theorem formatDue_cons (due : Bool) (c : Component) (cs : List Component) :
  formatDue due (c :: cs)
    = (if due then separator.toString else "") ++ c.shown ++ formatDue (c.kind ≠ .root) cs
  := rfl

end Component

namespace Path

/-- Whether a text starts with a point that is a component of its own. -/
def startsAtCurrentDir (text : List Char) : Bool :=
  match text with
  | ['.'] => true
  | '.' :: c :: _ => c = '/' ∨ c = '\\'
  | _ => false

/-- What stands before the names of a path: its drive, and its root or else the point a
text was written with. -/
def leading (p : Path) : List Component :=
  let parts := p.parts
  (if parts.drive = [] then [] else [.drive (String.ofList parts.drive)])
    ++ if parts.root ≠ .relative then [.root]
      else match p with
        | written text => if startsAtCurrentDir text.toList then [.currentDir] else []
        | parsed _ _ => []

/-- The components of a path. -/
def components (p : Path) : List Component :=
  p.leading ++ p.parts.names.map .ofName

/-- A path as diagnostics show it. -/
def display (p : Path) : String :=
  Component.format p.components

end Path

end Diagnostics
