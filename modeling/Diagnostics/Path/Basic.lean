import Diagnostics.Text.LowerCase
import Diagnostics.Text.Split

/-!
# Paths

A path is a text as somebody wrote it, or it has been taken apart by the rules of a
`Flavour` into `Parts`: a drive, a root and the names after them. `Parts.parse` takes a
text apart, `Parts.combine` takes several path texts together, of which a later one
replaces all before it when it has a drive or a root of its own. `Path.copy` rebuilds a
path from its own parts, each read as a path text again.
-/

namespace Diagnostics

/-- The rules by which a text is taken apart. -/
inductive Flavour where
  | posix
  | windows
deriving DecidableEq, Repr

/-- The character between the names of a path. -/
def Flavour.separator : Flavour → Char
  | .posix => '/'
  | .windows => '\\'

/-- How a path is rooted: not at all, or by one or two separators. -/
inductive Root where
  | relative
  | single
  | double
deriving DecidableEq, Repr

/-- The text of a root. -/
def Root.text (f : Flavour) : Root → List Char
  | .relative => []
  | .single => [f.separator]
  | .double => [f.separator, f.separator]

/-- A path taken apart. -/
structure Parts where
  drive : List Char
  root : Root
  names : List (List Char)
deriving DecidableEq, Repr

/-! ### Drive and root -/

/-- Root and rest of a text. Two leading separators are a root of their own, any other
number of them is one root. -/
def splitPosix (text : List Char) : Root × List Char :=
  let root :=
    match (text.takeWhile (· == '/')).length with
    | 0 => Root.relative
    | 2 => .double
    | _ => .single
  (root, text.dropWhile (· == '/'))

/-- The mark of an extended path and the text after it. The mark takes in the word for a
network share, after which the share is read as one. -/
def splitExtended : List Char → List Char × List Char
  | '\\' :: '\\' :: '?' :: '\\' :: 'U' :: 'N' :: 'C' :: '\\' :: rest =>
    ("\\\\?\\UNC".toList, '\\' :: '\\' :: rest)
  | '\\' :: '\\' :: '?' :: '\\' :: rest => ("\\\\?\\".toList, rest)
  | text => ([], text)

/-- The machine and the share that a text names after two separators, and the rest. A
share may be empty only at the end. -/
def splitShare? : List Char → Option (List Char × List Char × List Char)
  | '\\' :: '\\' :: body =>
    if body.head? = some '\\' then none
    else
      match body.dropWhile (· != '\\') with
      | [] => none
      | _ :: tail =>
        if tail.head? = some '\\' then none
        else some (body.takeWhile (· != '\\'), tail.takeWhile (· != '\\'),
          (tail.dropWhile (· != '\\')).drop 1)
  | _ => none

/-- A letter with a colon, and the rest. -/
def splitLetter : List Char → List Char × List Char
  | c :: ':' :: rest => if c.isAlpha then ([c, ':'], rest) else ([], c :: ':' :: rest)
  | text => ([], text)

/-- Drive, root and rest of a text whose separators are all backslashes. -/
def splitWindows (text : List Char) : List Char × Root × List Char :=
  let (mark, text) := splitExtended text
  match splitShare? text with
  | some (machine, share, rest) =>
    let drive := '\\' :: machine ++ '\\' :: share
    (if mark = [] then '\\' :: drive else mark ++ drive, .single, rest)
  | none =>
    let (letter, text) := splitLetter text
    let root := if text.head? = some '\\' then Root.single else .relative
    (mark ++ letter, root, text.dropWhile (· == '\\'))

/-- Drive, root and rest of a text. -/
def Flavour.splitRoot (f : Flavour) (text : List Char) : List Char × Root × List Char :=
  match f with
  | .posix => ([], splitPosix text)
  | .windows => splitWindows (text.map (fun c => if c = '/' then '\\' else c))

/-! ### Parts -/

namespace Parts

/-- The parts of one path text. Empty names and names of a single point are left out. -/
def parse (f : Flavour) (text : List Char) : Parts :=
  let (drive, root, rest) := f.splitRoot text
  ⟨drive, root, (Text.split f.separator rest).filter (fun n => n ≠ [] ∧ n ≠ ['.'])⟩

/-- Whether the parts have a drive or a root. -/
def isAnchored (p : Parts) : Bool :=
  p.drive ≠ [] ∨ p.root ≠ .relative

/-- The first nonempty drive of some path texts. -/
def firstDrive (f : Flavour) (texts : List (List Char)) : List Char :=
  ((texts.map (fun t => (parse f t).drive)).find? (· ≠ [])).getD []

/-- The parts of several path texts, the last of them first. The texts before the last
that has a drive or a root lend it at most a drive. -/
def combineReversed (f : Flavour) : List (List Char) → Parts
  | [] => ⟨[], .relative, []⟩
  | text :: earlier =>
    let here := parse f text
    if here.isAnchored then
      if here.drive = [] then { here with drive := firstDrive f earlier } else here
    else
      let before := combineReversed f earlier
      { before with names := before.names ++ here.names }

/-- The parts of several path texts taken together. -/
def combine (f : Flavour) (texts : List (List Char)) : Parts :=
  combineReversed f texts.reverse

/-- The text of drive and root. -/
def anchor (f : Flavour) (p : Parts) : List Char :=
  p.drive ++ p.root.text f

/-- The names with the anchor in front, where there is one. -/
def toTexts (f : Flavour) (p : Parts) : List (List Char) :=
  if p.isAnchored then p.anchor f :: p.names else p.names

/-- The text of the parts in their own flavour, a single point for none. -/
def text (f : Flavour) (p : Parts) : List Char :=
  let written := p.anchor f ++ Text.join f.separator p.names
  if written = [] then ['.'] else written

/-- The parts of a path built from these parts, each read as a path text. -/
def reparse (f : Flavour) (p : Parts) : Parts :=
  combine f (p.toTexts f)

/-- The texts by which paths of a flavour are compared. -/
def key (f : Flavour) (p : Parts) : List (List Char) :=
  match f with
  | .posix => p.toTexts f
  | .windows => (p.toTexts f).map Text.lower

end Parts

/-! ### Paths -/

/-- The name of a file. -/
inductive Path where
  /-- A path as somebody wrote it. -/
  | written (text : String)
  /-- A path taken apart by the rules of a flavour. -/
  | parsed (flavour : Flavour) (parts : Parts)
deriving DecidableEq, Repr

namespace Path

/-- The path that a text names by the rules of a flavour. -/
def ofText (f : Flavour) (text : String) : Path :=
  .parsed f (.parse f text.toList)

/-- The text of a path. -/
def text : Path → String
  | written text => text
  | parsed f p => String.ofList (p.text f)

/-- The parts of a path; a text as written is taken apart by the POSIX rules. -/
def parts : Path → Parts
  | written text => .parse .posix text.toList
  | parsed _ p => p

/-- A path rebuilt from its parts; a text as written stays as it is. -/
def copy : Path → Path
  | written text => written text
  | parsed f p => parsed f (p.reparse f)

/-- Whether two paths are the same: both written alike, or of one flavour and with parts
that compare as equal. -/
def same : Path → Path → Bool
  | written text, written text' => text == text'
  | parsed f p, parsed f' p' => f == f' && p.key f == p'.key f'
  | _, _ => false

end Path

end Diagnostics
