import Diagnostics.Disk.Route
import Diagnostics.Text.Quoted
import Diagnostics.Text.Utf8

/-!
# Files on disk

A `Disk` is the working directory with everything below it; of what lies above it or
elsewhere nothing is known but that directories lead there. `Disk.find` walks along a route
from directory to directory, and stops at the first name that leads nowhere; `Disk.locate`
does so for a path text, and `Disk.contents` gives the bytes of the file found there.
-/

namespace Diagnostics

/-- Why a walk along a path does not lead to what is wanted. -/
inductive Obstacle where
  | notFound
  | alreadyExists
  | notADirectory
  | isADirectory
  | nameTooLong
deriving DecidableEq, Repr

/-- The system's number for an obstacle. -/
def Obstacle.number : Obstacle → Nat
  | .notFound => 2
  | .alreadyExists => 17
  | .notADirectory => 20
  | .isADirectory => 21
  | .nameTooLong => 36

/-- The system's words for an obstacle. -/
def Obstacle.words : Obstacle → String
  | .notFound => "No such file or directory"
  | .alreadyExists => "File exists"
  | .notADirectory => "Not a directory"
  | .isADirectory => "Is a directory"
  | .nameTooLong => "File name too long"

/-- Why a path cannot be used. -/
inductive PathError where
  /-- No path holds a null character. -/
  | nullInPath
  | obstacle (cause : Obstacle) (path : String)
deriving DecidableEq, Repr

/-- The text of an error about a path. -/
def PathError.message : PathError → String
  | nullInPath => "embedded null byte"
  | obstacle cause path =>
    "[Errno " ++ toString cause.number ++ "] " ++ cause.words ++ ": " ++ Text.quoted path

/-- Where a file or directory stands: the names that lead to it from the working
directory. -/
abbrev Address := List (List Char)

/-- The working directory and what is below it. -/
structure Disk where
  directories : List Address
  files : List (Address × List UInt8)

namespace Disk

/-- An empty working directory. -/
def empty : Disk := ⟨[], []⟩

/-- The file at an address. -/
def file? (d : Disk) (a : Address) : Option (List UInt8) :=
  d.files.lookup a

/-- Puts a file at an address, in place of one that is there. -/
def insert (d : Disk) (a : Address) (bytes : List UInt8) : Disk :=
  { d with files := (a, bytes) :: d.files.filter (fun f => f.1 ≠ a) }

/-- Takes away the file at an address. -/
def erase (d : Disk) (a : Address) : Disk :=
  { d with files := d.files.filter (fun f => f.1 ≠ a) }

/-- Puts a directory at an address. -/
def insertDirectory (d : Disk) (a : Address) : Disk :=
  { d with directories := a :: d.directories }

@[simp]
theorem file?_insert (d : Disk) (a : Address) (bytes : List UInt8) :
  (d.insert a bytes).file? a = some bytes
  := by
  simp [insert, file?]

/-! ### Walks -/

/-- What a walk has come to. -/
inductive Place where
  /-- The working directory or one below it. -/
  | directory (a : Address)
  /-- A directory that is not below the working directory. -/
  | outside
  | file (a : Address) (bytes : List UInt8)
deriving DecidableEq, Repr

/-- The place where a route starts. -/
def Place.start (r : Route) : Place :=
  if r.absolute then .outside else .directory []

/-- Whether a place is a directory. -/
def Place.isDirectory : Place → Bool
  | .file _ _ => false
  | _ => true

/-- The most bytes in a name. -/
def maxNameBytes : Nat := 255

/-- The least number of bytes that is too many for a path. -/
def pathBytesLimit : Nat := 4096

/-- One step of a walk. -/
def step (d : Disk) (place : Place) (name : List Char) : Except Obstacle Place :=
  match place with
  | .file _ _ => .error .notADirectory
  | .outside =>
    if name = ['.'] ∨ name = ['.', '.'] then .ok .outside
    else if maxNameBytes < (Utf8.encode name).length then .error .nameTooLong
    else .error .notFound
  | .directory a =>
    if name = ['.'] then .ok (.directory a)
    else if name = ['.', '.'] then .ok (if a = [] then .outside else .directory a.dropLast)
    else if maxNameBytes < (Utf8.encode name).length then .error .nameTooLong
    else
      match d.file? (a ++ [name]) with
      | some bytes => .ok (.file (a ++ [name]) bytes)
      | none =>
        if a ++ [name] ∈ d.directories then .ok (.directory (a ++ [name])) else .error .notFound

/-- The place that names lead to, one after the other. -/
def walk (d : Disk) (place : Place) (names : List (List Char)) : Except Obstacle Place :=
  names.foldlM d.step place

/-- The place that a route leads to. -/
def find (d : Disk) (r : Route) : Except Obstacle Place := do
  let place ← d.walk (.start r) r.names
  if r.asksForDirectory ∧ ¬ place.isDirectory then .error .notADirectory else .ok place

/-- What becomes of a route, given the text of a path. No route belongs to a text that is
empty, too long or with a null character. -/
def follow {α : Type} (text : List Char) (f : Route → Except Obstacle α) :
    Except PathError α :=
  if text.contains '\x00' then .error .nullInPath
  else
    let outcome :=
      if text = [] then .error .notFound
      else if pathBytesLimit ≤ (Utf8.encode text).length then .error .nameTooLong
      else f (Route.ofText text)
    outcome.mapError (.obstacle · (String.ofList text))

/-- The place that a path text names. -/
def locate (d : Disk) (text : List Char) : Except PathError Place :=
  follow text d.find

/-- Whether a path text names a file or a directory. -/
def holds (d : Disk) (text : List Char) : Bool :=
  (d.locate text).isOk

/-- Whether a path text names a directory. -/
def isDirectory (d : Disk) (text : List Char) : Bool :=
  (d.locate text).toOption.any Place.isDirectory

/-- The bytes of the file that a path text names. -/
def contents (d : Disk) (text : List Char) : Except PathError (List UInt8) :=
  follow text fun r => do
    match ← d.find r with
    | .file _ bytes => .ok bytes
    | _ => .error .isADirectory

end Disk

end Diagnostics
