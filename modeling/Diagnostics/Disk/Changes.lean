import Diagnostics.Disk.Basic

/-!
# Changing files on disk

`Disk.remove` takes a file away, `Disk.makeDirectories` makes a directory and those on the
way to it that are missing, and `Disk.write` writes a file after it has made the directories
it lies in. What is made before a later part fails stays, so these last two give back a disk
in either case. `Disk.slot` tells what stands where a route ends.
-/

namespace Diagnostics.Disk

/-- What stands where a route ends. -/
inductive Slot where
  | taken (place : Place)
  /-- Nothing yet. -/
  | free (a : Address)
deriving DecidableEq, Repr

/-- What stands where a route ends, once its other names have led to a directory. -/
def slot (d : Disk) (r : Route) : Except Obstacle Slot := do
  let parent ← d.walk (.start r) r.names.dropLast
  match r.names.getLast? with
  | none => .ok (.taken parent)
  | some name =>
    match d.step parent name, parent with
    | .ok place, _ => .ok (.taken place)
    | .error .notFound, .directory a => .ok (.free (a ++ [name]))
    | .error cause, _ => .error cause

/-! ### Single changes -/

/-- Takes away the file at the end of a route. -/
def removeFile (d : Disk) (r : Route) : Except Obstacle Disk := do
  match ← d.slot r with
  | .taken (.file a _) => if r.asksForDirectory then .error .notADirectory else .ok (d.erase a)
  | .taken _ => .error .isADirectory
  | .free _ => .error .notFound

/-- Makes a directory at the end of a route. -/
def makeDirectory (d : Disk) (r : Route) : Except Obstacle Disk := do
  match ← d.slot r with
  | .taken _ => .error .alreadyExists
  | .free a => .ok (d.insertDirectory a)

/-- Writes a file at the end of a route, in place of one that is there. -/
def writeFile (d : Disk) (r : Route) (bytes : List UInt8) : Except Obstacle Disk := do
  match ← d.slot r with
  | .taken (.file a _) | .free a =>
    if r.asksForDirectory then .error .isADirectory else .ok (d.insert a bytes)
  | .taken _ => .error .isADirectory

/-! ### Changes along a path -/

/-- Takes away the file that a path text names. -/
def remove (d : Disk) (text : List Char) : Except PathError Disk :=
  follow text d.removeFile

/-- The disk after a change that may fail, and why it failed. -/
def attempt (d : Disk) (change : Except PathError Disk) : Disk × Option PathError :=
  match change with
  | .ok d => (d, none)
  | .error cause => (d, some cause)

/-- Makes the directory that a path text names, unless there is one. -/
def ensureDirectory (d : Disk) (text : List Char) : Disk × Option PathError :=
  match d.attempt (follow text d.makeDirectory) with
  | (d, some cause) => (d, if d.isDirectory text then none else some cause)
  | made => made

/-- Whether a failure to make a directory is due to what stands in its place already. -/
def isTaken : Option PathError → Bool
  | some (.obstacle .alreadyExists _) => true
  | _ => false

/-- Makes the directory that a path text names, after those on the way to it that are
missing. A file in the place of one of these is no failure yet, since the next step meets
it. -/
def makeDirectories (d : Disk) (text : List Char) : Disk × Option PathError :=
  let name := (Route.splitLast (Route.trim text)).2
  let folder := (Route.splitLast (Route.trim text)).1
  if _ : name = [] ∨ folder = [] ∨ d.holds folder then d.ensureDirectory text
  else
    let (d, failure) := d.makeDirectories folder
    if failure.isSome ∧ ¬ isTaken failure then (d, failure)
    else if name = ['.'] then (d, none)
    else d.ensureDirectory text
termination_by text.length
decreasing_by
  rename_i h
  exact Nat.lt_of_lt_of_le (Route.length_splitLast_lt (fun hn => h (.inl hn)))
    (Route.length_trim_le text)

/-- Writes a file, after the directories it lies in are made. -/
def write (d : Disk) (text : List Char) (bytes : List UInt8) : Disk × Option PathError :=
  let folder := Route.folder text
  match if folder = [] then (d, none) else d.makeDirectories folder with
  | (d, none) => d.attempt (follow text (d.writeFile · bytes))
  | failed => failed

end Diagnostics.Disk
