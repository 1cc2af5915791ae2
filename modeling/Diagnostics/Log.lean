import Diagnostics.Render.Message

/-!
# Logs of messages

The passes of a compiler report into a `Log`, to which messages are only ever added. A log
may be filled with other things than messages when it is made, which shows once they are
asked for what only a message has; `append` and `extend` take messages alone. A log as a
whole fails if one of its messages is an error. `emit` writes messages one by one, so what
comes before a message that cannot be rendered is written already.
-/

namespace Diagnostics

/-- What a log holds. -/
inductive Entry where
  | message (m : Message)
  | stray (content : Content)

/-- Why a log refuses an entry, or an entry a question. -/
inductive LogError where
  | notAMessage (got : String)
  | mergedIntoItself
  /-- A stray entry lacks what every message has. -/
  | lacks (kindName wanted : String)
  | render (cause : RenderError)

/-- The text of an error, where it has one. -/
def LogError.message? : LogError → Option String
  | notAMessage got => some s!"expected a CompilationMessage, got {got}"
  | mergedIntoItself => some "cannot merge a collection into itself"
  | lacks kindName wanted =>
    some s!"'{kindName}' object has no attribute '{wanted}'"
  | render cause => cause.message?

namespace Entry

/-- Whether an entry is an error. -/
def isError : Entry → Except LogError Bool
  | message m => .ok m.isError
  | stray c => .error (.lacks c.kindName "is_error")

/-- Severity and place of an entry. A tagged payload has a severity, but no place. -/
def summary : Entry → Except LogError String
  | message m => .ok m.summary
  | stray (.tagged p) => .error (.lacks (Content.tagged p).kindName "location")
  | stray c => .error (.lacks c.kindName "severity")

/-- The summaries of entries up to the first that has none, and the entries after it. -/
def drain : List Entry → Except LogError (List String) × List Entry
  | [] => (.ok [], [])
  | e :: es =>
    match e.summary with
    | .error cause => (.error cause, es)
    | .ok line =>
      let (lines, left) := drain es
      (lines.map (line :: ·), left)

/-- The text of an entry. -/
def render (e : Entry) (c : Cache) (s : Styling) : Except LogError String :=
  match e with
  | message m => (m.render c s).mapError .render
  | stray content => .error (.lacks content.kindName "render")

end Entry

/-- Entries in the order in which they were added. -/
structure Log where
  entries : List Entry

namespace Log

/-- The number of entries. -/
def length (l : Log) : Nat :=
  l.entries.length

/-- Adds a message at the end. -/
def append (l : Log) : Entry → Except LogError Log
  | .message m => .ok ⟨l.entries ++ [.message m]⟩
  | .stray c => .error (.notAMessage c.kindName)

/-- Adds messages one after the other, up to the first entry that is none. -/
def extend (l : Log) : List Entry → Log × Option LogError
  | [] => (l, none)
  | e :: es =>
    match l.append e with
    | .ok l => l.extend es
    | .error cause => (l, some cause)

/-- Adds all entries of another log at the end. -/
def merge (l l' : Log) : Log :=
  ⟨l.entries ++ l'.entries⟩

/-- The number of errors among some entries. -/
def countErrors : List Entry → Except LogError Nat
  | [] => .ok 0
  | e :: es => do
    let isError ← e.isError
    let rest ← countErrors es
    return if isError then rest + 1 else rest

/-- Whether there is an error among some entries; those after the first one do not
matter. -/
def anyError : List Entry → Except LogError Bool
  | [] => .ok false
  | e :: es => do
    if ← e.isError then return true else anyError es

/-- The number of errors. -/
def errorCount (l : Log) : Except LogError Nat :=
  countErrors l.entries

/-- Whether there is an error. -/
def hasErrors (l : Log) : Except LogError Bool :=
  anyError l.entries

/-- The exit status of a run without errors. -/
def exitSuccess : Nat := 0

/-- The exit status of a run with errors. -/
def exitFailure : Nat := 1

/-- The exit status that the entries call for. -/
def exitStatus (l : Log) : Except LogError Nat :=
  l.hasErrors.map (fun failed => if failed then exitFailure else exitSuccess)

/-- Severity and place of each entry. -/
def summaries (l : Log) : Except LogError (List String) :=
  (Entry.drain l.entries).1

/-- The texts of all entries, one after the other. -/
def renderAll (l : Log) (c : Cache) (s : Styling) : Except LogError String :=
  (l.entries.mapM (fun (e : Entry) => e.render c s)).map String.join

/-- Writes entries one by one, up to the first that cannot be rendered. -/
def write (c : Cache) (s : Styling) : List Entry → String × Except LogError Unit
  | [] => ("", .ok ())
  | e :: es =>
    match e.render c s with
    | .error cause => ("", .error cause)
    | .ok text =>
      let (written, outcome) := write c s es
      (text ++ written, outcome)

/-- Writes all entries; the outcome is the exit status. -/
def emit (l : Log) (c : Cache) (s : Styling) : String × Except LogError Nat :=
  let (written, outcome) := write c s l.entries
  (written, outcome.bind (fun _ => l.exitStatus))

end Log

end Diagnostics
