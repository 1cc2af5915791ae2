import Diagnostics.Disk.Changes
import Diagnostics.Log
import Diagnostics.Style.Environment

/-!
# Sessions

A `Session` is a compiler run as the reporting sees it: one cache, and messages, logs and
iterators under names. A `Step` asks something of it or changes it, and gets a `Reply`;
`Session.step` is what one step does and `Session.run` what several do in turn. A step that
fails leaves the session as it was, but for the entries that `extend` added and the
directories that `writeFile` made before it failed, and the entries that an iterator went
past.
-/

namespace Diagnostics

/-- Why a request fails. -/
inductive Failure where
  | span (cause : SpanError)
  | alreadyBound (cause : AlreadyBound)
  | naming (cause : NamingError)
  | content (cause : ContentError)
  | disk (cause : PathError)
  | read (cause : ReadError)
  | render (cause : RenderError)
  | log (cause : LogError)
  | internal (cause : InternalError)
  /-- Data that is no type has no kind. -/
  | noKind (kindName : String)
  | unknownName (name : String)

/-- The text of a failure, where it has one. -/
def Failure.message? : Failure → Option String
  | span cause => some cause.message
  | alreadyBound cause => some cause.message
  | naming cause => cause.message?
  | content cause => cause.message?
  | disk cause => some cause.message
  | read cause => some cause.message
  | render cause => cause.message?
  | log cause => cause.message?
  | internal cause => some cause.text
  | noKind kindName => (LogError.lacks kindName "kind").message?
  | unknownName name => some (Text.quoted name)

/-- Something to put into a log. -/
inductive Item where
  /-- The message of a name. -/
  | named (name : String)
  /-- A content, unless there was none to be had. -/
  | stray (content : Except ContentError Content)

/-- A request to a session. -/
inductive Step where
  | bind (id : Int) (ty : Ty)
  | findBinding (id : Int)
  | follow (ty : Ty)
  | nameOf (ty : Ty)
  | bindings
  | addSource (path : Path) (text : SourceText)
  | sourceText (path : Path)
  | sourceKeys
  | writeFile (name : String) (bytes : List UInt8)
  | deleteFile (name : String)
  | message (name : String) (location : Location) (content : Content)
  | render (name : String) (styling : Styling)
  | newLog (log : String) (items : List Item)
  | append (log : String) (item : Item)
  | extend (log : String) (items : List Item)
  | merge (log other : String)
  | length (log : String)
  | errorCount (log : String)
  | hasErrors (log : String)
  | exitStatus (log : String)
  | summaries (log : String)
  | startIterator (log iterator : String)
  | next (iterator : String)
  | rest (iterator : String)
  | renderAll (log : String) (styling : Styling)
  /-- Without a styling the environment decides. -/
  | emit (log : String) (styling : Option Styling) (environment : Environment)

/-- What a request is answered with. -/
inductive Answer where
  | done
  | text (text : String)
  | source (text : SourceText)
  | texts (texts : List String)
  | count (n : Nat)
  | truth (b : Bool)
  | ty (ty : Option Ty)
  | bindings (entries : List (Int × Ty))
  | message (m : Message)

/-- The answer to a request, the length of the log it added to, and what it wrote, which is
the empty text where it was to write a log that is not there. -/
structure Reply where
  outcome : Except Failure Answer
  length? : Option Nat
  written? : Option String

namespace Reply

/-- An answer alone. -/
def ok (a : Answer) : Reply := ⟨.ok a, none, none⟩

/-- A failure alone. -/
def error (f : Failure) : Reply := ⟨.error f, none, none⟩

/-- The outcome of a question. -/
def ofExcept (outcome : Except Failure Answer) : Reply := ⟨outcome, none, none⟩

end Reply

/-- A cache with named messages, logs and iterators. -/
structure Session where
  cache : Cache
  messages : Table Message
  logs : Table Log
  iterators : Table (List Entry)

namespace Session

/-- A session over a cache, without names. -/
def ofCache (c : Cache) : Session := ⟨c, .empty, .empty, .empty⟩

/-- The value under a name. -/
def lookup {α : Type} (t : Table α) (name : String) : Except Failure α :=
  match t.find? name with
  | some value => .ok value
  | none => .error (.unknownName name)

/-- The entry that an item stands for. -/
def entry (s : Session) : Item → Except Failure Entry
  | .named name => (lookup s.messages name).map .message
  | .stray content => (content.map .stray).mapError .content

/-- The entries that items stand for, up to the first item that stands for none, and why it
does not. -/
def resolve (s : Session) : List Item → List Entry × Option Failure
  | [] => ([], none)
  | item :: items =>
    match s.entry item with
    | .error cause => ([], some cause)
    | .ok e =>
      let (es, missing) := s.resolve items
      (e :: es, missing)

/-- A log with the entries of items added one after the other, and the first failure. -/
def extend (s : Session) (l : Log) (items : List Item) : Log × Option Failure :=
  let (es, missing) := s.resolve items
  let (l, refused) := l.extend es
  (l, (refused.map .log).or missing)

/-- The answer to a question about a log. -/
def ask (s : Session) (log : String) (question : Log → Except LogError Answer) : Reply :=
  .ofExcept do
    let l ← lookup s.logs log
    (question l).mapError .log

/-- The outcome of a change that may fail. -/
def outcome : Option Failure → Except Failure Answer
  | none => .ok .done
  | some cause => .error cause

/-- Changes a log; the reply tells its length afterwards. -/
def change (s : Session) (log : String) (f : Log → Log × Option Failure) : Session × Reply :=
  match lookup s.logs log with
  | .error cause => (s, .error cause)
  | .ok l =>
    let (l, failure) := f l
    ({ s with logs := s.logs.set log l }, ⟨outcome failure, some l.length, none⟩)

/-- A log with the entries of another one added, which must not be the log itself. -/
def merge (s : Session) (log other : String) (l : Log) : Log × Option Failure :=
  match lookup s.logs other with
  | .error cause => (l, some cause)
  | .ok l' => if log = other then (l, some (.log .mergedIntoItself)) else (l.merge l', none)

/-- What a step does to a session, and its reply. -/
def step (s : Session) : Step → Session × Reply
  | .bind id ty =>
    match s.cache.bind id ty with
    | .ok cache => ({ s with cache := cache }, .ok .done)
    | .error cause => (s, .error (.alreadyBound cause))
  | .findBinding id => (s, .ok (.ty (s.cache.bindings.find? id)))
  | .follow ty =>
    (s, .ofExcept ((s.cache.bindings.follow ty).mapError Failure.naming |>.map (.ty ∘ some)))
  | .nameOf ty =>
    (s, .ofExcept ((s.cache.bindings.nameOf ty).mapError Failure.naming |>.map .text))
  | .bindings =>
    (s, .ok (.bindings (s.cache.bindings.entries.mergeSort (fun e e' => e.1 ≤ e'.1))))
  | .addSource path text => ({ s with cache := s.cache.addSource path text }, .ok .done)
  | .sourceText path =>
    (s, .ofExcept ((s.cache.sources.textOf path).mapError Failure.read |>.map .source))
  | .sourceKeys =>
    (s, .ok (.texts (s.cache.sources.texts.names.mergeSort (fun a b => a ≤ b))))
  | .writeFile name bytes =>
    let (disk, failure) := s.cache.sources.disk.write name.toList bytes
    ({ s with cache := s.cache.withDisk disk }, .ofExcept (outcome (failure.map .disk)))
  | .deleteFile name =>
    match s.cache.sources.disk.remove name.toList with
    | .ok disk => ({ s with cache := s.cache.withDisk disk }, .ok .done)
    | .error cause => (s, .error (.disk cause))
  | .message name location content =>
    match Message.new location content with
    | .ok m => ({ s with messages := s.messages.set name m }, .ok (.message m))
    | .error cause => (s, .error (.content cause))
  | .render name styling =>
    (s, .ofExcept do
      let m ← lookup s.messages name
      (m.render s.cache styling).mapError Failure.render |>.map .text)
  | .newLog log items =>
    match items.mapM s.entry with
    | .ok entries => ({ s with logs := s.logs.set log ⟨entries⟩ }, .ok (.count entries.length))
    | .error cause => (s, .error cause)
  | .append log item => s.change log (s.extend · [item])
  | .extend log items => s.change log (s.extend · items)
  | .merge log other => s.change log (s.merge log other)
  | .length log => (s, s.ask log fun l => .ok (.count l.length))
  | .errorCount log => (s, s.ask log fun l => l.errorCount.map .count)
  | .hasErrors log => (s, s.ask log fun l => l.hasErrors.map .truth)
  | .exitStatus log => (s, s.ask log fun l => l.exitStatus.map .count)
  | .summaries log => (s, s.ask log fun l => l.summaries.map .texts)
  | .startIterator log iterator =>
    match lookup s.logs log with
    | .ok l => ({ s with iterators := s.iterators.set iterator l.entries }, .ok .done)
    | .error cause => (s, .error cause)
  | .next iterator =>
    match lookup s.iterators iterator with
    | .ok entries =>
      ({ s with iterators := s.iterators.set iterator (entries.drop 1) },
        .ofExcept ((Entry.drain (entries.take 1)).1.mapError Failure.log |>.map .texts))
    | .error cause => (s, .error cause)
  | .rest iterator =>
    match lookup s.iterators iterator with
    | .ok entries =>
      let (lines, left) := Entry.drain entries
      ({ s with iterators := s.iterators.set iterator left },
        .ofExcept (lines.mapError Failure.log |>.map .texts))
    | .error cause => (s, .error cause)
  | .renderAll log styling => (s, s.ask log fun l => (l.renderAll s.cache styling).map .text)
  | .emit log styling environment =>
    match lookup s.logs log with
    | .error cause => (s, ⟨.error cause, none, some ""⟩)
    | .ok l =>
      let (written, outcome) := l.emit s.cache (styling.getD environment.styling)
      (s, ⟨(outcome.mapError Failure.log).map .count, none, some written⟩)

/-- What several steps do in turn, and their replies. -/
def run (s : Session) : List Step → Session × List Reply
  | [] => (s, [])
  | step :: steps =>
    let (s, reply) := s.step step
    let (s, replies) := s.run steps
    (s, reply :: replies)

end Session

end Diagnostics
