import Diagnostics.Message.Basic
import Diagnostics.Render.Body
import Diagnostics.Render.Snippet

/-!
# Rendered messages

A message is rendered as a header with its place and severity, its body, the source line
with the part at fault highlighted, and, where the styling asks for it or nothing is
highlighted, a marker line. The source is looked up first, at the time of rendering; a
line past the end of the source reads as empty. The line has to have bytes, so surrogates
in it are found before anything that is wrong with the payload.
-/

namespace Diagnostics

/-- The style of the header word for a severity. -/
def Styling.header (s : Styling) : Severity → Style
  | .error => s.headerError
  | .warning => s.headerWarning
  | .note => s.headerNote

namespace Message

/-- What stands between place and severity in a header. -/
def headerSeparator : String := " | "

/-- The line with the place and the severity of a message. -/
def header (m : Message) (s : Styling) : RichText :=
  [⟨s.location, m.span.display⟩, .ofText headerSeparator,
    ⟨s.header m.severity, m.severity.word ++ ":"⟩, .ofText "\n"]

/-- The code points of the source line a message is about. -/
def sourcePoints (m : Message) (source : SourceText) : List CodePoint :=
  (source.lines[m.span.line - 1]?).getD []

/-- The source line a message is about, which must not hold surrogates. -/
def sourceLine (m : Message) (source : SourceText) : Except CodePoint.Fault (List Char) :=
  CodePoint.characters (m.sourcePoints source)

/-- The bytes of a line that a message is about. -/
def range (m : Message) (raw : List UInt8) : Nat × Nat :=
  let r := highlightRange raw.length m.span.column m.span.length
  (r.1.toNat, r.2.toNat)

/-- The source line with the part at fault in its style, and the marker line below it. -/
def snippet (m : Message) (line : List Char) (s : Styling) : Except RenderError RichText :=
  let raw := Utf8.encode line
  let (low, high) := m.range raw
  match Snippet.cut raw low high with
  | .error fault => .error (.notText fault)
  | .ok pieces =>
    .ok (pieces.rich s.wrongPart ++ [.ofText "\n"]
      ++ if s.underline ∨ low = high then [.ofText (Snippet.marker low high ++ "\n")] else [])

/-- A message over its source line. -/
def renderLine (m : Message) (line : List Char) (b : Bindings) (s : Styling) :
    Except RenderError RichText := do
  let body ← m.payload.body b s
  let snippet ← m.snippet line s
  return m.header s ++ body ++ snippet

/-- A message over its source text. -/
def renderOver (m : Message) (source : SourceText) (b : Bindings) (s : Styling) :
    Except RenderError RichText :=
  match m.sourceLine source with
  | .error fault => .error (.notEncodable fault)
  | .ok line => m.renderLine line b s

/-- A message as rich text. -/
def renderRich (m : Message) (c : Cache) (s : Styling) : Except RenderError RichText :=
  match c.sources.textOf m.span.path with
  | .error cause => .error (.ofRead m.span.path.text cause)
  | .ok source => m.renderOver source c.bindings s

/-- A message as text for a terminal. -/
def render (m : Message) (c : Cache) (s : Styling) : Except RenderError String :=
  (m.renderRich c s).map RichText.painted

end Message

end Diagnostics
