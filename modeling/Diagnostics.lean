import Diagnostics.Session
import Diagnostics.Proofs.Render.Snippet
import Diagnostics.Proofs.Ty.Naming
import Diagnostics.Proofs.Render.Success
import Diagnostics.Proofs.Render.Inference
import Diagnostics.Proofs.Path.Parse
import Diagnostics.Proofs.Path.Drive
import Diagnostics.Proofs.Path.Copy
import Diagnostics.Proofs.Render.Source
import Diagnostics.Proofs.Ty.Parts
import Diagnostics.Proofs.Ty.Resolve
import Diagnostics.Proofs.Text.Decimal
import Diagnostics.Proofs.Ty.VariableName
import Diagnostics.Proofs.Ty.Spelling
import Diagnostics.Proofs.Render.Offset
import Diagnostics.Proofs.Render.Visible
import Diagnostics.Proofs.Disk.Reading
import Diagnostics.Proofs.Render.Failure
import Diagnostics.Proofs.Log.Entries
import Diagnostics.Proofs.Log.Report
import Diagnostics.Proofs.Session.Iterators
import Diagnostics.Proofs.Session.AppendOnly
import Diagnostics.Proofs.Interleaving
import Diagnostics.Proofs.Session.Passes
import Diagnostics.Proofs.Session.Sources
import Diagnostics.Proofs.Session.Binding
import Diagnostics.Proofs.Ty.Finite
import Diagnostics.Proofs.Render.Layout
import Diagnostics.Proofs.Render.Marker
import Diagnostics.Proofs.Render.Highlight
import Diagnostics.Proofs.Text.InLines
import Diagnostics.Proofs.Render.Lines
import Diagnostics.Proofs.Log.Lines
import Diagnostics.Proofs.Text.Terminators
import Diagnostics.Proofs.Path.Components
import Diagnostics.Proofs.Path.Format
import Diagnostics.Proofs.Path.Display
import Diagnostics.Proofs.Path.Separators
import Diagnostics.Proofs.Location.Display
import Diagnostics.Proofs.Ty.Chain
import Diagnostics.Proofs.Style.Reading
import Diagnostics.Proofs.Log.Emphases
