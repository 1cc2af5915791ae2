import Diagnostics.Disk.Reading
import Diagnostics.Table
import Diagnostics.Text.CodePoint
import Diagnostics.Ty.Name

/-!
# The cache

A `Cache` holds what rendering looks up: the bindings of type variables, and the texts of
source files. A `Sources` table keeps texts in memory under the texts of their paths, and
falls back on the disk for any other path. A text in memory wins even when it is empty,
and it is used as it stands, surrogates included.
-/

namespace Diagnostics

/-- Source texts in memory under the texts of their paths, and the disk. -/
structure Sources where
  texts : Table SourceText
  disk : Disk

namespace Sources

/-- Keeps a text in memory, in place of an earlier one of the same path. -/
def insert (s : Sources) (path : Path) (text : SourceText) : Sources :=
  { s with texts := s.texts.set path.text text }

/-- The source text of a path. -/
def textOf (s : Sources) (path : Path) : Except ReadError SourceText :=
  match s.texts.find? path.text with
  | some text => .ok text
  | none => (s.disk.readText path.text).map .ofString

@[simp]
theorem textOf_insert (s : Sources) (path : Path) (text : SourceText) :
  (s.insert path text).textOf path = .ok text
  := by
  simp [textOf, insert]

/-- Paths with the same text have the same source. -/
theorem textOf_congr (s : Sources) {p q : Path} (h : p.text = q.text) :
  s.textOf p = s.textOf q
  := by
  simp only [textOf, h]

end Sources

/-- What rendering looks up. -/
structure Cache where
  bindings : Bindings
  sources : Sources

namespace Cache

/-- A cache without bindings and texts, over an empty disk. -/
def empty : Cache := ⟨.empty, ⟨.empty, .empty⟩⟩

/-- Binds a type variable that is not bound yet. -/
def bind (c : Cache) (id : Int) (ty : Ty) : Except AlreadyBound Cache :=
  (c.bindings.bind id ty).map (fun b => { c with bindings := b })

/-- Keeps a source text in memory under a path. -/
def addSource (c : Cache) (path : Path) (text : SourceText) : Cache :=
  { c with sources := c.sources.insert path text }

/-- The same cache over another disk. -/
def withDisk (c : Cache) (disk : Disk) : Cache :=
  { c with sources := { c.sources with disk := disk } }

end Cache

end Diagnostics
