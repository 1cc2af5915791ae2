import Diagnostics.Proofs.Render.Layout
import Diagnostics.Proofs.Render.Visible
import Diagnostics.Proofs.Text.InLines

/-!
# The lines of a rendered message

Where neither its path nor the names of its types nor the styles bring a line feed, a rendered
message is in lines: the header, the line about the payload, the source line, and the marker line
where there is one. The source line brings no line feed, whatever the source is.
-/

namespace Diagnostics

/-! ### Text without line feeds -/

/-- Whether no code of a styling has a line feed. -/
def Styling.FeedFree (s : Styling) : Prop :=
  ∀ style ∈ s.styles, ∀ code ∈ style.codes, '\n' ∉ code.toList

theorem Styling.feedFree_noColor :
  noColor.FeedFree
  := by
  simp [FeedFree, styles, noColor, Style.plain]

theorem Style.IsBuilt.feed_not_mem {style : Style} (h : style.IsBuilt) :
  ∀ code ∈ style.codes, '\n' ∉ code.toList
  := by
  obtain ⟨es, rfl⟩ := h
  rw [codes_ofList, List.forall_mem_map]
  intro e _
  cases e <;> decide

theorem Styling.IsBuilt.feedFree {s : Styling} (h : s.IsBuilt) :
  s.FeedFree
  := by
  intro style hstyle
  apply (h style hstyle).feed_not_mem

theorem Style.feed_not_mem_paint {style : Style} {text : String}
    (hcodes : ∀ code ∈ style.codes, '\n' ∉ code.toList) (htext : '\n' ∉ text.toList) :
  '\n' ∉ (style.paint text).toList
  := by
  have hopening : '\n' ∉ style.opening.toList := by
    simpa [opening, String.toList_join] using hcodes
  have hreset : '\n' ∉ resetCode.toList := by decide
  rw [paint]
  split
  · apply htext
  · simp [hopening, htext, hreset]

theorem Fragment.Lacks.feed_not_mem_painted {s : Styling} {f : Fragment} (h : f.Lacks s '\n')
    (hs : s.FeedFree) :
  '\n' ∉ f.painted.toList
  := by
  apply Style.feed_not_mem_paint _ h.text
  rcases h.style with hplain | hmem
  · simp [hplain, Style.plain]
  · apply hs _ hmem

namespace RichText

variable {r : RichText} {s : Styling}

theorem feed_not_mem_painted (h : ∀ f ∈ r, f.Lacks s '\n') (hs : s.FeedFree) :
  '\n' ∉ r.painted.toList
  := by
  simp only [painted, String.toList_join, List.mem_flatMap, List.mem_map]
  rintro ⟨_, ⟨f, hf, rfl⟩, hfeed⟩
  apply (h f hf).feed_not_mem_painted hs hfeed

/-- A line of rich text is shown as a line. -/
theorem IsLine.exists_painted (h : r.IsLine (Fragment.Lacks s '\n')) (hs : s.FeedFree) :
  ∃ line, r.painted = line ++ "\n" ∧ '\n' ∉ line.toList
  := by
  obtain ⟨parts, last, rfl, hparts, hlast⟩ := h
  use RichText.painted parts ++ last
  constructor
  · simp [Fragment.painted, Fragment.ofText, String.append_assoc]
  · rw [String.toList_append, List.mem_append, not_or]
    exact ⟨feed_not_mem_painted hparts hs, hlast.text⟩

end RichText

namespace Message

variable {m : Message} {c : Cache} {s : Styling} {text : String}

/-- Whether a message brings no line feed in its path or in the names of its types. -/
structure FeedFree (m : Message) (c : Cache) : Prop where
  path : '\n' ∉ m.span.path.display.toList
  types : ∀ ty ∈ m.payload.types, ∀ name, c.bindings.nameOf ty = .ok name →
    '\n' ∉ name.toList

theorem feed_not_mem_of_sourceLine {source : SourceText} {line : List Char}
    (h : m.sourceLine source = .ok line) :
  '\n' ∉ line
  := by
  have hpoints := CodePoint.characters_eq_ok_iff.mp h
  have hfeed : CodePoint.char '\n' ∉ m.sourcePoints source := by
    rw [sourcePoints]
    cases hline : source.lines[m.span.line - 1]? with
    | none => simp
    | some points => apply Text.feed_not_mem_of_mem_linesBy (List.mem_of_getElem? hline)
  rw [hpoints, List.mem_map_of_injective CodePoint.char_injective] at hfeed
  apply hfeed

/-! ### The lines of a message -/

/-- The source line is shown without line feeds. -/
theorem Layout.feed_not_mem_pieces (l : m.Layout c s text) (hs : s.FeedFree) :
  '\n' ∉ (l.pieces.rich s.wrongPart).painted.toList
  := by
  obtain ⟨before, middle, after, hline, -, -, hpieces⟩ := l.exists_bounds
  apply RichText.feed_not_mem_painted _ hs
  apply Snippet.lacks_of_mem_rich (feed_not_mem_of_sourceLine l.line_eq)
  rw [hpieces, hline, String.ofList_append, String.ofList_append]

/-- A rendered message is in three lines, or in four with a marker line. -/
theorem exists_inLines (hm : m.FeedFree c) (hs : s.FeedFree) (h : m.render c s = .ok text) :
  ∃ (l : m.Layout c s text) (header body : String),
    (m.header s).painted = header ++ "\n" ∧ l.body.painted = body ++ "\n"
    ∧ Text.InLines text
      ([header, body, (l.pieces.rich s.wrongPart).painted] ++ l.marker?.toList)
    ∧ (l.marker?.isSome = true ↔ s.underline = true ∨ l.low = l.high)
  := by
  obtain ⟨l, hdue, hmarker⟩ := exists_layout h
  obtain ⟨header, hheader, hheaderFeed⟩ :=
    (m.isLine_header s (by decide) hm.path).exists_painted hs
  obtain ⟨body, hbody, hbodyFeed⟩ :=
    (Payload.isLine_body (by decide) hm.types l.body_eq).exists_painted hs
  refine ⟨l, header, body, hheader, hbody, ?_, hdue⟩
  have hsource := l.feed_not_mem_pieces hs
  have hlast : Text.InLines (l.marker?.elim "" (· ++ "\n")) l.marker?.toList := by
    cases hl : l.marker? with
    | none => apply Text.inLines_nil
    | some marker =>
      apply Text.inLines_singleton
      rw [hmarker marker hl]
      apply Snippet.not_mem_marker (by decide)
  have hthree := ((Text.inLines_singleton hheaderFeed).append
    (Text.inLines_singleton hbodyFeed)).append (Text.inLines_singleton hsource)
  have hall := hthree.append hlast
  have htext := l.text_eq
  rw [hheader, hbody] at htext
  simp only [String.append_assoc] at hall htext
  rw [← htext] at hall
  apply hall

/-- With underlining there are always four lines. -/
theorem exists_inLines_of_underline (hm : m.FeedFree c) (hs : s.FeedFree)
    (hunderline : s.underline = true) (h : m.render c s = .ok text) :
  ∃ lines, Text.InLines text lines ∧ lines.length = 4
  := by
  obtain ⟨l, header, body, -, -, hlines, hdue⟩ := exists_inLines hm hs h
  obtain ⟨marker, hmarker⟩ := Option.isSome_iff_exists.mp (hdue.mpr (Or.inl hunderline))
  refine ⟨_, hlines, ?_⟩
  rw [hmarker]
  rfl

end Message

end Diagnostics
