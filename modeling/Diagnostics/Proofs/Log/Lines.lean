import Diagnostics.Proofs.Log.Report
import Diagnostics.Proofs.Render.Lines
import Diagnostics.Proofs.Render.Source

/-!
# The lines of a rendered log

Where every entry of a log is rendered in the same number of lines, the lines of a single entry are
found in the text of the log by counting. Unstyled, a message has four lines:
`Log.exists_inLines_renderAll`.
-/

namespace Diagnostics

variable {c : Cache} {s : Styling}

namespace Log

/-- A log of entries with the same number of lines is in the lines of its entries. -/
theorem exists_inLines {l : Log} {n : Nat}
    (h : ∀ e ∈ l.entries, ∃ block : Text.Block n, e.render c s = .ok block.text) :
  ∃ text lines, l.renderAll c s = .ok text ∧ Text.InLines text lines
    ∧ lines.length = n * l.length
    ∧ ∀ (k : Nat) (e : Entry), l.entries[k]? = some e →
      ∃ text', e.render c s = .ok text' ∧ Text.InLines text' ((lines.drop (n * k)).take n)
  := by
  -- a text comes with its lines, so that one list of partners serves for both
  obtain ⟨blocks, hblocks⟩ := exists_forall₂_iff.mpr h
  have hrendered : Entry.Rendered c s l.entries (blocks.map Text.Block.text) :=
    List.forall₂_map_right_iff.mpr hblocks
  refine ⟨_, _, renderAll_of_rendered hrendered, Text.Block.inLines_join blocks, ?_, ?_⟩
  · rw [Text.Block.length_flatten, length, hblocks.length_eq]
  · intro k e he
    obtain ⟨block, hblock, htext⟩ := exists_getElem?_of_forall₂ hblocks he
    use block.text, htext
    rw [Text.Block.take_drop_flatten hblock]
    apply block.inLines

/-- A rendered message without line feeds of its own is in three lines, its header, the line about
its payload and its source line, and in a fourth where the styling underlines or the message is
about no bytes of its source line. So unstyled every message of a log has four lines. -/
theorem exists_inLines_renderAll (c : Cache) :
  (∀ (m : Message) (s : Styling) (text : String), m.FeedFree c → s.FeedFree →
      m.render c s = .ok text →
      ∃ (l : m.Layout c s text) (header body : String),
        (m.header s).painted = header ++ "\n" ∧ l.body.painted = body ++ "\n"
        ∧ Text.InLines text
          ([header, body, (l.pieces.rich s.wrongPart).painted] ++ l.marker?.toList)
        ∧ (l.marker?.isSome = true ↔ s.underline = true ∨ l.low = l.high))
    ∧ ∀ l : Log,
      (∀ e ∈ l.entries, ∃ m text, e = .message m ∧ m.FeedFree c
        ∧ m.render c .noColor = .ok text) →
      ∃ text lines, l.renderAll c .noColor = .ok text ∧ Text.InLines text lines
        ∧ lines.length = 4 * l.length
        ∧ ∀ (k : Nat) (m : Message), l.entries[k]? = some (.message m) →
          ∃ text', m.render c .noColor = .ok text'
            ∧ Text.InLines text' ((lines.drop (4 * k)).take 4)
  := by
  constructor
  · intro m s text hm hs h
    apply Message.exists_inLines hm hs h
  · intro l hl
    have hblocks : ∀ e ∈ l.entries,
        ∃ block : Text.Block 4, e.render c .noColor = .ok block.text := by
      intro e he
      obtain ⟨m, text, rfl, hm, htext⟩ := hl e he
      obtain ⟨lines, hlines, hlength⟩ :=
        Message.exists_inLines_of_underline hm Styling.feedFree_noColor rfl htext
      use ⟨text, lines, hlines, hlength⟩
      apply Entry.render_message_eq_ok_iff.mpr htext
    obtain ⟨text, lines, htext, hlines, hlength, hnth⟩ := exists_inLines hblocks
    refine ⟨text, lines, htext, hlines, hlength, ?_⟩
    intro k m hm
    obtain ⟨text', htext', hlines'⟩ := hnth k (.message m) hm
    use text', Entry.render_message_eq_ok_iff.mp htext', hlines'

/-- A source of two lines, the first with a carriage return inside. -/
def twoLines : Cache :=
  Cache.empty.addSource (.written "main.an") "a\rb\nc"

/-- A message about each of them. -/
def aboutTwoLines : Log :=
  ⟨[.message (.atLine (.written "main.an") 0), .message (.atLine (.written "main.an") 1)]⟩

/-- In colour the message about the first line has four lines as well, and unstyled the log has
eight, the last four of them for the message about the second line. -/
theorem exists_inLines_renderAll_twoLines :
  (∃ text, (Message.atLine (.written "main.an") 0).render twoLines .colored = .ok text
      ∧ ∃ lines, Text.InLines text lines ∧ lines.length = 4)
    ∧ ∃ text lines, aboutTwoLines.renderAll twoLines .noColor = .ok text
      ∧ Text.InLines text lines ∧ lines.length = 8
      ∧ ∃ text', (Message.atLine (.written "main.an") 1).render twoLines .noColor = .ok text'
        ∧ Text.InLines text' (lines.drop 4)
  := by
  have hfree : ∀ k, (Message.atLine (.written "main.an") k).FeedFree twoLines := by
    intro k
    constructor
    · show '\n' ∉ (Path.written "main.an").display.toList
      decide
    · apply Payload.not_mem_of_nameOf rfl (by decide)
  have hrender : ∀ k s, ∃ text, (Message.atLine (.written "main.an") k).render twoLines s
      = .ok text := by
    intro k s
    apply Message.exists_render_of_primitive s (Cache.textOf_addSource _ _ _) rfl rfl
  obtain ⟨hmessage, hlog⟩ := exists_inLines_renderAll twoLines
  constructor
  · obtain ⟨text, htext⟩ := hrender 0 .colored
    obtain ⟨l, header, body, -, -, hlines, hdue⟩ :=
      hmessage _ _ _ (hfree 0) Styling.isBuilt_colored.feedFree htext
    have hempty : l.low = l.high := by
      rw [Message.Layout.low, Message.Layout.high, Message.range_eq]
      rfl
    obtain ⟨marker, hmarker⟩ := Option.isSome_iff_exists.mp (hdue.mpr (Or.inr hempty))
    refine ⟨text, htext, _, hlines, ?_⟩
    rw [hmarker]
    rfl
  · have hentries : ∀ e ∈ aboutTwoLines.entries, ∃ m text, e = .message m ∧ m.FeedFree twoLines
        ∧ m.render twoLines .noColor = .ok text := by
      obtain ⟨first, hfirst⟩ := hrender 0 .noColor
      obtain ⟨second, hsecond⟩ := hrender 1 .noColor
      simp only [aboutTwoLines, List.forall_mem_cons]
      refine ⟨⟨_, first, rfl, hfree 0, hfirst⟩, ⟨_, second, rfl, hfree 1, hsecond⟩, by simp⟩
    obtain ⟨text, lines, htext, hlines, hlength, hnth⟩ := hlog aboutTwoLines hentries
    obtain ⟨text', htext', hlines'⟩ := hnth 1 _ rfl
    rw [List.take_of_length_le (by simp [hlength, length, aboutTwoLines])] at hlines'
    use text, lines, htext, hlines, hlength, text', htext', hlines'

end Log

end Diagnostics
