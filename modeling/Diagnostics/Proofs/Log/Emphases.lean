import Diagnostics.Proofs.Log.Report
import Diagnostics.Proofs.Render.Lines
import Diagnostics.Proofs.Style.Reading

/-!
# Emphases in a rendered log

In a message whatever is in a style is part of a line, so that its emphases are switched off on the
line on which they are switched on; line feeds are in no style. A message is therefore tidy, with
any path, type names and source line that bring no codes and no line feeds of their own, and so is a
log of such messages: a terminal that reads it has no emphasis on when a line ends.
-/

namespace Diagnostics

variable {c : Cache} {s : Styling}

/-! ### Messages -/

/-- What is in a style is part of a line. -/
theorem Fragment.LacksInLine.eq_plain_or {f : Fragment} (h : f.LacksInLine s '\n')
    (hs : s.FeedFree) :
  f.style = .plain ∨ '\n' ∉ f.painted.toList
  := by
  rcases h with h | ⟨text, rfl, -⟩
  · right
    apply h.feed_not_mem_painted hs
  · left
    rfl

/-- A message is tidy that brings neither codes nor line feeds of its own. -/
theorem Message.tidy_render {m : Message} {text : String} (hs : s.IsBuilt) (hescape : m.EscapeFree c)
    (hfeed : m.FeedFree c) (h : m.render c s = .ok text) :
  Terminal.Tidy text.toList
  := by
  obtain ⟨r, hr, rfl⟩ := map_eq_ok_iff.mp h
  apply RichText.tidy_painted (clean_of_mem_renderRich hs hescape hr)
  intro f hf
  apply Fragment.LacksInLine.eq_plain_or _ hs.feedFree
  have hline : ∀ source line, c.sources.textOf m.span.path = .ok source →
      m.sourceLine source = .ok line → '\n' ∉ line :=
    fun _ _ _ hline => feed_not_mem_of_sourceLine hline
  apply lacksInLine_of_mem_renderRich (by decide) hfeed.path hfeed.types hline hr f hf

/-! ### Logs -/

namespace Log

theorem tidy_join {entries : List Entry} {texts : List String}
    (h : Entry.Rendered c s entries texts)
    (htidy : ∀ e ∈ entries, ∀ text, e.render c s = .ok text → Terminal.Tidy text.toList) :
  Terminal.Tidy (String.join texts).toList
  := by
  induction h with
  | nil => exact Terminal.tidy_of_not_mem List.not_mem_nil
  | cons he _ ih =>
    obtain ⟨hfirst, hrest⟩ := List.forall_mem_cons.mp htidy
    rw [String.join_cons, String.toList_append]
    apply (hfirst _ he).append (ih hrest)

/-- A terminal that reads a log of rendered messages, none of which brings codes or line feeds of its
own, has no emphasis on at any line feed nor at the end, and finds an escape character only where
the code of a command begins. -/
theorem switchedOn_renderAll {l : Log} (hs : s.IsBuilt)
    (hl : ∀ e ∈ l.entries, ∃ m text, e = .message m ∧ m.EscapeFree c ∧ m.FeedFree c
      ∧ m.render c s = .ok text) :
  ∃ text, l.renderAll c s = .ok text
    ∧ (∀ before after, text.toList = before ++ '\n' :: after → Terminal.switchedOn before = [])
    ∧ Terminal.switchedOn text.toList = []
    ∧ ∀ before after, text.toList = before ++ Terminal.escape :: after →
      ∃ k : Terminal.Command, k.code.toList <+: Terminal.escape :: after
  := by
  have hrender : ∀ e ∈ l.entries, ∃ text, e.render c s = .ok text := by
    intro e he
    obtain ⟨m, text, rfl, -, -, htext⟩ := hl e he
    use text, Entry.render_message_eq_ok_iff.mpr htext
  obtain ⟨texts, htexts⟩ := Entry.exists_rendered_iff.mpr hrender
  have htidy : Terminal.Tidy (String.join texts).toList := by
    apply tidy_join htexts
    intro e he text htext
    obtain ⟨m, -, rfl, hescape, hfeed, -⟩ := hl e he
    apply m.tidy_render hs hescape hfeed (Entry.render_message_eq_ok_iff.mp htext)
  refine ⟨String.join texts, renderAll_of_rendered htexts, htidy.feed, ?_, htidy.coded⟩
  rw [Terminal.switchedOn, htidy.read_eq]
  rfl

/-- In colour, two messages about the same character. -/
theorem switchedOn_renderAll_aboutAccent :
  Styling.colored.IsBuilt
    ∧ Message.aboutAccent.EscapeFree Message.accented ∧ Message.aboutAccent.FeedFree Message.accented
    ∧ ∃ text, (⟨[.message .aboutAccent, .message .aboutAccent]⟩ : Log).renderAll
        Message.accented .colored = .ok text
      ∧ (∀ before after, text.toList = before ++ '\n' :: after → Terminal.switchedOn before = [])
      ∧ Terminal.switchedOn text.toList = []
      ∧ ∀ before after, text.toList = before ++ Terminal.escape :: after →
        ∃ k : Terminal.Command, k.code.toList <+: Terminal.escape :: after
  := by
  have hfeed : Message.aboutAccent.FeedFree Message.accented := by
    constructor
    · decide
    · apply Payload.not_mem_of_nameOf rfl (by decide)
  have hentries : ∀ e ∈ [Entry.message .aboutAccent, .message .aboutAccent], ∃ m text,
      e = .message m ∧ m.EscapeFree Message.accented ∧ m.FeedFree Message.accented
        ∧ m.render Message.accented .colored = .ok text := by
    intro e he
    obtain rfl : e = .message .aboutAccent := by simpa using he
    obtain ⟨text, htext⟩ := Message.exists_render_aboutAccent .colored
    use .aboutAccent, text, rfl, Message.escapeFree_aboutAccent, hfeed
  exact ⟨Styling.isBuilt_colored, Message.escapeFree_aboutAccent, hfeed,
    switchedOn_renderAll (l := ⟨_⟩) Styling.isBuilt_colored hentries⟩

end Log

end Diagnostics
