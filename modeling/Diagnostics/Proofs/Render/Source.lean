import Diagnostics.Proofs.Disk.Newlines
import Diagnostics.Proofs.Render.Success

/-!
# Sources in memory and on disk

A source is used from memory as it stands, while reading it from disk makes a line feed of
every line end. `Message.render_addSource_iff` says when the two cannot be told apart by
any message: exactly when every carriage return of the source ends a line.
-/

namespace Diagnostics

/-! ### The same source twice -/

/-- Whether a path names a file of some bytes. -/
def Disk.HasFile (d : Disk) (path : String) (bytes : List UInt8) : Prop :=
  d.contents ((Parts.parse .posix path.toList).text .posix) = .ok bytes

theorem Disk.readText_of_hasFile {d : Disk} {path text : String}
    (h : d.HasFile path (Utf8.encode text.toList)) :
  d.readText path = .ok (String.ofList (Text.normalizeNewlines text.toList))
  := by
  rw [HasFile] at h
  have hread : d.readText path
      = (textOfBytes (Utf8.encode text.toList)).mapError .notText := by
    rw [readText, h]
    rfl
  rw [hread, textOfBytes_encode]
  rfl

/-- A source without a text in memory is read from disk. -/
theorem Cache.textOf_withDisk {c : Cache} {d : Disk} {path : Path} {text : String}
    (hmemory : c.sources.texts.find? path.text = none)
    (hfile : d.HasFile path.text (Utf8.encode text.toList)) :
  (c.withDisk d).sources.textOf path
    = .ok (String.ofList (Text.normalizeNewlines text.toList))
  := by
  rw [Sources.textOf, withDisk]
  simp only [hmemory]
  rw [Disk.readText_of_hasFile hfile]
  rfl

theorem Cache.textOf_addSource (c : Cache) (path : Path) (text : SourceText) :
  (c.addSource path text).sources.textOf path = .ok text
  := Sources.textOf_insert _ _ _

namespace Message

theorem render_of_textOf {m : Message} {c : Cache} {source : SourceText} (s : Styling)
    (h : c.sources.textOf m.span.path = .ok source) :
  m.render c s = (m.renderOver source c.bindings s).map RichText.painted
  := by
  rw [render, renderRich, h]

/-- A message sees no more of its source than its line. -/
theorem renderOver_congr {m : Message} {source source' : SourceText} (b : Bindings) (s : Styling)
    (h : m.sourceLine source = m.sourceLine source') :
  m.renderOver source b s = m.renderOver source' b s
  := by
  rw [renderOver, renderOver, h]

end Message

/-! ### A disk with one file -/

namespace Disk

/-- A disk with a file of some text. -/
def withFile (text : String) : Disk :=
  empty.insert [['m', '.', 'a', 'n']] (Utf8.encode text.toList)

theorem hasFile_withFile (text : String) :
  (withFile text).HasFile "m.an" (Utf8.encode text.toList)
  := by
  have hplain : (Parts.parse .posix "m.an".toList).text .posix = ['m', '.', 'a', 'n'] := by
    decide
  have hroute : Route.ofText ['m', '.', 'a', 'n'] = ⟨false, [['m', '.', 'a', 'n']], false⟩ := by
    decide
  have hfile : (withFile text).file? ([] ++ [['m', '.', 'a', 'n']])
      = some (Utf8.encode text.toList) := file?_insert _ _ _
  have hstep : (withFile text).step (.directory []) ['m', '.', 'a', 'n']
      = .ok (.file ([] ++ [['m', '.', 'a', 'n']]) (Utf8.encode text.toList)) := by
    rw [step, if_neg (by decide), if_neg (by decide), if_neg (by decide), hfile]
  have hfind : (withFile text).find (Route.ofText ['m', '.', 'a', 'n'])
      = .ok (.file ([] ++ [['m', '.', 'a', 'n']]) (Utf8.encode text.toList)) := by
    have hstart : Place.start ⟨false, [['m', '.', 'a', 'n']], false⟩ = .directory [] := rfl
    rw [hroute, find, walk, hstart, List.foldlM_cons, hstep]
    rfl
  rw [HasFile, hplain, contents, follow, if_neg (by decide), if_neg (by decide),
    if_neg (by decide), hfind]
  rfl

end Disk

/-! ### Showing a line -/

/-- Without a style the pieces of a line are shown as they are. -/
theorem Snippet.painted_rich_plain (pieces : Snippet) :
  (pieces.rich .plain).painted = pieces.before ++ pieces.highlighted ++ pieces.after
  := by
  have hmiddle : (RichText.nonempty .plain pieces.highlighted).painted = pieces.highlighted := by
    rw [RichText.nonempty]
    split
    · rename_i h
      rw [h]
      rfl
    · simp [Fragment.painted]
  rw [rich, RichText.painted_append, RichText.painted_cons, hmiddle]
  simp [Fragment.painted, Fragment.ofText]

namespace Message

/-- A message about no bytes at the start of a line. -/
def atLine (path : Path) (k : Nat) : Message :=
  ⟨⟨path, k + 1, 1, 0, Nat.succ_pos k, Nat.one_pos⟩, .notAFunction (.primitive "Int")⟩

/-- Such a message shows its line and an empty marker line. -/
theorem exists_snippet_atLine (path : Path) (k : Nat) (line : List Char) :
  ∃ r, (atLine path k).snippet line .noColor = .ok r
    ∧ r.painted = String.ofList line ++ "\n\n"
  := by
  obtain ⟨pieces, hline, hsnippet⟩ := (atLine path k).snippet_eq_ok line .noColor
  have hrange : (atLine path k).range (Utf8.encode line) = (0, 0) := by
    rw [range, highlightRange_natCast _ _ _ (atLine path k).span.column_pos]
    simp [atLine]
  refine ⟨_, hsnippet, ?_⟩
  rw [hrange, if_pos (Or.inr rfl), RichText.painted_append, RichText.painted_append,
    show Styling.noColor.wrongPart = .plain from rfl, Snippet.painted_rich_plain, hline,
    String.append_assoc]
  rfl

/-- So over any line it is rendered as some text with the line after it. -/
theorem exists_renderLine_atLine (path : Path) (k : Nat) (b : Bindings) :
  ∃ before, ∀ line : List Char,
    ((atLine path k).renderLine line b .noColor).map RichText.painted
      = .ok (before ++ (String.ofList line ++ "\n\n"))
  := by
  obtain ⟨body, hbody⟩ : ∃ body, (atLine path k).payload.body b .noColor = .ok body := by
    apply Payload.exists_body_iff.mpr
    use rfl
    intro ty hty
    obtain rfl := List.mem_singleton.mp hty
    apply Bindings.nameable_primitive
  use ((atLine path k).header .noColor ++ body).painted
  intro line
  obtain ⟨r, hr, hpainted⟩ := exists_snippet_atLine path k line
  have hline : (atLine path k).renderLine line b .noColor
      = .ok ((atLine path k).header .noColor ++ body ++ r) := by
    rw [renderLine, hbody, hr]
    rfl
  rw [hline, ← hpainted, ← RichText.painted_append]
  rfl

/-- Over two strings such a message is rendered alike only if its line is the same. -/
theorem line_eq_of_renderOver_atLine {path : Path} {k : Nat} {source source' : String}
    {b : Bindings}
    (h : ((atLine path k).renderOver source b .noColor).map RichText.painted
      = ((atLine path k).renderOver source' b .noColor).map RichText.painted) :
  (Text.lines source.toList)[k]?.getD [] = (Text.lines source'.toList)[k]?.getD []
  := by
  obtain ⟨before, hbefore⟩ := exists_renderLine_atLine path k b
  rw [renderOver_of_sourceLine _ _ (sourceLine_ofString _ source),
    renderOver_of_sourceLine _ _ (sourceLine_ofString _ source'), hbefore, hbefore,
    Except.ok.injEq, String.append_right_inj, String.append_left_inj] at h
  exact String.ofList_injective h

/-- A source in memory cannot be told from a file with the same text exactly when every
carriage return in it ends a line. -/
theorem render_addSource_iff {c : Cache} {d : Disk} {path : Path} {text : String}
    (hmemory : c.sources.texts.find? path.text = none)
    (hfile : d.HasFile path.text (Utf8.encode text.toList)) :
  (∀ (m : Message) (s : Styling), m.span.path = path →
      m.render (c.addSource path text) s = m.render (c.withDisk d) s)
    ↔ Text.ReturnsEndLines text.toList
  := by
  have hrender : ∀ (m : Message) (s : Styling), m.span.path = path →
      m.render (c.addSource path text) s = (m.renderOver text c.bindings s).map RichText.painted
        ∧ m.render (c.withDisk d) s
          = (m.renderOver (String.ofList (Text.normalizeNewlines text.toList)) c.bindings s).map
            RichText.painted := by
    rintro m s rfl
    constructor
    · apply render_of_textOf s (c.textOf_addSource _ _)
    · apply render_of_textOf s (Cache.textOf_withDisk hmemory hfile)
  constructor
  · intro h
    by_contra hreturns
    obtain ⟨k, hk⟩ := Text.exists_line_ne hreturns
    have hsame := h (atLine path k) .noColor rfl
    obtain ⟨hadd, hdisk⟩ := hrender (atLine path k) .noColor rfl
    rw [hadd, hdisk] at hsame
    have hline := line_eq_of_renderOver_atLine hsame
    rw [String.toList_ofList] at hline
    exact hk hline.symm
  · intro hreturns m s hpath
    obtain ⟨hadd, hdisk⟩ := hrender m s hpath
    have hline : m.sourceLine text
        = m.sourceLine (String.ofList (Text.normalizeNewlines text.toList)) := by
      rw [sourceLine_ofString, sourceLine_ofString, String.toList_ofList,
        Text.lines_normalizeNewlines hreturns]
    rw [hadd, hdisk, renderOver_congr c.bindings s hline]

/-- A text with a carriage return before its line feed, in memory and on disk. -/
theorem render_addSource_return_feed :
  Cache.empty.sources.texts.find? (Path.written "m.an").text = none
    ∧ (Disk.withFile "a\r\nb").HasFile (Path.written "m.an").text (Utf8.encode "a\r\nb".toList)
    ∧ ∀ (m : Message) (s : Styling), m.span.path = .written "m.an" →
      m.render (Cache.empty.addSource (.written "m.an") "a\r\nb") s
        = m.render (Cache.empty.withDisk (Disk.withFile "a\r\nb")) s
  := by
  refine ⟨rfl, Disk.hasFile_withFile _, ?_⟩
  apply (@render_addSource_iff .empty (Disk.withFile "a\r\nb") (.written "m.an") "a\r\nb" rfl
    (Disk.hasFile_withFile _)).mpr
  decide

/-- A carriage return inside a line is kept in memory and ends the line on disk. -/
theorem not_forall_render_addSource :
  ¬ ∀ (c : Cache) (d : Disk) (path : Path) (text : String),
    c.sources.texts.find? path.text = none → d.HasFile path.text (Utf8.encode text.toList) →
      ∀ (m : Message) (s : Styling), m.span.path = path →
        m.render (c.addSource path text) s = m.render (c.withDisk d) s
  := by
  intro h
  have hsame := h .empty (Disk.withFile "a\rb") (.written "m.an") "a\rb" rfl (Disk.hasFile_withFile _)
    (atLine (.written "m.an") 0) .noColor rfl
  have hmemory := @render_of_textOf (atLine (.written "m.an") 0) _ _ .noColor
    (Cache.empty.textOf_addSource (.written "m.an") "a\rb")
  have hdisk := @render_of_textOf (atLine (.written "m.an") 0) _ _ .noColor
    (@Cache.textOf_withDisk .empty _ (.written "m.an") _ rfl (Disk.hasFile_withFile "a\rb"))
  rw [hmemory, hdisk] at hsame
  have hline := line_eq_of_renderOver_atLine hsame
  revert hline
  decide

end Message

end Diagnostics
