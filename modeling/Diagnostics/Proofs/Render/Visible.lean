import Diagnostics.Proofs.Render.Parts
import Diagnostics.Proofs.Style.Visible

/-!
# What is visible of a message

A styling only decides which styles stand around the texts of a message, and whether there is a
marker line. With the styles of a styling taken away a message has the same texts unstyled, or
fails alike: `Message.renderRich_unstyled`. Where neither the path nor the types nor the source
line bring an escape character, these texts are also all that a terminal shows of the message.
-/

namespace Diagnostics

open Terminal

namespace Styling

/-- The styling without any emphasis that underlines like another one. -/
def unstyled (s : Styling) : Styling :=
  { noColor with underline := s.underline }

/-- Whether every style is built from the plain one by adding emphases. -/
def IsBuilt (s : Styling) : Prop :=
  ∀ style ∈ s.styles, style.IsBuilt

theorem isBuilt_colored : colored.IsBuilt
  := by
  intro style hstyle
  simp only [styles, colored, List.mem_cons, List.not_mem_nil, or_false] at hstyle
  rcases hstyle with rfl | rfl | rfl | rfl | rfl | rfl | rfl | rfl
  all_goals apply Style.isBuilt_ofList

end Styling

/-! ### Without styles -/

theorem Bindings.styledName_plain (b : Bindings) (style : Style) (ty : Ty) :
  b.styledName .plain ty = (b.styledName style ty).map Fragment.unstyled
  := by
  rw [styledName, styledName]
  cases b.nameOf ty with
  | error cause => rfl
  | ok name => rfl

/-- Without styles the line about a payload has the same texts, or is missing alike. -/
theorem Payload.body_unstyled (p : Payload) (b : Bindings) (s : Styling) :
  p.body b s.unstyled = (p.body b s).map RichText.unstyled
  := by
  cases p with
  | mismatchedParameters expected got =>
    simp only [body, Styling.unstyled, Styling.noColor, b.styledName_plain s.typeName expected,
      b.styledName_plain s.wrongType got, map_bind_eq, bind_map_eq]
    rfl
  | refRequired got =>
    simp only [body, Styling.unstyled, Styling.noColor, b.styledName_plain s.wrongType got,
      map_bind_eq, bind_map_eq]
    rfl
  | cannotAssign expected got =>
    simp only [body, Styling.unstyled, Styling.noColor, b.styledName_plain s.wrongType got,
      b.styledName_plain s.typeName expected, map_bind_eq, bind_map_eq]
    rfl
  | notAFunction got =>
    simp only [body, Styling.unstyled, Styling.noColor, b.styledName_plain s.wrongType got,
      map_bind_eq, bind_map_eq]
    rfl
  | parameterCount function got expected =>
    simp only [body, Styling.unstyled, Styling.noColor, b.styledName_plain s.wrongType function,
      map_bind_eq, bind_map_eq]
    rfl
  | _ => rfl

theorem Snippet.unstyled_rich (pieces : Snippet) (style : Style) :
  RichText.unstyled (pieces.rich style) = pieces.rich .plain
  := by
  rw [rich, RichText.unstyled_append, RichText.unstyled_cons, RichText.unstyled_nonempty]
  rfl

namespace Message

theorem snippet_unstyled (m : Message) (line : List Char) (s : Styling) :
  m.snippet line s.unstyled = (m.snippet line s).map RichText.unstyled
  := by
  simp only [snippet]
  cases Snippet.cut (Utf8.encode line) (m.range (Utf8.encode line)).1
      (m.range (Utf8.encode line)).2 with
  | error fault => rfl
  | ok pieces =>
    simp only [Except.map, RichText.unstyled_append, Snippet.unstyled_rich]
    by_cases hdue : s.underline = true
        ∨ (m.range (Utf8.encode line)).1 = (m.range (Utf8.encode line)).2
    · have hdue' : s.unstyled.underline = true ∨ _ := hdue
      rw [if_pos hdue, if_pos hdue']
      rfl
    · have hdue' : ¬ (s.unstyled.underline = true ∨ _) := hdue
      rw [if_neg hdue, if_neg hdue']
      rfl

theorem header_unstyled (m : Message) (s : Styling) :
  m.header s.unstyled = RichText.unstyled (m.header s)
  := by
  rw [header, header]
  cases m.severity with
  | error => rfl
  | warning => rfl
  | note => rfl

/-- Without styles a message has the same texts, or fails alike. -/
theorem renderRich_unstyled (m : Message) (c : Cache) (s : Styling) :
  m.renderRich c s.unstyled = (m.renderRich c s).map RichText.unstyled
  := by
  rw [renderRich, renderRich]
  cases c.sources.textOf m.span.path with
  | error cause => rfl
  | ok source =>
    simp only [renderOver]
    cases m.sourceLine source with
    | error fault => rfl
    | ok line =>
      simp only [renderLine, m.payload.body_unstyled, snippet_unstyled, header_unstyled,
        map_bind_eq, bind_map_eq]
      simp [pure, Except.pure, Except.map]

end Message

/-! ### No codes but those of the styles -/

theorem Fragment.LacksInLine.clean {s : Styling} {f : Fragment} (h : f.LacksInLine s escape)
    (hs : s.IsBuilt) :
  f.Clean
  := by
  rcases h with h | ⟨text, rfl, htext⟩
  · constructor
    · rcases h.style with hplain | hmem
      · rw [hplain]
        apply Style.isBuilt_ofList []
      · apply hs _ hmem
    · apply h.text
  · have hfeed : escape ∉ "\n".toList := by decide
    rw [clean_ofText_iff, String.toList_append, List.mem_append, not_or]
    exact ⟨htext, hfeed⟩

namespace Message

variable {m : Message} {s : Styling}

/-- Whether a message brings no escape character of its own: not in its path, in the names of
its types or in its source line. -/
structure EscapeFree (m : Message) (c : Cache) : Prop where
  path : escape ∉ m.span.path.display.toList
  types : ∀ ty ∈ m.payload.types, ∀ name, c.bindings.nameOf ty = .ok name →
    escape ∉ name.toList
  line : ∀ source line, c.sources.textOf m.span.path = .ok source →
    m.sourceLine source = .ok line → escape ∉ line

theorem clean_of_mem_renderRich {c : Cache} {r : RichText} (hs : s.IsBuilt) (hm : m.EscapeFree c)
    (h : m.renderRich c s = .ok r) :
  ∀ f ∈ r, f.Clean
  := by
  intro f hf
  apply Fragment.LacksInLine.clean _ hs
  apply lacksInLine_of_mem_renderRich (by decide) hm.path hm.types hm.line h f hf

/-! ### Carets -/

/-- The marker line of a message, where it highlights anything. -/
def carets (m : Message) (line : List Char) : RichText :=
  let raw := Utf8.encode line
  if (m.range raw).1 = (m.range raw).2 then []
  else [.ofText (Snippet.marker (m.range raw).1 (m.range raw).2 ++ "\n")]

theorem snippet_underline (m : Message) (line : List Char) (s : Styling) :
  m.snippet line { s with underline := true }
    = (m.snippet line { s with underline := false }).map (· ++ m.carets line)
  := by
  simp only [snippet, carets]
  cases Snippet.cut (Utf8.encode line) (m.range (Utf8.encode line)).1
      (m.range (Utf8.encode line)).2 with
  | error fault => rfl
  | ok pieces =>
    by_cases hempty : (m.range (Utf8.encode line)).1 = (m.range (Utf8.encode line)).2
    · simp [Except.map, hempty]
    · simp [Except.map, hempty]

/-- Underlining adds the carets of what is highlighted. -/
theorem renderLine_underline (m : Message) (line : List Char) (b : Bindings) (s : Styling) :
  m.renderLine line b { s with underline := true }
    = (m.renderLine line b { s with underline := false }).map (· ++ m.carets line)
  := by
  -- only the snippet looks at how the part at fault is marked
  have hbody : ∀ underline, m.payload.body b { s with underline := underline }
      = m.payload.body b s := by
    intro underline
    cases m.payload <;> rfl
  have hheader : ∀ underline, m.header { s with underline := underline } = m.header s := by
    intro underline
    rw [header, header]
    cases m.severity <;> rfl
  simp only [renderLine, hbody, hheader, snippet_underline, map_bind_eq, bind_map_eq]
  simp [pure, Except.pure, Except.map]

theorem renderRich_underline (m : Message) {c : Cache} (s : Styling) {source : SourceText}
    {line : List Char} (h : c.sources.textOf m.span.path = .ok source)
    (hline : m.sourceLine source = .ok line) :
  m.renderRich c { s with underline := true }
    = (m.renderRich c { s with underline := false }).map (· ++ m.carets line)
  := by
  rw [renderRich, renderRich, h]
  simp only [renderOver_of_sourceLine _ _ hline]
  apply renderLine_underline

/-! ### Visible text -/

/-- What a terminal shows of a message is the message without styles. -/
theorem map_visible_render {c : Cache} (hs : s.IsBuilt) (hm : m.EscapeFree c) :
  (m.render c s).map visible = m.render c s.unstyled
  := by
  rw [render, render, renderRich_unstyled]
  cases h : m.renderRich c s with
  | error cause => rfl
  | ok r =>
    simp only [Except.map, RichText.painted_unstyled]
    rw [RichText.visible_painted (clean_of_mem_renderRich hs hm h)]

/-- Styles change nothing that a terminal shows of a message, and no error either. In colour the
carets of what is highlighted are left out. -/
theorem visible_render {c : Cache} (hm : m.EscapeFree c) :
  (∀ s : Styling, s.IsBuilt → (m.render c s).map visible = m.render c s.unstyled)
    ∧ ∀ text, m.render c .colored = .ok text →
      ∃ source line, c.sources.textOf m.span.path = .ok source ∧ m.sourceLine source = .ok line ∧
        let low := (m.range (Utf8.encode line)).1
        let high := (m.range (Utf8.encode line)).2
        (low = high → m.render c .noColor = .ok (visible text))
          ∧ (low < high →
            m.render c .noColor = .ok (visible text ++ (Snippet.marker low high ++ "\n")))
  := by
  constructor
  · intro s hs
    apply map_visible_render hs hm
  · intro text htext
    have hplain : m.render c Styling.colored.unstyled = .ok (visible text) := by
      rw [← map_visible_render Styling.isBuilt_colored hm, htext]
      rfl
    obtain ⟨r, hr, hpainted⟩ := map_eq_ok_iff.mp hplain
    obtain ⟨source, line, hsource, hline, -⟩ := renderRich_eq_ok_iff.mp hr
    have hunderline : m.renderRich c .noColor
        = (m.renderRich c Styling.colored.unstyled).map (· ++ m.carets line) :=
      m.renderRich_underline .noColor hsource hline
    have hcolor : m.render c .noColor = .ok (visible text ++ (m.carets line).painted) := by
      rw [render, hunderline, hr, ← hpainted, ← RichText.painted_append]
      rfl
    use source, line, hsource, hline
    rw [carets] at hcolor
    constructor
    · intro hempty
      rw [hcolor, if_pos hempty, RichText.painted_nil, String.append_empty]
    · intro hrange
      rw [hcolor, if_neg (Nat.ne_of_lt hrange)]
      simp [Fragment.painted, Fragment.ofText]

/-- A source line of three characters, one of them in two bytes. -/
def accented : Cache :=
  Cache.empty.addSource (.written "main.an") "aéb"

/-- A message about the character in two bytes. -/
def aboutAccent : Message :=
  ⟨⟨.written "main.an", 1, 2, 2, by decide, by decide⟩, .refRequired .int⟩

theorem textOf_accented :
  accented.sources.textOf aboutAccent.span.path = .ok "aéb"
  := Sources.textOf_insert _ _ _

theorem eq_of_sourceLine_accented {source : SourceText} {line : List Char}
    (h : accented.sources.textOf aboutAccent.span.path = .ok source)
    (hline : aboutAccent.sourceLine source = .ok line) :
  line = ['a', 'é', 'b']
  := by
  rw [← Except.ok.inj (textOf_accented.symm.trans h)] at hline
  apply (Except.ok.inj hline).symm

theorem escapeFree_aboutAccent :
  aboutAccent.EscapeFree accented
  := by
  constructor
  · decide
  · apply Payload.not_mem_of_nameOf rfl (by decide)
  · intro source line h hline
    rw [eq_of_sourceLine_accented h hline]
    decide

theorem exists_render_aboutAccent (s : Styling) :
  ∃ text, aboutAccent.render accented s = .ok text
  := by
  apply exists_render_of_primitive s textOf_accented rfl rfl

/-- Its rendering in colour, and the carets that it has without. -/
theorem visible_render_aboutAccent :
  aboutAccent.EscapeFree accented
    ∧ (∀ s : Styling, s.IsBuilt →
      (aboutAccent.render accented s).map visible = aboutAccent.render accented s.unstyled)
    ∧ ∃ text, aboutAccent.render accented .colored = .ok text
      ∧ aboutAccent.render accented .noColor = .ok (visible text ++ (Snippet.marker 1 3 ++ "\n"))
  := by
  obtain ⟨text, htext⟩ := exists_render_aboutAccent .colored
  obtain ⟨hvisible, hcarets⟩ := visible_render escapeFree_aboutAccent
  obtain ⟨source, line, h, hline, -, hrange⟩ := hcarets text htext
  obtain rfl := eq_of_sourceLine_accented h hline
  exact ⟨escapeFree_aboutAccent, hvisible, text, htext, hrange (by decide)⟩

end Message

end Diagnostics
