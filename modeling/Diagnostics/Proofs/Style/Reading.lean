import Diagnostics.Proofs.Style.Visible

/-!
# Texts as a terminal reads them

A terminal reads a text from left to right. The code of an emphasis switches the emphasis on and the
reset code switches all of them off; within a code the terminal has to remember what it has read of
it. A text is `Tidy` when it leaves the terminal as it was, with no emphasis on at any line feed on
the way and no escape character outside a code. Tidy texts one after the other are tidy, so rich
text is tidy where its fragments are: `RichText.tidy_painted`.
-/

namespace Diagnostics

/-- All emphases. -/
def Emphasis.all : List Emphasis := [bold, italic, red, green, yellow, blue, purple]

namespace Terminal

/-! ### Commands -/

/-- A code has an escape character only in front and the letter at its end nowhere else. -/
theorem exists_toList_terminalCode {number : String} (h : number.toList.all inCode = true) :
  ∃ body, (terminalCode number).toList = escape :: body ++ ['m']
    ∧ ∀ c ∈ body, c ≠ escape ∧ c ≠ 'm'
  := by
  use '[' :: number.toList
  constructor
  · rw [terminalCode, String.toList_append, String.toList_append]
    rfl
  · rw [List.forall_mem_cons]
    constructor
    · decide
    · intro c hc
      have hcode := List.all_eq_true.mp h c hc
      constructor
      · rintro rfl
        contradiction
      · rintro rfl
        contradiction

/-- What a code tells a terminal to do. -/
inductive Command where
  /-- To switch an emphasis on. -/
  | emphasize (e : Emphasis)
  /-- To switch all emphases off. -/
  | reset
deriving DecidableEq

namespace Command

/-- All commands. -/
def all : List Command := reset :: Emphasis.all.map emphasize

/-- The code of a command. -/
def code : Command → String
  | emphasize e => e.code
  | reset => resetCode

/-- The command of a code. -/
def ofCode? (code : List Char) : Option Command :=
  all.find? (fun k => k.code.toList = code)

/-- The emphases that are on after a command. -/
def apply (on : List Emphasis) : Command → List Emphasis
  | emphasize e => e :: on
  | reset => []

theorem ofCode?_code (k : Command) :
  ofCode? k.code.toList = some k
  := by
  cases k with
  | emphasize e => cases e <;> decide
  | reset => decide

theorem exists_toList_code (k : Command) :
  ∃ body, k.code.toList = escape :: body ++ ['m'] ∧ ∀ c ∈ body, c ≠ escape ∧ c ≠ 'm'
  := by
  cases k with
  | emphasize e => apply exists_toList_terminalCode e.all_inCode_number
  | reset => apply exists_toList_terminalCode (by decide)

end Command

/-! ### Reading -/

/-- What a terminal remembers of the text it has read. -/
structure Memory where
  /-- The emphases that are switched on, the last one first. -/
  on : List Emphasis
  /-- The code that has begun, from its escape character on. -/
  pending : List Char

namespace Memory

/-- Nothing to remember. -/
def blank : Memory := ⟨[], []⟩

/-- Reads a character. Any escape character begins a code, which takes effect with the letter at its
end, if it is the code of a command. -/
def step (m : Memory) (c : Char) : Memory :=
  if c = escape then ⟨m.on, [c]⟩
  else if m.pending = [] then m
  else if c = 'm' then
    match Command.ofCode? (m.pending ++ [c]) with
    | some k => ⟨k.apply m.on, []⟩
    | none => ⟨m.on, []⟩
  else ⟨m.on, m.pending ++ [c]⟩

/-- Reads a text. -/
def read (m : Memory) (text : List Char) : Memory :=
  text.foldl step m

theorem read_cons (m : Memory) (c : Char) (text : List Char) :
  m.read (c :: text) = (m.step c).read text
  := rfl

theorem read_append (m : Memory) (text text' : List Char) :
  m.read (text ++ text') = (m.read text).read text'
  := List.foldl_append

/-- Outside codes only an escape character changes anything. -/
theorem read_of_not_mem (on : List Emphasis) {text : List Char} (h : escape ∉ text) :
  read ⟨on, []⟩ text = ⟨on, []⟩
  := by
  induction text with
  | nil => rfl
  | cons c text ih =>
    rw [List.mem_cons, not_or] at h
    have hstep : step ⟨on, []⟩ c = ⟨on, []⟩ := by rw [step, if_neg (Ne.symm h.1), if_pos rfl]
    rw [read_cons, hstep, ih h.2]

/-- Within a code characters are remembered up to the letter at its end. -/
theorem read_pending (on : List Emphasis) {pending body : List Char} (hpending : pending ≠ [])
    (h : ∀ c ∈ body, c ≠ escape ∧ c ≠ 'm') :
  read ⟨on, pending⟩ body = ⟨on, pending ++ body⟩
  := by
  induction body generalizing pending with
  | nil =>
    rw [List.append_nil]
    rfl
  | cons c body ih =>
    obtain ⟨hc, hbody⟩ := List.forall_mem_cons.mp h
    have hstep : step ⟨on, pending⟩ c = ⟨on, pending ++ [c]⟩ := by
      rw [step, if_neg hc.1, if_neg hpending, if_neg hc.2]
    rw [read_cons, hstep, ih (by simp) hbody, List.append_assoc, List.singleton_append]

/-- The code of a command takes effect. -/
theorem read_code (on : List Emphasis) (k : Command) :
  read ⟨on, []⟩ k.code.toList = ⟨k.apply on, []⟩
  := by
  obtain ⟨body, hcode, hbody⟩ := k.exists_toList_code
  have hbegin : step ⟨on, []⟩ escape = ⟨on, [escape]⟩ := if_pos rfl
  have hend : step ⟨on, escape :: body⟩ 'm' = ⟨k.apply on, []⟩ := by
    rw [step, if_neg (by decide), if_neg (List.cons_ne_nil _ _), if_pos rfl, ← hcode,
      Command.ofCode?_code]
  have hread := read_pending on (List.cons_ne_nil escape []) hbody
  rw [hcode, List.cons_append, read_cons, hbegin, read_append, hread, List.singleton_append]
  apply hend

end Memory

/-- The emphases that are on when a text has been read. -/
def switchedOn (text : List Char) : List Emphasis :=
  (Memory.blank.read text).on

/-! ### Tidy texts -/

/-- Whether every escape character of a text begins the code of a command. -/
def Coded (text : List Char) : Prop :=
  ∀ before after, text = before ++ escape :: after → ∃ k : Command, k.code.toList <+: escape :: after

/-- Whether a text leaves a terminal as it was, with no emphasis on at any of its line feeds, and has
no escape character but those that begin codes. -/
structure Tidy (text : List Char) : Prop where
  read_eq : Memory.blank.read text = .blank
  feed : ∀ before after, text = before ++ '\n' :: after → switchedOn before = []
  coded : Coded text

/-- An occurrence in two texts one after the other is in the first or in the second. -/
theorem eq_append_cons_cases {text text' before after : List Char} {c : Char}
    (h : text ++ text' = before ++ c :: after) :
  (∃ rest, text = before ++ c :: rest ∧ after = rest ++ text')
    ∨ ∃ start, before = text ++ start ∧ text' = start ++ c :: after
  := by
  rcases List.append_eq_append_iff.mp h with ⟨start, hbefore, htext'⟩ | ⟨rest, htext, hafter⟩
  · right
    use start, hbefore, htext'
  · cases rest with
    | nil =>
      right
      use []
      simpa [htext] using hafter.symm
    | cons c' rest =>
      left
      rw [List.cons_append, List.cons_eq_cons] at hafter
      obtain ⟨rfl, hafter⟩ := hafter
      use rest, htext, hafter

theorem coded_of_not_mem {text : List Char} (h : escape ∉ text) :
  Coded text
  := by
  rintro before after rfl
  exact absurd (by simp) h

theorem coded_code (k : Command) :
  Coded k.code.toList
  := by
  intro before after h
  use k
  cases before with
  | nil =>
    rw [h]
    apply List.prefix_rfl
  | cons c before =>
    obtain ⟨body, hcode, hbody⟩ := k.exists_toList_code
    rw [hcode, List.cons_append, List.cons_append, List.cons_eq_cons] at h
    have hmem : escape ∈ body ++ ['m'] := by simp [h.2]
    rcases List.mem_append.mp hmem with hmem | hmem
    · exact absurd rfl (hbody escape hmem).1
    · contradiction

theorem Coded.append {text text' : List Char} (h : Coded text) (h' : Coded text') :
  Coded (text ++ text')
  := by
  intro before after heq
  rcases eq_append_cons_cases heq with ⟨rest, htext, rfl⟩ | ⟨start, -, htext'⟩
  · obtain ⟨k, hk⟩ := h before rest htext
    use k
    apply hk.trans
    use text'
    rfl
  · apply h' start after htext'

theorem tidy_of_not_mem {text : List Char} (h : escape ∉ text) :
  Tidy text
  := by
  refine ⟨Memory.read_of_not_mem [] h, ?_, coded_of_not_mem h⟩
  rintro before after rfl
  have hbefore : escape ∉ before := fun hmem => h (List.mem_append_left _ hmem)
  rw [switchedOn, Memory.blank, Memory.read_of_not_mem [] hbefore]

/-- Tidy texts one after the other are tidy. -/
theorem Tidy.append {text text' : List Char} (h : Tidy text) (h' : Tidy text') :
  Tidy (text ++ text')
  := by
  constructor
  · rw [Memory.read_append, h.read_eq, h'.read_eq]
  · intro before after heq
    rcases eq_append_cons_cases heq with ⟨rest, htext, -⟩ | ⟨start, rfl, htext'⟩
    · apply h.feed before rest htext
    · rw [switchedOn, Memory.read_append, h.read_eq]
      apply h'.feed start after htext'
  · apply h.coded.append h'.coded

end Terminal

open Terminal

namespace Style

/-- The codes of a style switch its emphases on. -/
theorem read_opening (on es : List Emphasis) :
  Memory.read ⟨on, []⟩ (ofList es).opening.toList = ⟨es.reverse ++ on, []⟩
  := by
  rw [opening, codes_ofList]
  induction es generalizing on with
  | nil => rfl
  | cons e es ih =>
    have he : Memory.read ⟨on, []⟩ e.code.toList = ⟨e :: on, []⟩ :=
      Memory.read_code on (.emphasize e)
    rw [List.map_cons, String.join_cons, String.toList_append, Memory.read_append, he, ih,
      List.reverse_cons, List.append_assoc, List.singleton_append]

example : switchedOn (ofList [.bold, .red]).opening.toList = [.red, .bold] := by decide

theorem coded_opening (es : List Emphasis) :
  Coded (ofList es).opening.toList
  := by
  rw [opening, codes_ofList]
  induction es with
  | nil => exact coded_of_not_mem List.not_mem_nil
  | cons e es ih =>
    rw [List.map_cons, String.join_cons, String.toList_append]
    apply (coded_code (.emphasize e)).append ih

/-- A text in a style is tidy when it stays within a line. -/
theorem tidy_paint {s : Style} (hs : s.IsBuilt) {text : String} (htext : escape ∉ text.toList)
    (hfeed : '\n' ∉ (s.paint text).toList) :
  Tidy (s.paint text).toList
  := by
  obtain ⟨es, rfl⟩ := hs
  rw [paint] at hfeed ⊢
  split
  · apply tidy_of_not_mem htext
  · rename_i hopening
    rw [if_neg hopening] at hfeed
    rw [String.toList_append, String.toList_append] at hfeed ⊢
    constructor
    · have hreset : Memory.read ⟨es.reverse, []⟩ resetCode.toList = ⟨[], []⟩ :=
        Memory.read_code es.reverse .reset
      rw [Memory.read_append, Memory.read_append, Memory.blank, read_opening, List.append_nil,
        Memory.read_of_not_mem es.reverse htext, hreset]
    · intro before after heq
      rw [heq] at hfeed
      exact absurd (by simp) hfeed
    · apply ((coded_opening es).append (coded_of_not_mem htext)).append (coded_code .reset)

end Style

namespace RichText

/-- Rich text is tidy when its fragments have no codes of their own and none in a style has a line
feed. -/
theorem tidy_painted {r : RichText} (h : ∀ f ∈ r, f.Clean)
    (hfeed : ∀ f ∈ r, f.style = .plain ∨ '\n' ∉ f.painted.toList) :
  Tidy (painted r).toList
  := by
  induction r with
  | nil => exact tidy_of_not_mem List.not_mem_nil
  | cons f r ih =>
    obtain ⟨hf, hr⟩ := List.forall_mem_cons.mp h
    obtain ⟨hfeedf, hfeedr⟩ := List.forall_mem_cons.mp hfeed
    have hfragment : Tidy f.painted.toList := by
      rcases hfeedf with hplain | hfeedf
      · rw [Fragment.painted, hplain, Style.paint_plain]
        apply tidy_of_not_mem hf.text
      · apply Style.tidy_paint hf.style hf.text hfeedf
    rw [painted_cons, String.toList_append]
    apply hfragment.append (ih hr hfeedr)

end RichText

end Diagnostics
