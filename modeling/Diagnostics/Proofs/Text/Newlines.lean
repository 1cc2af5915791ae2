import Diagnostics.Proofs.Text.Split
import Diagnostics.Text.Lines

/-!
# Lines of a text and of the text read from disk

Reading a file turns every carriage return into a line feed or drops it in front of one,
while a text in memory keeps its carriage returns and only its lines lose one at their
ends. `ReturnsEndLines` says when this comes to the same: where every carriage return ends
a line. Otherwise some line of the two texts differs.
-/

namespace Diagnostics.Text

/-! ### The lines of a longer text -/

/-- A character at the front of the first line, which is a new one where there is none. -/
def consLine (c : Char) : List (List Char) → List (List Char)
  | [] => [[c]]
  | line :: rest => (c :: line) :: rest

theorem dropFinalEmpty_cons (segment : List Char) {segments : List (List Char)}
    (h : segments ≠ []) :
  dropFinalEmpty (segment :: segments) = segment :: dropFinalEmpty segments
  := by
  obtain ⟨next, rest, rfl⟩ := List.exists_cons_of_ne_nil h
  rw [dropFinalEmpty, dropFinalEmpty, List.getLast?_cons_cons]
  split
  · rfl
  · rfl

theorem dropFinalEmpty_append (before : List (List Char)) {after : List (List Char)}
    (h : after ≠ []) :
  dropFinalEmpty (before ++ after) = before ++ dropFinalEmpty after
  := by
  induction before with
  | nil => rfl
  | cons segment before ih =>
    rw [List.cons_append, dropFinalEmpty_cons _ (List.append_ne_nil_of_right_ne_nil _ h), ih,
      List.cons_append]

theorem dropFinal_cons (last c : Char) {segment : List Char} (h : segment ≠ []) :
  dropFinal last (c :: segment) = c :: dropFinal last segment
  := by
  obtain ⟨next, rest, rfl⟩ := List.exists_cons_of_ne_nil h
  rw [dropFinal, dropFinal, List.getLast?_cons_cons]
  split
  · rfl
  · rfl

@[simp]
theorem dropFinal_nil (last : Char) :
  dropFinal last [] = []
  := rfl

/-- A line feed ends the last segment before it, empty or not. -/
theorem lines_append_feed (before after : List Char) :
  lines (before ++ '\n' :: after) = (split '\n' before).map (dropFinal '\r') ++ lines after
  := by
  rw [lines, linesBy, lines, linesBy, split_append, dropFinalEmpty_append _ (split_ne_nil _ _),
    List.map_append]

/-- A line feed ends an empty line. -/
theorem lines_feed (text : List Char) :
  lines ('\n' :: text) = [] :: lines text
  := lines_append_feed [] text

/-- So does a line feed after a carriage return. -/
theorem lines_return_feed (text : List Char) :
  lines ('\r' :: '\n' :: text) = [] :: lines text
  := lines_append_feed ['\r'] text

/-- Any other character stands at the front of the first line. -/
theorem lines_cons {c : Char} {text : List Char} (h : c ≠ '\n')
    (hreturn : c = '\r' → text ≠ [] ∧ text.head? ≠ some '\n') :
  lines (c :: text) = consLine c (lines text)
  := by
  obtain ⟨segment, segments, hsplit⟩ := List.exists_cons_of_ne_nil (split_ne_nil '\n' text)
  have hdrop : dropFinal '\r' (c :: segment) = c :: dropFinal '\r' segment := by
    by_cases hsegment : segment = []
    · have hc : c ≠ '\r' := by
        intro hc
        obtain ⟨hnil, hhead⟩ := hreturn hc
        exact ne_nil_of_split_eq_cons hsplit hnil hhead hsegment
      simp [hsegment, dropFinal, hc]
    · exact dropFinal_cons _ c hsegment
  rw [lines, linesBy, lines, linesBy, split, if_neg h, hsplit, List.modifyHead_cons]
  cases segments with
  | nil =>
    by_cases hsegment : segment = []
    · simpa [hsegment, dropFinalEmpty, consLine] using hdrop
    · simpa [hsegment, dropFinalEmpty, consLine] using hdrop
  | cons next rest =>
    rw [dropFinalEmpty_cons _ (List.cons_ne_nil _ _), dropFinalEmpty_cons _ (List.cons_ne_nil _ _),
      List.map_cons, List.map_cons, hdrop]
    rfl

/-! ### Reading line ends -/

/-- Whether every carriage return in a text stands before a line feed or at the end. -/
def ReturnsEndLines (text : List Char) : Prop :=
  ∀ before after, text = before ++ '\r' :: after → after = [] ∨ after.head? = some '\n'

theorem returnsEndLines_nil :
  ReturnsEndLines []
  := by
  intro before after h
  simp at h

theorem returnsEndLines_cons_iff {c : Char} {text : List Char} :
  ReturnsEndLines (c :: text)
    ↔ (c = '\r' → text = [] ∨ text.head? = some '\n') ∧ ReturnsEndLines text
  := by
  constructor
  · intro h
    constructor
    · rintro rfl
      exact h [] text rfl
    · rintro before after rfl
      exact h (c :: before) after rfl
  · rintro ⟨hc, htext⟩ before after heq
    cases before with
    | nil =>
      obtain ⟨rfl, rfl⟩ := List.cons_eq_cons.mp heq
      exact hc rfl
    | cons c' before =>
      obtain ⟨rfl, rfl⟩ := List.cons_eq_cons.mp heq
      exact htext before after rfl

instance decidableReturnsEndLines : (text : List Char) → Decidable (ReturnsEndLines text)
  | [] => isTrue returnsEndLines_nil
  | _ :: text =>
    have := decidableReturnsEndLines text
    decidable_of_iff' _ returnsEndLines_cons_iff

/-- Where carriage returns only end lines, reading from disk changes no line. -/
theorem lines_normalizeNewlines {text : List Char} (h : ReturnsEndLines text) :
  lines (normalizeNewlines text) = lines text
  := by
  fun_induction normalizeNewlines text with
  | case1 => rfl
  | case2 rest ih =>
    have hrest := (returnsEndLines_cons_iff.mp (returnsEndLines_cons_iff.mp h).2).2
    rw [lines_feed, lines_return_feed, ih hrest]
  | case3 c rest hpair ih =>
    obtain ⟨hc, hrest⟩ := returnsEndLines_cons_iff.mp h
    by_cases hreturn : c = '\r'
    · obtain rfl : rest = [] := by
        obtain hnil | hhead := hc hreturn
        · exact hnil
        · obtain ⟨rest', rfl⟩ := List.head?_eq_some_iff.mp hhead
          exact absurd rfl (hpair rest' hreturn)
      rw [hreturn]
      rfl
    · rw [if_neg hreturn]
      by_cases hfeed : c = '\n'
      · rw [hfeed, lines_feed, lines_feed, ih hrest]
      · rw [lines_cons hfeed (fun h => absurd h hreturn),
          lines_cons hfeed (fun h => absurd h hreturn), ih hrest]

@[simp]
theorem getElem?_consLine_zero (c : Char) (ls : List (List Char)) :
  (consLine c ls)[0]?.getD [] = c :: ls[0]?.getD []
  := by
  cases ls <;> rfl

@[simp]
theorem getElem?_consLine_succ (c : Char) (ls : List (List Char)) (k : Nat) :
  (consLine c ls)[k + 1]? = ls[k + 1]?
  := by
  cases ls <;> rfl

/-- Otherwise it changes one. -/
theorem exists_line_ne {text : List Char} (h : ¬ ReturnsEndLines text) :
  ∃ k : Nat, (lines (normalizeNewlines text))[k]?.getD [] ≠ (lines text)[k]?.getD []
  := by
  fun_induction normalizeNewlines text with
  | case1 =>
    exact absurd returnsEndLines_nil h
  | case2 rest ih =>
    obtain ⟨k, hk⟩ := ih (fun hrest => h
      (returnsEndLines_cons_iff.mpr ⟨by simp, returnsEndLines_cons_iff.mpr ⟨by simp, hrest⟩⟩))
    use k + 1
    simpa [lines_feed, lines_return_feed] using hk
  | case3 c rest hpair ih =>
    by_cases hreturn : c = '\r'
    · -- the return stays in the first line, which is empty after reading
      have hnil : rest ≠ [] := by
        rintro rfl
        apply h
        rw [returnsEndLines_cons_iff]
        exact ⟨fun _ => Or.inl rfl, returnsEndLines_nil⟩
      have hhead : rest.head? ≠ some '\n' := by
        intro hhead
        obtain ⟨rest', rfl⟩ := List.head?_eq_some_iff.mp hhead
        exact hpair rest' hreturn rfl
      use 0
      rw [hreturn, if_pos rfl, lines_feed, lines_cons (by decide) (fun _ => ⟨hnil, hhead⟩)]
      simp
    · have hrest : ¬ ReturnsEndLines rest := fun hrest => h
        (returnsEndLines_cons_iff.mpr ⟨fun h => absurd h hreturn, hrest⟩)
      obtain ⟨k, hk⟩ := ih hrest
      rw [if_neg hreturn]
      by_cases hfeed : c = '\n'
      · use k + 1
        simpa [hfeed, lines_feed] using hk
      · use k
        rw [lines_cons hfeed (fun h => absurd h hreturn),
          lines_cons hfeed (fun h => absurd h hreturn)]
        cases k with
        | zero => simpa using hk
        | succ k => simpa using hk

theorem lines_normalizeNewlines_iff {text : List Char} :
  lines (normalizeNewlines text) = lines text ↔ ReturnsEndLines text
  := by
  constructor
  · intro h
    by_contra hreturns
    obtain ⟨k, hk⟩ := exists_line_ne hreturns
    apply hk
    rw [h]
  · apply lines_normalizeNewlines

/-! ### Two passes -/

/-- Text with every carriage return and the line feed after it as a line feed alone. -/
def joinReturnFeeds : List Char → List Char
  | [] => []
  | '\r' :: '\n' :: rest => '\n' :: joinReturnFeeds rest
  | c :: rest => c :: joinReturnFeeds rest

/-- Text with every carriage return as a line feed. -/
def feedReturns (text : List Char) : List Char :=
  text.map (fun c => if c = '\r' then '\n' else c)

/-- The carriage returns before line feeds go first, and those that are left after them. -/
theorem feedReturns_joinReturnFeeds (text : List Char) :
  feedReturns (joinReturnFeeds text) = normalizeNewlines text
  := by
  fun_induction normalizeNewlines text with
  | case1 => rfl
  | case2 rest ih =>
    rw [joinReturnFeeds, feedReturns, List.map_cons, ← feedReturns, ih]
    rfl
  | case3 c rest hpair ih =>
    rw [joinReturnFeeds, feedReturns, List.map_cons, ← feedReturns, ih]
    apply hpair

end Diagnostics.Text
