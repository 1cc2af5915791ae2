import Diagnostics.Render.Snippet
import Mathlib.Data.List.TakeWhile
import Mathlib.Tactic.Common

/-!
# Character boundaries

The bytes of a character start with one that continues nothing and go on with bytes that
all continue a character. So the boundaries between the characters of a text, `IsBoundary`,
are the byte offsets at which no character is continued, and `Snippet.boundBefore` and
`Snippet.boundAfter` find the last boundary up to an offset and the first one from it on.
`touched` lists the characters of a text that have a byte in a range of offsets, and `endingBy`
those that end before it.
-/

namespace Diagnostics

namespace Utf8

/-! ### The bytes of a character -/

theorem isContinuation_ofNat {n : Nat} (h : n < 0x100) :
  isContinuation (UInt8.ofNat n) = decide (0x80 ≤ n ∧ n ≤ 0xBF)
  := by
  simp only [isContinuation, ByteRange.contains, ByteRange.continuation, UInt8.toNat_ofNat']
  rw [Nat.mod_eq_of_lt h]

/-- The first byte of a character continues none, each further byte does. -/
theorem utf8EncodeChar_eq_cons (c : Char) :
  ∃ b bytes, String.utf8EncodeChar c = b :: bytes ∧ isContinuation b = false
    ∧ ∀ b' ∈ bytes, isContinuation b' = true
  := by
  have hv : c.toNat < 0xD800 ∨ 0xDFFF < c.toNat ∧ c.toNat < 0x110000 := c.valid
  have h0 : c.val.toNat = c.toNat := rfl
  unfold String.utf8EncodeChar
  simp only [h0]
  -- each branch adds constants to quotients and remainders that are too small to overlap
  split
  · refine ⟨_, _, rfl, ?_, by simp⟩
    rw [isContinuation_ofNat (by omega)]
    simp only [decide_eq_false_iff_not]
    omega
  · split
    · refine ⟨_, _, rfl, ?_, ?_⟩
      · rw [isContinuation_ofNat (by omega)]
        simp only [decide_eq_false_iff_not]
        omega
      · simp only [List.mem_cons, List.not_mem_nil, or_false, forall_eq]
        rw [isContinuation_ofNat (by omega), decide_eq_true_eq]
        omega
    · split
      · refine ⟨_, _, rfl, ?_, ?_⟩
        · rw [isContinuation_ofNat (by omega)]
          simp only [decide_eq_false_iff_not]
          omega
        · simp only [List.mem_cons, List.not_mem_nil, or_false, forall_eq_or_imp, forall_eq]
          rw [isContinuation_ofNat (by omega), isContinuation_ofNat (by omega)]
          simp only [decide_eq_true_eq]
          omega
      · refine ⟨_, _, rfl, ?_, ?_⟩
        · rw [isContinuation_ofNat (by omega)]
          simp only [decide_eq_false_iff_not]
          omega
        · simp only [List.mem_cons, List.not_mem_nil, or_false, forall_eq_or_imp, forall_eq]
          rw [isContinuation_ofNat (by omega), isContinuation_ofNat (by omega),
            isContinuation_ofNat (by omega)]
          simp only [decide_eq_true_eq]
          omega

/-! ### Boundaries of a text -/

/-- A byte offset between two characters of a text, or at one of its ends. -/
def IsBoundary (text : List Char) (i : Nat) : Prop :=
  ∃ before after, text = before ++ after ∧ (encode before).length = i

theorem eq_nil_of_length_encode {text : List Char} (h : (encode text).length = 0) :
  text = []
  := by
  cases text with
  | nil => rfl
  | cons c text =>
    have hc := c.utf8Size_pos
    rw [encode_cons, List.length_append, String.length_utf8EncodeChar] at h
    omega

/-- Two boundaries cut a text in three. -/
theorem IsBoundary.exists_middle {text : List Char} {i j : Nat} (hi : IsBoundary text i)
    (hj : IsBoundary text j) (h : i ≤ j) :
  ∃ before middle after, text = before ++ middle ++ after
    ∧ (encode before).length = i ∧ (encode (before ++ middle)).length = j
  := by
  obtain ⟨before, after, rfl, rfl⟩ := hi
  obtain ⟨before', after', ht, rfl⟩ := hj
  rcases List.append_eq_append_iff.mp ht with ⟨middle, rfl, rfl⟩ | ⟨middle, rfl, rfl⟩
  · use before, middle, after'
  · rw [encode_append, List.length_append] at h
    obtain rfl : middle = [] := eq_nil_of_length_encode (by omega)
    use before', [], after
    simp

/-- Every character of an ASCII text has one byte. -/
theorem length_encode_of_ascii {text : List Char} (h : ∀ c ∈ text, c.toNat < 0x80) :
  (encode text).length = text.length
  := by
  induction text with
  | nil => rfl
  | cons c text ih =>
    obtain ⟨hc, htext⟩ := List.forall_mem_cons.mp h
    have hsize : c.utf8Size = 1 :=
      Char.utf8Size_eq_one_iff.mpr (UInt32.le_iff_toNat_le.mpr (Nat.le_of_lt_succ hc))
    rw [encode_cons, List.length_append, String.length_utf8EncodeChar, hsize, ih htext,
      List.length_cons, Nat.add_comm]

/-- So every offset in an ASCII text is a boundary. -/
theorem isBoundary_of_ascii {text : List Char} (h : ∀ c ∈ text, c.toNat < 0x80) {i : Nat}
    (hi : i ≤ (encode text).length) :
  IsBoundary text i
  := by
  rw [length_encode_of_ascii h] at hi
  use text.take i, text.drop i, (List.take_append_drop i text).symm
  rw [length_encode_of_ascii (fun c hc => h c (List.mem_of_mem_take hc)), List.length_take,
    Nat.min_eq_left hi]

/-! ### Characters in a range of bytes -/

/-- The characters of a text, each with the offset of its first byte. -/
def placed (offset : Nat) : List Char → List (Nat × Char)
  | [] => []
  | c :: text => (offset, c) :: placed (offset + c.utf8Size) text

/-- Whether a byte of a character at an offset lies in a range. -/
def touches (low high : Nat) (p : Nat × Char) : Bool :=
  (List.range' p.1 p.2.utf8Size).any (fun i => low ≤ i ∧ i < high)

/-- The characters of a text that have a byte in a range. -/
def touched (low high : Nat) (text : List Char) : List Char :=
  ((placed 0 text).filter (touches low high)).map Prod.snd

/-- The characters of a text that end at an offset or before it. -/
def endingBy (i : Nat) (text : List Char) : List Char :=
  ((placed 0 text).filter (fun p => p.1 + p.2.utf8Size ≤ i)).map Prod.snd

theorem touches_iff {low high : Nat} {p : Nat × Char} (h : low < high) :
  touches low high p = true ↔ p.1 < high ∧ low < p.1 + p.2.utf8Size
  := by
  have hc := p.2.utf8Size_pos
  simp only [touches, List.any_eq_true, List.mem_range'_1, decide_eq_true_eq]
  constructor
  · rintro ⟨i, hi, hlow, hhigh⟩
    omega
  · intro hp
    use max p.1 low
    omega

theorem placed_append (offset : Nat) (text text' : List Char) :
  placed offset (text ++ text')
    = placed offset text ++ placed (offset + (encode text).length) text'
  := by
  induction text generalizing offset with
  | nil => rfl
  | cons c text ih =>
    rw [encode_cons, List.length_append, String.length_utf8EncodeChar, ← Nat.add_assoc]
    simp only [List.cons_append, placed, ih]

@[simp]
theorem map_snd_placed (offset : Nat) (text : List Char) :
  (placed offset text).map Prod.snd = text
  := by
  induction text generalizing offset with
  | nil => rfl
  | cons c text ih => rw [placed, List.map_cons, ih]

/-- A character of a text is placed after those before it. -/
theorem exists_of_mem_placed {offset : Nat} {text : List Char} {p : Nat × Char}
    (h : p ∈ placed offset text) :
  ∃ before after, text = before ++ p.2 :: after ∧ p.1 = offset + (encode before).length
  := by
  induction text generalizing offset with
  | nil => simp [placed] at h
  | cons c text ih =>
    rcases List.mem_cons.mp h with rfl | h
    · use [], text
      simp
    · obtain ⟨before, after, rfl, hp⟩ := ih h
      use c :: before, after, rfl
      rw [hp, encode_cons, List.length_append, String.length_utf8EncodeChar, Nat.add_assoc]

/-- A character among those of the middle of a text lies between two boundaries. -/
theorem isBoundary_of_mem_placed (before after : List Char) {middle : List Char}
    {p : Nat × Char} (h : p ∈ placed (encode before).length middle) :
  IsBoundary (before ++ middle ++ after) p.1
    ∧ IsBoundary (before ++ middle ++ after) (p.1 + p.2.utf8Size)
    ∧ (encode before).length ≤ p.1
    ∧ p.1 + p.2.utf8Size ≤ (encode (before ++ middle)).length
  := by
  obtain ⟨start, rest, rfl, hp⟩ := exists_of_mem_placed h
  rw [hp]
  refine ⟨⟨before ++ start, p.2 :: rest ++ after, ?_, ?_⟩,
    ⟨before ++ start ++ [p.2], rest ++ after, ?_, ?_⟩, ?_, ?_⟩
  all_goals simp
  all_goals omega

end Utf8

namespace Snippet

theorem continuesAt_append_right (raw raw' : List UInt8) (i : Nat) :
  continuesAt (raw ++ raw') (raw.length + i) = continuesAt raw' i
  := by
  simp only [continuesAt]
  rw [List.getElem?_append_right (Nat.le_add_right _ _), Nat.add_sub_cancel_left]

/-- The bytes of a character after its first one continue it. -/
theorem continuesAt_utf8EncodeChar_append (c : Char) (raw : List UInt8) {i : Nat}
    (hpos : 0 < i) (hi : i < c.utf8Size) :
  continuesAt (String.utf8EncodeChar c ++ raw) i = true
  := by
  obtain ⟨b, bytes, hc, -, hbytes⟩ := Utf8.utf8EncodeChar_eq_cons c
  rw [← String.length_utf8EncodeChar, hc, List.length_cons] at hi
  rw [hc, continuesAt, List.getElem?_append_left (by simpa using hi)]
  obtain ⟨i, rfl⟩ := Nat.exists_eq_succ_of_ne_zero (Nat.ne_of_gt hpos)
  rw [List.getElem?_cons_succ, List.getElem?_eq_getElem (by omega), Option.any_some]
  apply hbytes
  apply List.getElem_mem

theorem continuesAt_encode_zero (text : List Char) :
  continuesAt (Utf8.encode text) 0 = false
  := by
  cases text with
  | nil => rfl
  | cons c text =>
    obtain ⟨b, bytes, hc, hb, -⟩ := Utf8.utf8EncodeChar_eq_cons c
    simp [continuesAt, hc, hb]

/-- The boundaries of a text are the offsets at which no character is continued. -/
theorem isBoundary_iff {text : List Char} {i : Nat} (h : i ≤ (Utf8.encode text).length) :
  Utf8.IsBoundary text i ↔ continuesAt (Utf8.encode text) i = false
  := by
  constructor
  · rintro ⟨before, after, rfl, rfl⟩
    have h := continuesAt_append_right (Utf8.encode before) (Utf8.encode after) 0
    rw [Utf8.encode_append, ← continuesAt_encode_zero after, ← h, Nat.add_zero]
  · intro hi
    induction text generalizing i with
    | nil =>
      use [], [], rfl
      apply (Nat.le_zero.mp h).symm
    | cons c text ih =>
      rw [Utf8.encode_cons] at h hi
      rcases Nat.eq_zero_or_pos i with rfl | hpos
      · use [], c :: text, rfl
        rfl
      · -- an offset inside the first character would continue it
        have hle : c.utf8Size ≤ i := by
          by_contra hlt
          rw [continuesAt_utf8EncodeChar_append c _ hpos (by omega)] at hi
          contradiction
        obtain ⟨j, rfl⟩ := Nat.exists_eq_add_of_le hle
        rw [← String.length_utf8EncodeChar] at h hi
        rw [List.length_append] at h
        rw [continuesAt_append_right] at hi
        obtain ⟨before, after, rfl, rfl⟩ := ih (by omega) hi
        use c :: before, after, rfl
        simp

/-! ### The boundaries around an offset -/

theorem boundBefore_le (raw : List UInt8) (i : Nat) :
  boundBefore raw i ≤ i
  := by
  induction i with
  | zero => apply Nat.le_refl
  | succ i ih =>
    rw [boundBefore]
    split
    · apply Nat.le_succ_of_le ih
    · apply Nat.le_refl

theorem continuesAt_boundBefore (raw : List UInt8) (i : Nat) :
  boundBefore raw i = 0 ∨ continuesAt raw (boundBefore raw i) = false
  := by
  induction i with
  | zero =>
    left
    rfl
  | succ i ih =>
    rw [boundBefore]
    split
    · apply ih
    · right
      simp_all

theorem continuesAt_of_boundBefore_lt {raw : List UInt8} {i k : Nat}
    (h : boundBefore raw i < k) (hk : k ≤ i) :
  continuesAt raw k = true
  := by
  induction i with
  | zero =>
    rw [boundBefore] at h
    omega
  | succ i ih =>
    rw [boundBefore] at h
    split at h
    · next hc =>
      rcases Nat.eq_or_lt_of_le hk with rfl | hk
      · apply hc
      · apply ih h (Nat.le_of_lt_succ hk)
    · omega

theorem boundAfter_le {raw : List UInt8} {i : Nat} (h : i ≤ raw.length) :
  boundAfter raw i ≤ raw.length
  := by
  have ht := (List.takeWhile_sublist Utf8.isContinuation (l := raw.drop i)).length_le
  rw [List.length_drop] at ht
  rw [boundAfter]
  omega

theorem continuesAt_boundAfter (raw : List UInt8) (i : Nat) :
  continuesAt raw (boundAfter raw i) = false
  := by
  rw [boundAfter, continuesAt, ← List.getElem?_drop]
  induction raw.drop i with
  | nil => rfl
  | cons b bytes ih =>
    by_cases hb : Utf8.isContinuation b = true
    · rw [List.takeWhile_cons_of_pos hb, List.length_cons, List.getElem?_cons_succ]
      apply ih
    · rw [List.takeWhile_cons_of_neg hb]
      simpa using hb

theorem continuesAt_of_lt_boundAfter {raw : List UInt8} {i k : Nat} (h : i ≤ k)
    (hk : k < boundAfter raw i) :
  continuesAt raw k = true
  := by
  rw [boundAfter] at hk
  obtain ⟨j, rfl⟩ := Nat.exists_eq_add_of_le h
  have hj : j < ((raw.drop i).takeWhile Utf8.isContinuation).length := by omega
  rw [continuesAt, ← List.getElem?_drop,
    ← List.takeWhile_append_dropWhile (p := Utf8.isContinuation) (l := raw.drop i),
    List.getElem?_append_left hj, List.getElem?_eq_getElem hj, Option.any_some]
  apply List.mem_takeWhile_imp (List.getElem_mem hj)

/-- `boundBefore` finds a boundary. -/
theorem isBoundary_boundBefore {text : List Char} {i : Nat}
    (h : i ≤ (Utf8.encode text).length) :
  Utf8.IsBoundary text (boundBefore (Utf8.encode text) i)
  := by
  apply (isBoundary_iff (Nat.le_trans (boundBefore_le _ _) h)).mpr
  rcases continuesAt_boundBefore (Utf8.encode text) i with h0 | hc
  · rw [h0]
    apply continuesAt_encode_zero
  · apply hc

/-- No boundary up to the offset lies past the one `boundBefore` finds. -/
theorem le_boundBefore {text : List Char} {i k : Nat} (hk : Utf8.IsBoundary text k)
    (h : k ≤ i) (hi : i ≤ (Utf8.encode text).length) :
  k ≤ boundBefore (Utf8.encode text) i
  := by
  by_contra hlt
  have hc := continuesAt_of_boundBefore_lt (Nat.lt_of_not_le hlt) h
  rw [(isBoundary_iff (Nat.le_trans h hi)).mp hk] at hc
  contradiction

/-- `boundAfter` finds a boundary. -/
theorem isBoundary_boundAfter {text : List Char} {i : Nat}
    (h : i ≤ (Utf8.encode text).length) :
  Utf8.IsBoundary text (boundAfter (Utf8.encode text) i)
  := by
  apply (isBoundary_iff (boundAfter_le h)).mpr
  apply continuesAt_boundAfter

/-- No boundary from the offset on lies before the one `boundAfter` finds. -/
theorem boundAfter_le_of_isBoundary {text : List Char} {i k : Nat}
    (hk : Utf8.IsBoundary text k) (h : i ≤ k) (hlen : k ≤ (Utf8.encode text).length) :
  boundAfter (Utf8.encode text) i ≤ k
  := by
  by_contra hlt
  have hc := continuesAt_of_lt_boundAfter h (Nat.lt_of_not_le hlt)
  rw [(isBoundary_iff hlen).mp hk] at hc
  contradiction

/-- `boundBefore` stays at a boundary, and nowhere else. -/
theorem boundBefore_eq_iff {text : List Char} {i : Nat} (h : i ≤ (Utf8.encode text).length) :
  boundBefore (Utf8.encode text) i = i ↔ Utf8.IsBoundary text i
  := by
  constructor
  · intro hi
    rw [← hi]
    apply isBoundary_boundBefore h
  · intro hi
    apply Nat.le_antisymm
    · apply boundBefore_le
    · apply le_boundBefore hi (Nat.le_refl _) h

/-- `boundAfter` stays at a boundary. -/
theorem boundAfter_eq {text : List Char} {i : Nat} (hi : Utf8.IsBoundary text i)
    (h : i ≤ (Utf8.encode text).length) :
  boundAfter (Utf8.encode text) i = i
  := by
  apply Nat.le_antisymm
  · apply boundAfter_le_of_isBoundary hi (Nat.le_refl _) h
  · apply Nat.le_add_right

end Snippet

end Diagnostics
