/-!
# UTF-8

`encode` writes characters as bytes and `decode` reads bytes back, or reports the first
`Fault`. A sequence starts with a byte that `lead` knows: it fixes the bits of the first
byte and the range each following byte has to lie in. The range of the second byte is
narrower after E0, ED, F0 and F4, which shuts out overlong forms, surrogates and values
past the last code point. A fault covers the longest beginning of a sequence that is
there; `trail` checks the following bytes one by one, each for its presence first.
-/

namespace Diagnostics.Utf8

/-- Why bytes are not the encoding of a character. -/
inductive Reason where
  /-- No sequence starts with this byte. -/
  | invalidStart
  /-- The input ends inside a sequence. -/
  | truncated
  /-- A byte inside a sequence is out of its range. -/
  | invalidContinuation
deriving DecidableEq, Repr

/-- A place where bytes are not UTF-8. -/
structure Fault where
  /-- The position of the first byte at fault. -/
  offset : Nat
  /-- The number of bytes at fault. -/
  width : Nat
  /-- The first byte at fault. -/
  first : UInt8
  reason : Reason
deriving DecidableEq, Repr

/-- The bytes of a text. -/
def encode (text : List Char) : List UInt8 :=
  text.flatMap String.utf8EncodeChar

@[simp]
theorem encode_nil :
  encode [] = []
  := rfl

@[simp]
theorem encode_cons (c : Char) (text : List Char) :
  encode (c :: text) = String.utf8EncodeChar c ++ encode text
  := List.flatMap_cons

@[simp]
theorem encode_append (text text' : List Char) :
  encode (text ++ text') = encode text ++ encode text'
  := List.flatMap_append

/-- An inclusive range of bytes. -/
structure ByteRange where
  low : Nat
  high : Nat

/-- Whether a byte lies in a range. -/
def ByteRange.contains (r : ByteRange) (b : UInt8) : Bool :=
  r.low ≤ b.toNat ∧ b.toNat ≤ r.high

/-- The bytes that continue a character. -/
def ByteRange.continuation : ByteRange := ⟨0x80, 0xBF⟩

/-- Whether a byte continues a character. -/
def isContinuation (b : UInt8) : Bool :=
  ByteRange.continuation.contains b

/-- The range of the second byte of a sequence that starts with the given byte. -/
def secondRange (first : Nat) : ByteRange :=
  if first = 0xE0 then ⟨0xA0, 0xBF⟩
  else if first = 0xED then ⟨0x80, 0x9F⟩
  else if first = 0xF0 then ⟨0x90, 0xBF⟩
  else if first = 0xF4 then ⟨0x80, 0x8F⟩
  else .continuation

/-- The bits a first byte contributes and the ranges of the bytes to follow. -/
def lead (first : Nat) : Option (Nat × List ByteRange) :=
  if first < 0x80 then some (first, [])
  else if first < 0xC2 then none
  else if first < 0xE0 then some (first - 0xC0, [secondRange first])
  else if first < 0xF0 then some (first - 0xE0, [secondRange first, .continuation])
  else if first < 0xF5 then
    some (first - 0xF0, [secondRange first, .continuation, .continuation])
  else none

/-- The value of a sequence and the bytes after it, or the number of bytes read before
the fault. -/
def trail (value width : Nat) :
    List ByteRange → List UInt8 → Except (Nat × Reason) (Nat × List UInt8)
  | [], bytes => .ok (value, bytes)
  | _ :: _, [] => .error (width, .truncated)
  | r :: rs, b :: bytes =>
    if r.contains b then trail (value * 64 + (b.toNat - 0x80)) (width + 1) rs bytes
    else .error (width, .invalidContinuation)

theorem trail_length_le {value width : Nat} {rs : List ByteRange} {bytes rest : List UInt8}
    {v : Nat} (h : trail value width rs bytes = .ok (v, rest)) :
  rest.length ≤ bytes.length
  := by
  induction rs generalizing value width bytes with
  | nil =>
    simp only [trail, Except.ok.injEq, Prod.mk.injEq] at h
    simp [h.2]
  | cons r rs ih =>
    cases bytes with
    | nil => simp [trail] at h
    | cons b bytes =>
      rw [trail] at h
      split at h
      · exact Nat.le_succ_of_le (ih h)
      · simp at h

/-- The characters that bytes from a position on encode. -/
def decodeFrom (offset : Nat) (bytes : List UInt8) : Except Fault (List Char) :=
  match bytes with
  | [] => .ok []
  | b :: bytes =>
    match lead b.toNat with
    | none => .error ⟨offset, 1, b, .invalidStart⟩
    | some (value, ranges) =>
      match h : trail value 1 ranges bytes with
      | .error (width, reason) => .error ⟨offset, width, b, reason⟩
      | .ok (value, rest) =>
        (decodeFrom (offset + 1 + ranges.length) rest).map (Char.ofNat value :: ·)
termination_by bytes.length
decreasing_by exact Nat.lt_succ_of_le (trail_length_le h)

/-- The characters that bytes encode. -/
def decode (bytes : List UInt8) : Except Fault (List Char) :=
  decodeFrom 0 bytes

/-! ### Decoding what was encoded -/

/-- The bytes of a character start with one that `lead` knows, and `trail` reads the
character off the others. -/
theorem trail_utf8EncodeChar (c : Char) :
  ∃ b bytes value ranges, String.utf8EncodeChar c = b :: bytes
    ∧ lead b.toNat = some (value, ranges)
    ∧ ranges.length = bytes.length
    ∧ ∀ rest, trail value 1 ranges (bytes ++ rest) = .ok (c.toNat, rest)
  := by
  have hv : c.toNat < 0xD800 ∨ 0xDFFF < c.toNat ∧ c.toNat < 0x110000 := c.valid
  have h0 : c.val.toNat = c.toNat := rfl
  generalize hn : c.toNat = n at *
  unfold String.utf8EncodeChar
  simp only [h0]
  by_cases h1 : n ≤ 0x7F
  · refine ⟨_, _, n, [], by rw [if_pos h1], ?_, rfl, ?_⟩
    · simp only [UInt8.toNat_ofNat']
      rw [lead, if_pos (by omega)]
      simp only [Option.some.injEq, Prod.mk.injEq, and_true]
      omega
    · intro rest
      rfl
  by_cases h2 : n ≤ 0x7FF
  · refine ⟨_, _, n / 64, [.continuation], by rw [if_neg h1, if_pos h2], ?_, rfl, ?_⟩
    · simp only [UInt8.toNat_ofNat']
      rw [lead, if_neg (by omega), if_neg (by omega), if_pos (by omega)]
      simp only [Option.some.injEq, Prod.mk.injEq]
      constructor
      · omega
      · rw [secondRange, if_neg (by omega), if_neg (by omega), if_neg (by omega),
          if_neg (by omega)]
    · intro rest
      simp only [List.cons_append, List.nil_append, trail, ByteRange.contains,
        ByteRange.continuation, UInt8.toNat_ofNat']
      rw [if_pos (by simp only [decide_eq_true_eq]; omega)]
      simp only [Except.ok.injEq, Prod.mk.injEq, and_true]
      omega
  by_cases h3 : n ≤ 0xFFFF
  · refine ⟨_, _, n / 4096, [secondRange (n / 4096 + 0xE0), .continuation],
      by rw [if_neg h1, if_neg h2, if_pos h3], ?_, rfl, ?_⟩
    · simp only [UInt8.toNat_ofNat']
      rw [lead, if_neg (by omega), if_neg (by omega), if_neg (by omega), if_pos (by omega)]
      simp only [Option.some.injEq, Prod.mk.injEq]
      constructor
      · omega
      · congr 2
        omega
    · intro rest
      simp only [List.cons_append, List.nil_append, trail, ByteRange.contains,
        ByteRange.continuation, UInt8.toNat_ofNat', secondRange]
      rw [if_pos, if_pos (by simp only [decide_eq_true_eq]; omega)]
      · simp only [Except.ok.injEq, Prod.mk.injEq, and_true]
        omega
      · simp only [decide_eq_true_eq]
        split
        · dsimp only
          omega
        · split
          · dsimp only
            omega
          · rw [if_neg (by omega), if_neg (by omega)]
            dsimp only
            omega
  · refine ⟨_, _, n / 262144,
      [secondRange (n / 262144 + 0xF0), .continuation, .continuation],
      by rw [if_neg h1, if_neg h2, if_neg h3], ?_, rfl, ?_⟩
    · simp only [UInt8.toNat_ofNat']
      rw [lead, if_neg (by omega), if_neg (by omega), if_neg (by omega), if_neg (by omega),
        if_pos (by omega)]
      simp only [Option.some.injEq, Prod.mk.injEq]
      constructor
      · omega
      · congr 2
        omega
    · intro rest
      simp only [List.cons_append, List.nil_append, trail, ByteRange.contains,
        ByteRange.continuation, UInt8.toNat_ofNat', secondRange]
      rw [if_pos, if_pos (by simp only [decide_eq_true_eq]; omega),
        if_pos (by simp only [decide_eq_true_eq]; omega)]
      · simp only [Except.ok.injEq, Prod.mk.injEq, and_true]
        omega
      · simp only [decide_eq_true_eq]
        rw [if_neg (by omega), if_neg (by omega)]
        split
        · dsimp only
          omega
        · split
          · dsimp only
            omega
          · dsimp only
            omega

theorem decodeFrom_encode_append (offset : Nat) (text : List Char) (rest : List UInt8) :
  decodeFrom offset (encode text ++ rest)
    = (decodeFrom (offset + (encode text).length) rest).map (text ++ ·)
  := by
  induction text generalizing offset with
  | nil =>
    simp only [encode_nil, List.nil_append, List.length_nil, Nat.add_zero]
    cases decodeFrom offset rest <;> rfl
  | cons c text ih =>
    obtain ⟨b, bytes, value, ranges, he, hl, hlen, ht⟩ := trail_utf8EncodeChar c
    rw [encode_cons, he, List.cons_append, List.cons_append, List.append_assoc, decodeFrom]
    simp only [hl]
    split
    · next h => simp [ht] at h
    · next h =>
      rw [ht, Except.ok.injEq, Prod.mk.injEq] at h
      rw [← h.1, ← h.2, ih, Char.ofNat_toNat]
      simp only [List.length_cons, List.length_append, hlen]
      rw [show offset + (bytes.length + (encode text).length + 1)
        = offset + 1 + bytes.length + (encode text).length by omega]
      cases decodeFrom (offset + 1 + bytes.length + (encode text).length) rest <;> rfl

/-- Decoding the bytes of a text gives the text back. -/
theorem decode_encode (text : List Char) :
  decode (encode text) = .ok text
  := by
  have h := decodeFrom_encode_append 0 text []
  rw [List.append_nil] at h
  rw [decode, h, decodeFrom]
  simp [Except.map]

/-! ### Error texts -/

/-- The name of the encoding. -/
def encodingName : String := "utf-8"

/-- The two lower-case hexadecimal digits of a byte. -/
def hexByte (b : UInt8) : String :=
  String.ofList [Nat.digitChar (b.toNat / 16), Nat.digitChar (b.toNat % 16)]

/-- The words for a reason. -/
def Reason.message : Reason → String
  | .invalidStart => "invalid start byte"
  | .truncated => "unexpected end of data"
  | .invalidContinuation => "invalid continuation byte"

/-- A fault of one byte names the byte, a longer one its first and last position. -/
def Fault.message (f : Fault) : String :=
  let place :=
    if f.width = 1 then s!"byte 0x{hexByte f.first} in position {f.offset}"
    else s!"bytes in position {f.offset}-{f.offset + f.width - 1}"
  s!"'{encodingName}' codec can't decode {place}: {f.reason.message}"

end Diagnostics.Utf8
