import MTConnect.Text.Utf8

namespace MTConnect.Text.Utf8

/-!
# Bytes of texts

The bytes of a text are as many as its size says, and a byte below `0x80`
occurs only where the character of that code does. A search for such a byte
therefore finds characters, whatever other characters the text holds. Lenient
decoding replaces nothing in the bytes of a text: it gives the text back.
-/

variable {character : Char} {front back : List Char}

theorem encode_append :
    encode (front ++ back) = encode front ++ encode back :=
  List.flatMap_append

theorem encode_cons :
    encode (character :: back) = encodeChar character ++ encode back :=
  rfl

theorem encodeChar_of_ascii (ascii : character.toNat < 0x80) :
    encodeChar character = [character.toNat.toUInt8] := by
  simp [encodeChar, ascii]

/-- A character takes as many bytes as its size. -/
theorem length_encodeChar (character : Char) :
    (encodeChar character).length = character.utf8Size := by
  have codeEq : character.val.toNat = character.toNat := rfl
  unfold encodeChar Char.utf8Size
  simp only [UInt32.le_iff_toNat_le, UInt32.toNat_ofNatLT, codeEq,
    ← Nat.lt_succ_iff, Nat.succ_eq_add_one, Nat.reduceAdd]
  split
  next => rfl
  next =>
    split
    next => rfl
    next =>
      split
      next => rfl
      next => rfl

/-- A text takes as many bytes as are counted for it. -/
theorem length_encode (text : List Char) :
    (encode text).length = (String.ofList text).utf8ByteSize := by
  induction text with
  | nil => rfl
  | cons character rest inductionHypothesis =>
      have split :
          String.ofList (character :: rest) =
            String.singleton character ++ String.ofList rest := by
        simp
      rw [encode_cons, List.length_append, inductionHypothesis,
        length_encodeChar, split, String.utf8ByteSize_append,
        String.utf8ByteSize_singleton]

theorem toNat_scalar (character : Char) :
    character.toNat < 0xD800 ∨
      0xE000 ≤ character.toNat ∧ character.toNat < 0x110000 := by
  have valid := character.valid
  simp only [UInt32.isValidChar, Nat.isValidChar] at valid
  have codeEq : character.val.toNat = character.toNat := rfl
  omega

/-- No byte of a character beyond ASCII is below `0x80`. -/
theorem le_of_mem_encodeChar
    (beyond : 0x80 ≤ character.toNat)
    {byte : UInt8}
    (member : byte ∈ encodeChar character) :
    0x80 ≤ byte.toNat := by
  have scalar := toNat_scalar character
  unfold encodeChar at member
  simp only [if_neg (Nat.not_lt.mpr beyond)] at member
  split at member
  next =>
    simp at member
    rcases member with rfl | rfl
    · simp; omega
    · simp; omega
  next =>
    split at member
    next =>
      simp at member
      rcases member with rfl | rfl | rfl
      · simp; omega
      · simp; omega
      · simp; omega
    next =>
      simp at member
      rcases member with rfl | rfl | rfl | rfl
      · simp; omega
      · simp; omega
      · simp; omega
      · simp; omega

/-- A byte below `0x80` stands for a character of the text. -/
theorem mem_of_mem_encode
    {text : List Char}
    (ascii : character.toNat < 0x80)
    (member : character.toNat.toUInt8 ∈ encode text) :
    character ∈ text := by
  obtain ⟨source, inText, inBytes⟩ := List.mem_flatMap.mp member
  by_cases beyond : 0x80 ≤ source.toNat
  · have high := le_of_mem_encodeChar beyond inBytes
    simp at high
    omega
  · rw [encodeChar_of_ascii (by omega), List.mem_singleton] at inBytes
    have codes := congrArg UInt8.toNat inBytes
    simp at codes
    have same : character = source := by
      apply Char.ext
      apply UInt32.toNat_inj.mp
      change character.toNat = source.toNat
      omega
    exact same ▸ inText

/-- The bytes of an ASCII text are its codes. -/
theorem map_encode
    {text : List Char}
    (ascii : ∀ character ∈ text, character.toNat < 0x80) :
    (encode text).map (fun byte => Char.ofNat byte.toNat) = text := by
  induction text with
  | nil => rfl
  | cons character rest inductionHypothesis =>
      obtain ⟨first, others⟩ := List.forall_mem_cons.mp ascii
      have small : character.toNat % 256 = character.toNat :=
        Nat.mod_eq_of_lt (by omega)
      rw [encode_cons, encodeChar_of_ascii first, List.map_append,
        inductionHypothesis others]
      simp [small]

section

variable {byte : UInt8} {pending : Pending} {rest : List UInt8} {bits value : Nat}

theorem toNat_toUInt8 (small : value < 256) :
    value.toUInt8.toNat = value :=
  Nat.mod_eq_of_lt small

theorem decodeLossyFrom_whole
    {code : Nat}
    (begins : lead byte.toNat = .whole code) :
    decodeLossyFrom none (byte :: rest) =
      Char.ofNat code :: decodeLossyFrom none rest := by
  simp [decodeLossyFrom, begins]

theorem decodeLossyFrom_sequence (begins : lead byte.toNat = .sequence pending) :
    decodeLossyFrom none (byte :: rest) =
      decodeLossyFrom (some pending) rest := by
  simp [decodeLossyFrom, begins]

/-- A byte that is not the last one owed adds six bits. -/
theorem decodeLossyFrom_more
    {owed low high : Nat}
    (small : value < 64)
    (atLeast : low ≤ 0x80 + value)
    (atMost : 0x80 + value ≤ high) :
    decodeLossyFrom (some ⟨owed + 2, low, high, bits⟩)
        ((0x80 + value).toUInt8 :: rest) =
      decodeLossyFrom (some ⟨owed + 1, 0x80, 0xBF, bits * 64 + value⟩)
        rest := by
  rw [decodeLossyFrom, toNat_toUInt8 (by omega)]
  simp [Pending.accepts, Pending.extend, atLeast, atMost]

/-- The last byte owed adds six bits and ends the character. -/
theorem decodeLossyFrom_last (small : value < 64) :
    decodeLossyFrom (some ⟨1, 0x80, 0xBF, bits⟩)
        ((0x80 + value).toUInt8 :: rest) =
      Char.ofNat (bits * 64 + value) :: decodeLossyFrom none rest := by
  have inRange : 0x80 + value ≤ 0xBF := by omega
  rw [decodeLossyFrom, toNat_toUInt8 (by omega)]
  simp [Pending.accepts, Pending.extend, inRange]

end

section

variable {code : Nat} {rest : List UInt8}

/-- A sequence of two bytes is decoded. -/
theorem decodeLossyFrom_two (atLeast : 0x80 ≤ code) (below : code < 0x800) :
    decodeLossyFrom none
        ((0xC0 + code / 64).toUInt8 :: (0x80 + code % 64).toUInt8 :: rest) =
      Char.ofNat code :: decodeLossyFrom none rest := by
  have begins :
      lead (0xC0 + code / 64).toUInt8.toNat =
        .sequence ⟨1, 0x80, 0xBF, code / 64⟩ := by
    rw [toNat_toUInt8 (by omega), lead, if_neg (by omega), if_neg (by omega),
      if_pos (by omega), Nat.add_sub_cancel_left]
  rw [decodeLossyFrom_sequence begins, decodeLossyFrom_last (by omega),
    Nat.div_add_mod']

/--
The first byte of three admits the second one, which is narrowed after `0xE0`
to codes that need three bytes and after `0xED` to codes below the surrogates.
-/
theorem lead_three
    (atLeast : 0x800 ≤ code)
    (below : code < 0x10000)
    (notSurrogate : code < 0xD800 ∨ 0xE000 ≤ code) :
    ∃ low high,
      lead (0xE0 + code / 4096) = .sequence ⟨2, low, high, code / 4096⟩ ∧
        low ≤ 0x80 + code / 64 % 64 ∧ 0x80 + code / 64 % 64 ≤ high := by
  unfold lead
  rw [if_neg (by omega), if_neg (by omega), if_neg (by omega)]
  split
  next isLowest =>
    exact ⟨_, _, by rw [show code / 4096 = 0 by omega], by omega, by omega⟩
  next =>
    split
    next beforeSurrogates =>
      exact ⟨_, _, by rw [show code / 4096 = 0xD by omega], by omega, by omega⟩
    next =>
      rw [if_pos (by omega), Nat.add_sub_cancel_left]
      exact ⟨_, _, rfl, by omega, by omega⟩

/-- A sequence of three bytes is decoded, unless it is a surrogate. -/
theorem decodeLossyFrom_three
    (atLeast : 0x800 ≤ code)
    (below : code < 0x10000)
    (notSurrogate : code < 0xD800 ∨ 0xE000 ≤ code) :
    decodeLossyFrom none
        ((0xE0 + code / 4096).toUInt8 :: (0x80 + code / 64 % 64).toUInt8 ::
          (0x80 + code % 64).toUInt8 :: rest) =
      Char.ofNat code :: decodeLossyFrom none rest := by
  obtain ⟨low, high, begins, aboveLow, belowHigh⟩ :=
    lead_three atLeast below notSurrogate
  have assembled :
      (code / 4096 * 64 + code / 64 % 64) * 64 + code % 64 = code := by
    omega
  rw [← toNat_toUInt8 (show 0xE0 + code / 4096 < 256 by omega)] at begins
  rw [decodeLossyFrom_sequence begins,
    decodeLossyFrom_more (by omega) aboveLow belowHigh,
    decodeLossyFrom_last (by omega), assembled]

/--
The first byte of four admits the second one, which is narrowed after `0xF0`
to codes that need four bytes and after `0xF4` to codes within Unicode.
-/
theorem lead_four
    (atLeast : 0x10000 ≤ code)
    (below : code < 0x110000) :
    ∃ low high,
      lead (0xF0 + code / 262144) = .sequence ⟨3, low, high, code / 262144⟩ ∧
        low ≤ 0x80 + code / 4096 % 64 ∧ 0x80 + code / 4096 % 64 ≤ high := by
  unfold lead
  rw [if_neg (by omega), if_neg (by omega), if_neg (by omega),
    if_neg (by omega), if_neg (by omega), if_neg (by omega)]
  split
  next isLowest =>
    exact ⟨_, _, by rw [show code / 262144 = 0 by omega], by omega, by omega⟩
  next =>
    split
    next =>
      rw [Nat.add_sub_cancel_left]
      exact ⟨_, _, rfl, by omega, by omega⟩
    next =>
      rw [if_pos (by omega)]
      exact ⟨_, _, by rw [show code / 262144 = 4 by omega], by omega, by omega⟩

/-- A sequence of four bytes is decoded. -/
theorem decodeLossyFrom_four
    (atLeast : 0x10000 ≤ code)
    (below : code < 0x110000) :
    decodeLossyFrom none
        ((0xF0 + code / 262144).toUInt8 ::
          (0x80 + code / 4096 % 64).toUInt8 ::
          (0x80 + code / 64 % 64).toUInt8 :: (0x80 + code % 64).toUInt8 ::
          rest) =
      Char.ofNat code :: decodeLossyFrom none rest := by
  obtain ⟨low, high, begins, aboveLow, belowHigh⟩ := lead_four atLeast below
  have assembled :
      ((code / 262144 * 64 + code / 4096 % 64) * 64 + code / 64 % 64) * 64 +
          code % 64 =
        code := by
    omega
  rw [← toNat_toUInt8 (show 0xF0 + code / 262144 < 256 by omega)] at begins
  rw [decodeLossyFrom_sequence begins,
    decodeLossyFrom_more (by omega) aboveLow belowHigh,
    decodeLossyFrom_more (by omega) (by omega) (by omega),
    decodeLossyFrom_last (by omega), assembled]

end

/-- The bytes of a character are decoded to the character. -/
theorem decodeLossyFrom_encodeChar (character : Char) (rest : List UInt8) :
    decodeLossyFrom none (encodeChar character ++ rest) =
      character :: decodeLossyFrom none rest := by
  have scalar := toNat_scalar character
  have same := Char.ofNat_toNat character
  by_cases ascii : character.toNat < 0x80
  · have begins :
        lead character.toNat.toUInt8.toNat = .whole character.toNat := by
      rw [toNat_toUInt8 (by omega), lead, if_pos ascii]
    rw [encodeChar_of_ascii ascii, List.singleton_append,
      decodeLossyFrom_whole begins, same]
  · simp only [encodeChar, if_neg ascii, Nat.div_one]
    split
    next two => simpa [same] using decodeLossyFrom_two (by omega) two
    next beyondTwo =>
      split
      next three =>
        simpa [same] using
          decodeLossyFrom_three (by omega) three (scalar.imp_right And.left)
      next beyondThree =>
        have below : character.toNat < 0x110000 := by omega
        simpa [same] using decodeLossyFrom_four (by omega) below

/-- What is encoded is decoded to itself, with nothing replaced. -/
theorem decodeLossy_encode (text : List Char) :
    decodeLossy (encode text) = text := by
  unfold decodeLossy
  induction text with
  | nil => rfl
  | cons character rest inductionHypothesis =>
      rw [encode_cons, decodeLossyFrom_encodeChar, inductionHypothesis]

end MTConnect.Text.Utf8
