namespace MTConnect.Text.Utf8

/-!
# UTF-8

Bytes arrive from adapters and from the percent escapes of a query. Adapter
lines are decoded strictly: one ill-formed byte rejects the line. Query texts
are decoded leniently: each longest beginning of a well-formed sequence that
the next byte breaks off, and each byte that begins none, becomes one
replacement character.
-/

/-- What is still owed of a character of several bytes. -/
structure Pending where
  /-- Continuation bytes to come. -/
  owed : Nat
  /-- The least next byte. -/
  low : Nat
  /-- The greatest next byte. -/
  high : Nat
  /-- The bits read so far. -/
  bits : Nat
  deriving Repr, DecidableEq

/-- What a byte begins: a whole character, a sequence, or nothing. -/
inductive Lead where
  | whole (code : Nat)
  | sequence (pending : Pending)
  | invalid
  deriving Repr, DecidableEq

/-- Classify the first byte of a character. -/
def lead (byte : Nat) : Lead :=
  if byte < 0x80 then .whole byte
  else if byte < 0xC2 then .invalid
  else if byte < 0xE0 then .sequence ⟨1, 0x80, 0xBF, byte - 0xC0⟩
  else if byte = 0xE0 then .sequence ⟨2, 0xA0, 0xBF, 0⟩
  else if byte = 0xED then .sequence ⟨2, 0x80, 0x9F, 0xD⟩
  else if byte < 0xF0 then .sequence ⟨2, 0x80, 0xBF, byte - 0xE0⟩
  else if byte = 0xF0 then .sequence ⟨3, 0x90, 0xBF, 0⟩
  else if byte < 0xF4 then .sequence ⟨3, 0x80, 0xBF, byte - 0xF0⟩
  else if byte = 0xF4 then .sequence ⟨3, 0x80, 0x8F, 4⟩
  else .invalid

/-- Whether a byte continues a sequence. -/
def Pending.accepts (pending : Pending) (byte : Nat) : Bool :=
  pending.low ≤ byte && byte ≤ pending.high

/-- The bits after one more continuation byte. -/
def Pending.extend (pending : Pending) (byte : Nat) : Pending where
  owed := pending.owed - 1
  low := 0x80
  high := 0xBF
  bits := pending.bits * 64 + (byte - 0x80)

/-- The character that stands for bytes that are not UTF-8. -/
def replacement : Char :=
  Char.ofNat 0xFFFD

/--
Decode bytes leniently. `pending` is what the bytes before them began.

A byte that breaks a sequence off is looked at again as the first byte of a
character, which is why every step either starts afresh or reads on.
-/
def decodeLossyFrom : Option Pending → List UInt8 → List Char
  | none, [] => []
  | some _, [] => [replacement]
  | pending?, byte :: rest =>
      let fresh :=
        match lead byte.toNat with
        | .whole code => Char.ofNat code :: decodeLossyFrom none rest
        | .sequence pending => decodeLossyFrom (some pending) rest
        | .invalid => replacement :: decodeLossyFrom none rest
      match pending? with
      | none => fresh
      | some pending =>
          if pending.accepts byte.toNat then
            let extended := pending.extend byte.toNat
            if extended.owed = 0 then
              Char.ofNat extended.bits :: decodeLossyFrom none rest
            else
              decodeLossyFrom (some extended) rest
          else
            replacement :: fresh

/-- Decode bytes, replacing what is not UTF-8. -/
def decodeLossy (bytes : List UInt8) : List Char :=
  decodeLossyFrom none bytes

/-- Decode bytes strictly. `pending` is what the bytes before them began. -/
def decodeFrom? : Option Pending → List UInt8 → Option (List Char)
  | none, [] => some []
  | some _, [] => none
  | none, byte :: rest =>
      match lead byte.toNat with
      | .whole code => (decodeFrom? none rest).map (Char.ofNat code :: ·)
      | .sequence pending => decodeFrom? (some pending) rest
      | .invalid => none
  | some pending, byte :: rest =>
      if pending.accepts byte.toNat then
        let extended := pending.extend byte.toNat
        if extended.owed = 0 then
          (decodeFrom? none rest).map (Char.ofNat extended.bits :: ·)
        else
          decodeFrom? (some extended) rest
      else
        none

/-- Decode bytes, or none if they are not UTF-8. -/
def decode? (bytes : List UInt8) : Option (List Char) :=
  decodeFrom? none bytes

/-- The bytes of a character. -/
def encodeChar (character : Char) : List UInt8 :=
  let code := character.toNat
  let tail := fun unit => (0x80 + code / unit % 64).toUInt8
  if code < 0x80 then [code.toUInt8]
  else if code < 0x800 then [(0xC0 + code / 64).toUInt8, tail 1]
  else if code < 0x10000 then
    [(0xE0 + code / 4096).toUInt8, tail 64, tail 1]
  else [(0xF0 + code / 262144).toUInt8, tail 4096, tail 64, tail 1]

/-- The bytes of a text. -/
def encode (text : List Char) : List UInt8 :=
  text.flatMap encodeChar

/-- The number of bytes of a text. -/
def byteCount (text : List Char) : Nat :=
  (encode text).length

end MTConnect.Text.Utf8
