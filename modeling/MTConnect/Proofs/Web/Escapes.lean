import MTConnect.Proofs.Text.Digits
import MTConnect.Proofs.Text.Utf8
import MTConnect.Web.Form

namespace MTConnect

/-!
# Escaped texts

A client puts a text into a target by its bytes: a character stands as it is,
or a percent sign and two hexadecimal digits stand for each of its bytes. Which
characters it leaves as they are is up to the client, as long as they may stand
in a segment of a path. A field of a query is read back whatever the text is;
an escaped text is the text itself only if nothing had to be escaped.
-/

/-- Whether a character may stand in a segment of a path as it is. -/
def isSegmentChar (character : Char) : Bool :=
  character.isAlphanum ||
    ['-', '.', '_', '~', '!', '$', '&', '\'', '(', ')', '*', '+', ',', ';',
      '=', ':', '@'].contains character

/-- A choice of the characters that are left as they are. -/
structure Escaping where
  plain : Char → Bool
  segment : ∀ character, plain character = true → isSegmentChar character = true

namespace Escaping

/-- Letters, digits and four marks are left as they are, which every client may do. -/
def unreserved : Escaping where
  plain character :=
    character.isAlphanum || ['-', '.', '_', '~'].contains character
  segment character plain := by
    simp only [isSegmentChar, Bool.or_eq_true, List.contains_cons] at plain ⊢
    grind

/-- The upper-case hexadecimal digit of a value below sixteen. -/
def hexDigit (value : Nat) : Char :=
  (Text.digitChar value).toUpper

/-- The escape of a byte. -/
def ofByte (byte : UInt8) : List Char :=
  ['%', hexDigit (byte.toNat / 16), hexDigit (byte.toNat % 16)]

/-- A character, or the escapes of its bytes. -/
def ofChar (escaping : Escaping) (character : Char) : List Char :=
  if escaping.plain character then
    [character]
  else
    (Text.Utf8.encodeChar character).flatMap ofByte

/-- The characters of an escaped text. -/
def ofChars (escaping : Escaping) (text : List Char) : List Char :=
  text.flatMap escaping.ofChar

/-- A text as it stands in a target. -/
def escape (escaping : Escaping) (text : String) : String :=
  String.ofList (escaping.ofChars text.toList)

variable {escaping : Escaping} {character : Char} {text : List Char}

theorem hexDigit_isAlphanum :
    ∀ value < 16, (hexDigit value).isAlphanum = true := by
  decide

theorem digitValue?_hexDigit :
    ∀ value < 16, Text.digitValue? 16 (hexDigit value) = some value := by
  decide

/-- An escaped text holds plain characters of the text, percent signs and digits. -/
theorem mem_ofChars_cases (member : character ∈ escaping.ofChars text) :
    (character ∈ text ∧ escaping.plain character = true) ∨
      character = '%' ∨ character.isAlphanum = true := by
  obtain ⟨source, inText, inOne⟩ := List.mem_flatMap.mp member
  unfold ofChar at inOne
  split at inOne
  next isPlain =>
    rw [List.mem_singleton.mp inOne]
    exact Or.inl ⟨inText, isPlain⟩
  next =>
    obtain ⟨byte, _, inEscape⟩ := List.mem_flatMap.mp inOne
    have below := byte.toNat_lt
    simp only [ofByte, List.mem_cons, List.not_mem_nil, or_false] at inEscape
    rcases inEscape with isPercent | isHigh | isLow
    · exact Or.inr (Or.inl isPercent)
    · exact Or.inr (Or.inr (isHigh ▸ hexDigit_isAlphanum _ (by omega)))
    · exact Or.inr (Or.inr (isLow ▸ hexDigit_isAlphanum _ (by omega)))

theorem plain_eq_false (notSegment : isSegmentChar character = false) :
    escaping.plain character = false := by
  rw [← Bool.not_eq_true]
  intro isPlain
  simp [escaping.segment character isPlain] at notSegment

theorem ofChar_of_plain (isPlain : escaping.plain character = true) :
    escaping.ofChar character = [character] := by
  rw [ofChar, if_pos isPlain]

theorem encodeChar_ne_nil (character : Char) :
    Text.Utf8.encodeChar character ≠ [] := by
  rw [← List.length_pos_iff, Text.Utf8.length_encodeChar]
  exact character.utf8Size_pos

/-- What is escaped begins with a percent sign and becomes longer. -/
theorem exists_ofChar_eq_cons (notPlain : escaping.plain character ≠ true) :
    ∃ next others, escaping.ofChar character = '%' :: next :: others := by
  obtain ⟨byte, bytes, shape⟩ :=
    List.exists_cons_of_ne_nil (encodeChar_ne_nil character)
  rw [ofChar, if_neg notPlain, shape]
  exact ⟨_, _, rfl⟩

/-- A text of plain characters is left as it is. -/
theorem ofChars_of_plain
    (allPlain : ∀ character ∈ text, escaping.plain character = true) :
    escaping.ofChars text = text := by
  induction text with
  | nil => rfl
  | cons first rest inductionHypothesis =>
      obtain ⟨firstPlain, restPlain⟩ := List.forall_mem_cons.mp allPlain
      have unchanged := inductionHypothesis restPlain
      unfold ofChars at unchanged ⊢
      rw [List.flatMap_cons, ofChar_of_plain firstPlain, unchanged,
        List.singleton_append]

/-- A text without percent signs is the escape of no text but itself. -/
theorem plain_of_percent_not_mem
    (clean : '%' ∉ escaping.ofChars text) :
    ∀ character ∈ text, escaping.plain character = true := by
  intro character member
  by_contra notPlain
  obtain ⟨next, others, shape⟩ := exists_ofChar_eq_cons notPlain
  refine clean (List.mem_flatMap.mpr ⟨character, member, ?_⟩)
  rw [shape]
  exact List.mem_cons_self

/-- Escapes make no text shorter. -/
theorem length_le_ofChars (text : List Char) :
    text.length ≤ (escaping.ofChars text).length := by
  induction text with
  | nil => exact Nat.zero_le _
  | cons first rest inductionHypothesis =>
      have firstLong : 1 ≤ (escaping.ofChar first).length := by
        by_cases isPlain : escaping.plain first = true
        · simp [ofChar_of_plain isPlain]
        · obtain ⟨next, others, shape⟩ := exists_ofChar_eq_cons isPlain
          simp [shape]
      unfold ofChars at inductionHypothesis ⊢
      rw [List.flatMap_cons, List.length_append, List.length_cons]
      omega

/-- Escaping leaves a text alone exactly when it leaves every character alone. -/
theorem ofChars_eq_self_iff :
    escaping.ofChars text = text ↔
      ∀ character ∈ text, escaping.plain character = true := by
  refine ⟨fun unchanged => ?_, ofChars_of_plain⟩
  induction text with
  | nil => simp
  | cons first rest inductionHypothesis =>
      unfold ofChars at unchanged
      rw [List.flatMap_cons] at unchanged
      by_cases isPlain : escaping.plain first = true
      · rw [ofChar_of_plain isPlain] at unchanged
        exact
          List.forall_mem_cons.mpr
            ⟨isPlain, inductionHypothesis (List.cons.inj unchanged).2⟩
      · -- One character has grown and no other one has shrunk.
        obtain ⟨next, others, shape⟩ := exists_ofChar_eq_cons isPlain
        have lengths := congrArg List.length unchanged
        have restLong : rest.length ≤ (escaping.ofChars rest).length :=
          length_le_ofChars rest
        unfold ofChars at restLong
        rw [shape, List.length_append] at lengths
        simp only [List.length_cons] at lengths
        omega

/-- The bytes of a form field are read until the next escape. -/
theorem decodeBytes_of_plain
    (notPlus : character ≠ '+')
    (notPercent : character ≠ '%')
    (rest : List Char) :
    Form.decodeBytes (character :: rest) =
      Text.Utf8.encodeChar character ++ Form.decodeBytes rest := by
  simp [Form.decodeBytes, notPercent]

/-- An escaped byte is read back. -/
theorem decodeBytes_ofByte (byte : UInt8) (rest : List Char) :
    Form.decodeBytes (ofByte byte ++ rest) =
      byte :: Form.decodeBytes rest := by
  have below := byte.toNat_lt
  have value :
      Text.valueOf? 16
          [hexDigit (byte.toNat / 16), hexDigit (byte.toNat % 16)] =
        some byte.toNat := by
    simp only [Text.valueOf?, List.foldl_cons, List.foldl_nil,
      digitValue?_hexDigit (byte.toNat / 16) (by omega),
      digitValue?_hexDigit (byte.toNat % 16) (by omega)]
    simp [Nat.div_add_mod']
  simp [ofByte, Form.decodeBytes, value]

/-- Escaped bytes are read back. -/
theorem decodeBytes_ofBytes (bytes : List UInt8) (rest : List Char) :
    Form.decodeBytes (bytes.flatMap ofByte ++ rest) =
      bytes ++ Form.decodeBytes rest := by
  induction bytes with
  | nil => rfl
  | cons byte others inductionHypothesis =>
      rw [List.flatMap_cons, List.append_assoc, decodeBytes_ofByte,
        inductionHypothesis, List.cons_append]

/-- An escaped text is read back as a form field, unless plus signs stay plain. -/
theorem decode_ofChars
    (escapesPlus : escaping.plain '+' = false)
    (text : List Char) :
    Form.decode (escaping.ofChars text) = String.ofList text := by
  have bytes :
      Form.decodeBytes (escaping.ofChars text) = Text.Utf8.encode text := by
    induction text with
    | nil => rfl
    | cons first rest inductionHypothesis =>
        unfold ofChars at inductionHypothesis ⊢
        rw [List.flatMap_cons, Text.Utf8.encode_cons, ← inductionHypothesis]
        by_cases isPlain : escaping.plain first = true
        · have notPlus : first ≠ '+' := by
            rintro rfl
            simp [escapesPlus] at isPlain
          have notPercent : first ≠ '%' := by
            rintro rfl
            exact absurd (escaping.segment '%' isPlain) (by decide)
          rw [ofChar_of_plain isPlain, List.singleton_append,
            decodeBytes_of_plain notPlus notPercent]
        · rw [ofChar, if_neg isPlain, decodeBytes_ofBytes]
  rw [Form.decode, bytes, Text.Utf8.decodeLossy_encode]

section

variable {key : String}

theorem toList_escape (escaping : Escaping) (key : String) :
    (escaping.escape key).toList = escaping.ofChars key.toList :=
  String.toList_ofList

/-- An escaped text has only plain characters, percent signs and hexadecimal digits. -/
theorem not_mem_escape
    (notPercent : character ≠ '%')
    (notAlphanum : character.isAlphanum = false)
    (notKept : character ∈ key.toList → escaping.plain character = false) :
    character ∉ (escaping.escape key).toList := by
  rw [toList_escape]
  intro member
  rcases mem_ofChars_cases member with ⟨inKey, isPlain⟩ | isPercent | isAlphanum
  · simp [notKept inKey] at isPlain
  · exact notPercent isPercent
  · simp [notAlphanum] at isAlphanum

/-- A text that is escaped does not become empty. -/
theorem escape_ne_empty
    (escaping : Escaping)
    (nonempty : key ≠ "") :
    escaping.escape key ≠ "" := by
  have size : key.toList.length ≤ (escaping.ofChars key.toList).length :=
    length_le_ofChars key.toList
  intro isEmpty
  rw [← toList_escape, isEmpty, String.toList_empty, List.length_nil,
    Nat.le_zero, List.length_eq_zero_iff, String.toList_eq_nil_iff] at size
  exact nonempty size

/-- A key is left alone exactly when every character of it is. -/
theorem escape_eq_self_iff :
    escaping.escape key = key ↔
      ∀ character ∈ key.toList, escaping.plain character = true := by
  rw [← String.toList_inj, toList_escape]
  exact ofChars_eq_self_iff

/-- A word without percent signs is the escape of no key but itself. -/
theorem escape_ne_of_ne
    {word : String}
    (noPercent : '%' ∉ word.toList)
    (differs : key ≠ word) :
    escaping.escape key ≠ word := by
  intro same
  have clean : '%' ∉ escaping.ofChars key.toList := by
    rw [← toList_escape, same]
    exact noPercent
  have unchanged := escape_eq_self_iff.mpr (plain_of_percent_not_mem clean)
  exact differs (unchanged.symm.trans same)

/-- A key is read back from the value of a form field. -/
theorem decode_escape
    (escapesPlus : escaping.plain '+' = false)
    (key : String) :
    Form.decode (escaping.escape key).toList = key := by
  rw [toList_escape, decode_ofChars escapesPlus, String.ofList_toList]

end

end Escaping

end MTConnect
