import MTConnect.Json.Reader
import MTConnect.Json.Writer
import MTConnect.Proofs.Text.Digits

namespace MTConnect.Json

/-!
# Strings and numbers that are read back

What is written for a string or a whole number is read as that string or
number, and reading stops right behind it. A string may hold any characters:
those that would end it, or that may not stand in it, are escaped.
-/

open Text

section

variable {value : Nat}

/-- The code of a control character takes two zeros and two digits. -/
theorem padZeros_hexadecimal (small : value < 0x100) :
    padZeros 4 (hexadecimal value) =
      ['0', '0', digitChar (value / 16), digitChar (value % 16)] := by
  unfold hexadecimal inBase
  by_cases isZero : value = 0
  · subst isZero
    decide
  · have highSmall : value / 16 < 16 := by omega
    rw [if_neg isZero, lowDigits, if_neg isZero, lowDigits]
    by_cases oneDigit : value / 16 = 0
    · simp [oneDigit, padZeros, List.replicate]
      decide
    · have done : value / 16 / 16 = 0 := by omega
      rw [if_neg oneDigit, done, lowDigits]
      simp [padZeros, List.replicate, Nat.mod_eq_of_lt highSmall]

/-- Two zeros and two hexadecimal digits are read as their number. -/
theorem hexUnit?_digits (small : value < 0x100) :
    hexUnit? '0' '0' (digitChar (value / 16)) (digitChar (value % 16)) =
      some value := by
  have zero : digitValue? 16 '0' = some 0 := by decide
  have high : digitValue? 16 (digitChar (value / 16)) = some (value / 16) :=
    digitValue?_digitChar (by decide) (by omega)
  have low : digitValue? 16 (digitChar (value % 16)) = some (value % 16) :=
    digitValue?_digitChar (by decide) (by omega)
  simp [hexUnit?, valueOf?, zero, high, low, Nat.div_add_mod']

end

/-- A character that is not escaped stands for itself. -/
theorem readString?_plain
    {character : Char}
    (notQuote : character ≠ '\x22')
    (notBackslash : character ≠ '\\')
    (printable : ¬ character.toNat < 0x20)
    (text : List Char) :
    readString? (character :: text) =
      consRead character (readString? text) := by
  rw [readString?.eq_def]
  split
  next impossible => simp at impossible
  next same => exact absurd (List.cons.inj same).1 notBackslash
  next same => exact absurd (List.cons.inj same).1 notBackslash
  next same =>
    obtain ⟨rfl, rfl⟩ := List.cons.inj same
    simp [notQuote, notBackslash, printable]

/-- What is written for a character is read as that character. -/
theorem readString?_escapeChar (character : Char) (text : List Char) :
    readString? (escapeChar character ++ text) =
      consRead character (readString? text) := by
  unfold escapeChar
  split
  next => simp [readString?, shortEscape?]
  next => simp [readString?, shortEscape?]
  next => simp [readString?, shortEscape?]
  next => simp [readString?, shortEscape?]
  next => simp [readString?, shortEscape?]
  next => simp [readString?, shortEscape?]
  next => simp [readString?, shortEscape?]
  next notQuote notBackslash _ _ _ _ _ =>
    split
    next isControl =>
      have small : character.toNat < 0x100 := by omega
      have notOpening : opensPair character.toNat = false := by
        simp [opensPair]
        omega
      have notClosing : closesPair character.toNat = false := by
        simp [closesPair]
        omega
      rw [padZeros_hexadecimal small]
      simp [readString?, hexUnit?_digits small, notOpening, notClosing]
    next printable =>
      exact readString?_plain notQuote notBackslash printable text

/-- What is written for a string is read up to and with its closing quote. -/
theorem readString?_escaped (text rest : List Char) :
    readString? (text.flatMap escapeChar ++ '\x22' :: rest) =
      some (text, rest) := by
  induction text with
  | nil => simp [readString?]
  | cons character others inductionHypothesis =>
      rw [List.flatMap_cons, List.append_assoc, readString?_escapeChar,
        inductionHypothesis]
      rfl

/-- As long as the number stays a word, all digits are taken in. -/
theorem absorb_eq
    {significand value : Nat}
    {digits : List Char}
    (decimal : ∀ digit ∈ digits, digit.isDigit = true)
    (read : valueFrom? 10 significand digits = some value)
    (fits : value ≤ Word.top) :
    absorb significand digits = (value, []) := by
  induction digits generalizing significand with
  | nil => rw [absorb, Option.some.inj read]
  | cons digit rest inductionHypothesis =>
      rw [valueFrom?_cons,
        digitValue?_of_isDigit (decimal digit List.mem_cons_self),
        Option.bind_some] at read
      have grownFits := Nat.le_trans (le_of_valueFrom? (by decide) read) fits
      simp only [absorb, grownFits, if_true]
      exact
        inductionHypothesis
          (fun other member => decimal other (List.mem_cons_of_mem digit member))
          read

theorem absorb_decimal
    {value : Nat}
    (fits : value ≤ Word.top) :
    absorb 0 (decimal value) = (value, []) :=
  absorb_eq (fun _ => isDigit_of_mem_decimal) (valueOf?_decimal value) fits

/-- Nothing that goes on with the number before a text stands in front of it. -/
def EndsNumber (text : List Char) : Prop :=
  ∀ character ∈ text.head?,
    character.isDigit = false ∧
      character ≠ '.' ∧ character ≠ 'e' ∧ character ≠ 'E'

section

variable {text : List Char}

theorem readFraction?_of_ends (ends : EndsNumber text) :
    readFraction? text = some ([], text) := by
  unfold readFraction?
  split
  next => exact absurd rfl (ends '.' rfl).2.1
  next => rfl

/-- A number that ends has no exponent. -/
theorem readExponent?_of_ends (ends : EndsNumber text) :
    readExponent? text = some (none, text) := by
  unfold readExponent?
  dsimp only
  split
  next => exact absurd rfl (ends 'e' rfl).2.2.1
  next => exact absurd rfl (ends 'E' rfl).2.2.2
  next => rfl

/-- Digits without a point and an exponent are a whole number. -/
theorem readMagnitude?_decimal
    {negative : Bool}
    {value : Nat}
    {whole : Json}
    (fits : value ≤ Word.top)
    (wholeEq : wholeOfParts? negative value = some whole)
    (ends : EndsNumber text) :
    readMagnitude? negative (decimal value ++ text) = some (whole, text) := by
  have spanned : spanDigits (decimal value ++ text) = (decimal value, text) :=
    spanDigits_decimal value fun character atFront => (ends character atFront).1
  have wellFormed :
      ((decimal value).isEmpty ||
        ((decimal value).head? == some '0' && decimal value != ['0'])) =
          false := by
    by_cases leading : (decimal value).head? = some '0'
    · simp [decimal_eq_of_head_zero leading]
    · simp [leading, decimal_ne_nil]
  simp [readMagnitude?, spanned, wellFormed, readFraction?_of_ends ends,
    readExponent?_of_ends ends, absorb_decimal fits, wholeEq]

/-- A number that is written is read as that number. -/
theorem readNumber?_signedDecimal
    {value : Int}
    (atLeast : -(Word.signedTop : Int) - 1 ≤ value)
    (atMost : value ≤ (Word.top : Int))
    (ends : EndsNumber text) :
    readNumber? (signedDecimal value ++ text) = some (.integer value, text) := by
  have signedBelow : Word.signedTop + 1 ≤ Word.top := by decide
  unfold signedDecimal
  by_cases negative : value < 0
  · have wholeEq :
        wholeOfParts? true value.natAbs = some (.integer value) := by
      have inRange : 0 < value.natAbs ∧ value.natAbs ≤ Word.signedTop + 1 := by
        omega
      have signed : -(value.natAbs : Int) = value := by omega
      simp only [wholeOfParts?, if_true, inRange, and_self, signed]
    rw [if_pos negative, List.cons_append, readNumber?]
    exact readMagnitude?_decimal (by omega) wholeEq ends
  · have wholeEq :
        wholeOfParts? false value.natAbs = some (.integer value) := by
      have unsigned : (value.natAbs : Int) = value := by omega
      simp [wholeOfParts?, unsigned]
    have noSign : ∀ rest, decimal value.natAbs ++ text ≠ '-' :: rest := by
      obtain ⟨digit, others, shape, isDigit⟩ :=
        exists_decimal_eq_cons value.natAbs
      intro rest same
      rw [shape, List.cons_append] at same
      rw [(List.cons.inj same).1] at isDigit
      exact absurd isDigit (by decide)
    rw [if_neg negative, readNumber?]
    · exact readMagnitude?_decimal (by omega) wholeEq ends
    · exact noSign

end

end MTConnect.Json
