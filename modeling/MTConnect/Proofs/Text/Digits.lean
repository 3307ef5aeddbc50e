import MTConnect.Text.Digits
import Mathlib.Data.List.TakeDrop

namespace MTConnect.Text

/-!
# Digits that are read back

The digits of a number, read in the base in which they were written, give the
number again. Decimal digits stop where anything else begins, so a number is
read off the front of a text whole.
-/

/-- The value of digits that follow a number already read. -/
def valueFrom? (base soFar : Nat) (digits : List Char) : Option Nat :=
  digits.foldl
    (fun soFar? digit => do
      let soFar ← soFar?
      let value ← digitValue? base digit
      pure (soFar * base + value))
    (some soFar)

section

variable {base value : Nat} {baseLarge : 2 ≤ base}

theorem toNat_digitChar :
    ∀ value < 36,
      (digitChar value).toNat =
        if value < 10 then 0x30 + value else 0x57 + value := by
  decide

/-- A written digit has the value that it was written for. -/
theorem digitValue?_digitChar
    (baseSmall : base ≤ 36)
    (below : value < base) :
    digitValue? base (digitChar value) = some value := by
  unfold digitValue?
  rw [toNat_digitChar value (by omega)]
  by_cases decimal : value < 10
  · have inRange : 0x30 + value ≤ 0x39 := by omega
    simp [decimal, inRange, below]
  · have above : ¬ 0x57 + value ≤ 0x39 := by omega
    have inRange : 0x61 ≤ 0x57 + value ∧ 0x57 + value ≤ 0x7A := by omega
    simp [decimal, above, inRange, below]

/-- The first digit counts for all that was read so far times the base. -/
theorem valueFrom?_cons (base soFar : Nat) (digit : Char) (rest : List Char) :
    valueFrom? base soFar (digit :: rest) =
      (digitValue? base digit).bind fun value =>
        valueFrom? base (soFar * base + value) rest := by
  have stuck :
      ∀ digits : List Char,
        digits.foldl
            (fun soFar? digit =>
              Option.bind soFar? fun soFar =>
                (digitValue? base digit).bind fun value =>
                  some (soFar * base + value))
            none =
          none := by
    intro digits
    induction digits with
    | nil => rfl
    | cons digit rest inductionHypothesis => exact inductionHypothesis
  cases read : digitValue? base digit with
  | none => simpa [valueFrom?, read] using stuck rest
  | some value => simp [valueFrom?, read]

/-- Digits are read on from the value of those before them. -/
theorem valueFrom?_append (base soFar : Nat) (front back : List Char) :
    valueFrom? base soFar (front ++ back) =
      (valueFrom? base soFar front).bind fun read =>
        valueFrom? base read back := by
  induction front generalizing soFar with
  | nil => rfl
  | cons digit rest inductionHypothesis =>
      rw [List.cons_append, valueFrom?_cons, valueFrom?_cons,
        Option.bind_assoc]
      exact Option.bind_congr fun value _ => inductionHypothesis _

/-- More digits never make a number smaller. -/
theorem le_of_valueFrom?
    (baseLarge : 1 ≤ base)
    {soFar : Nat}
    {digits : List Char}
    (read : valueFrom? base soFar digits = some value) :
    soFar ≤ value := by
  induction digits generalizing soFar with
  | nil => exact Nat.le_of_eq (Option.some.inj read)
  | cons digit rest inductionHypothesis =>
      rw [valueFrom?_cons] at read
      obtain ⟨next, _, readRest⟩ := Option.bind_eq_some_iff.mp read
      calc
        soFar = soFar * 1 := (Nat.mul_one soFar).symm
        _ ≤ soFar * base := Nat.mul_le_mul_left soFar baseLarge
        _ ≤ soFar * base + next := Nat.le_add_right _ _
        _ ≤ value := inductionHypothesis readRest

/-- The digits of a number, highest first, are read as that number. -/
theorem valueOf?_lowDigits (baseSmall : base ≤ 36) (value : Nat) :
    valueOf? base ((lowDigits base value baseLarge).reverse.map digitChar) =
      some value := by
  change valueFrom? base 0 _ = some value
  induction value using lowDigits.induct base baseLarge with
  | case1 => simp [lowDigits, valueFrom?]
  | case2 value positive inductionHypothesis =>
      have below : value % base < base := Nat.mod_lt _ (by omega)
      rw [lowDigits, if_neg positive, List.reverse_cons, List.map_append,
        valueFrom?_append, inductionHypothesis]
      simp [valueFrom?, digitValue?_digitChar baseSmall below,
        Nat.div_add_mod']

/-- The digits of a number give the number back. -/
theorem valueOf?_inBase (baseSmall : base ≤ 36) (value : Nat) :
    valueOf? base (inBase base value baseLarge) = some value := by
  unfold inBase
  split
  next isZero =>
    have zeroDigit : digitValue? base '0' = some 0 :=
      digitValue?_digitChar baseSmall (show 0 < base by omega)
    simp [valueOf?, zeroDigit, isZero]
  next => exact valueOf?_lowDigits baseSmall value

end

/-- Nothing that goes on with the digits before a text stands in front of it. -/
def EndsDigits (text : List Char) : Prop :=
  ∀ character ∈ text.head?, character.isDigit = false

variable {value : Nat} {text : List Char}

theorem isDigit_iff {digit : Char} :
    digit.isDigit = true ↔ 0x30 ≤ digit.toNat ∧ digit.toNat ≤ 0x39 := by
  simp [Char.isDigit, UInt32.le_iff_toNat_le]

theorem digitValue?_of_isDigit
    {digit : Char}
    (isDigit : digit.isDigit = true) :
    digitValue? 10 digit = some (digit.toNat - 0x30) := by
  obtain ⟨atLeast, atMost⟩ := isDigit_iff.mp isDigit
  have small : digit.toNat - 0x30 < 10 := by omega
  simp [digitValue?, atLeast, atMost, small]

theorem isDigit_digitChar : ∀ value < 10, (digitChar value).isDigit = true := by
  decide

theorem digitChar_eq_zero_iff :
    ∀ value < 10, digitChar value = '0' ↔ value = 0 := by
  decide

/-- Every digit is below the base. -/
theorem mem_lowDigits_lt
    {base digit : Nat}
    {baseLarge : 2 ≤ base}
    (member : digit ∈ lowDigits base value baseLarge) :
    digit < base := by
  induction value using lowDigits.induct base baseLarge with
  | case1 => simp [lowDigits] at member
  | case2 value positive inductionHypothesis =>
      rw [lowDigits, if_neg positive] at member
      rcases List.mem_cons.mp member with isLowest | isHigher
      · exact isLowest ▸ Nat.mod_lt _ (by omega)
      · exact inductionHypothesis isHigher

/-- A number in base ten consists of digits. -/
theorem isDigit_of_mem_decimal
    {digit : Char}
    (member : digit ∈ decimal value) :
    digit.isDigit = true := by
  unfold decimal inBase at member
  split at member
  next => exact List.mem_singleton.mp member ▸ rfl
  next =>
    obtain ⟨digitOf, inDigits, rfl⟩ := List.mem_map.mp member
    exact
      isDigit_digitChar digitOf
        (mem_lowDigits_lt (List.mem_reverse.mp inDigits))

theorem decimal_ne_nil (value : Nat) : decimal value ≠ [] := by
  unfold decimal inBase
  split
  next => simp
  next positive =>
    rw [lowDigits, if_neg positive]
    simp

theorem exists_decimal_eq_cons (value : Nat) :
    ∃ digit rest, decimal value = digit :: rest ∧ digit.isDigit = true := by
  obtain ⟨digit, rest, shape⟩ :=
    List.exists_cons_of_ne_nil (decimal_ne_nil value)
  exact
    ⟨digit, rest, shape,
      isDigit_of_mem_decimal (shape ▸ List.mem_cons_self)⟩

/-- The highest digit of a number is not zero. -/
theorem getLast?_lowDigits_ne_zero
    {base : Nat}
    {baseLarge : 2 ≤ base}
    (value : Nat) :
    (lowDigits base value baseLarge).getLast? ≠ some 0 := by
  induction value using lowDigits.induct base baseLarge with
  | case1 => simp [lowDigits]
  | case2 value positive inductionHypothesis =>
      rw [lowDigits, if_neg positive, List.getLast?_cons]
      by_cases isLast : value / base = 0
      · have below : value < base :=
          (Nat.div_eq_zero_iff.mp isLast).resolve_left (by omega)
        simp [lowDigits, isLast, Nat.mod_eq_of_lt below, positive]
      · cases shape : (lowDigits base (value / base) baseLarge).getLast? with
        | none =>
            rw [List.getLast?_eq_none_iff, lowDigits, if_neg isLast] at shape
            simp at shape
        | some last =>
            rw [shape] at inductionHypothesis
            simpa using inductionHypothesis

/-- Only the number zero is written with a zero in front. -/
theorem decimal_eq_of_head_zero (leading : (decimal value).head? = some '0') :
    decimal value = ['0'] := by
  unfold decimal inBase at leading ⊢
  split at leading
  next isZero => simp [isZero]
  next =>
    rw [List.head?_map, List.head?_reverse] at leading
    obtain ⟨last, isLast, lastZero⟩ := Option.map_eq_some_iff.mp leading
    have below := mem_lowDigits_lt (List.mem_of_getLast? isLast)
    rw [(digitChar_eq_zero_iff last below).mp lastZero] at isLast
    exact absurd isLast (getLast?_lowDigits_ne_zero value)

theorem valueOf?_decimal (value : Nat) : valueOf? 10 (decimal value) = some value :=
  valueOf?_inBase (by decide) value

theorem decimalValue?_decimal (value : Nat) :
    decimalValue? (decimal value) = some value := by
  simp [decimalValue?, decimal_ne_nil, valueOf?_decimal]

/-- The digits of a positive number are those that the standard library gives it. -/
theorem lowDigits_eq_toDigits
    {baseLarge : 2 ≤ 10}
    (positive : value ≠ 0) :
    (lowDigits 10 value baseLarge).reverse.map digitChar =
      Nat.toDigits 10 value := by
  have sameDigit : ∀ digit < 10, digitChar digit = digit.digitChar := by
    decide
  induction value using lowDigits.induct 10 baseLarge with
  | case1 => exact absurd rfl positive
  | case2 value _ inductionHypothesis =>
      have below : value % 10 < 10 := Nat.mod_lt _ (by decide)
      rw [lowDigits, if_neg positive, List.reverse_cons, List.map_append,
        List.map_singleton, sameDigit _ below]
      by_cases small : value < 10
      · have noMore : value / 10 = 0 := Nat.div_eq_of_lt small
        rw [Nat.toDigits_of_lt_base small, noMore, Nat.mod_eq_of_lt small]
        simp [lowDigits]
      · rw [Nat.toDigits_of_base_le (by decide) (by omega),
          inductionHypothesis (by omega)]

/-- Numbers are shown in the decimal digits of this library. -/
theorem toList_toString (value : Nat) :
    (toString value).toList = decimal value := by
  have shown : (toString value).toList = Nat.toDigits 10 value :=
    Nat.toList_repr
  unfold decimal inBase
  split
  next isZero => rw [shown, isZero, Nat.toDigits_zero]
  next positive => rw [shown, lowDigits_eq_toDigits positive]

/-- The digits of a number are read off the front of a text whole. -/
theorem spanDigits_decimal
    (value : Nat)
    (ends : EndsDigits text) :
    spanDigits (decimal value ++ text) = (decimal value, text) := by
  unfold spanDigits
  rw [List.span_eq_takeWhile_dropWhile,
    List.takeWhile_append_of_pos fun _ => isDigit_of_mem_decimal,
    List.dropWhile_append_of_pos fun _ => isDigit_of_mem_decimal]
  cases text with
  | nil => simp
  | cons first rest =>
      have stops := ends first rfl
      simp [stops]

end MTConnect.Text
