import MTConnect.Decimal.Fixed
import MTConnect.Decimal.Shortest
import MTConnect.Proofs.Text.Digits

namespace MTConnect.Text

/-!
# Numbers are written in visible characters

However a number is written, in digits alone or as a double with a point, no
blank and no control character is part of it, so nothing that separates texts
or lines can be.
-/

/-- A text of characters from a code on. -/
def From (least : Nat) (text : List Char) : Prop :=
  ∀ character ∈ text, least ≤ character.toNat

section

variable {least : Nat} {front back : List Char}

namespace From

/-- The empty text has no character below the code. -/
theorem nil : From least [] :=
  fun _ impossible => nomatch impossible

/-- A character of that code or above may be put before a text. -/
theorem cons
    {character : Char}
    (first : least ≤ character.toNat)
    (rest : From least back) :
    From least (character :: back) :=
  List.forall_mem_cons.mpr ⟨first, rest⟩

/-- Two such texts one after the other are such a text. -/
theorem append (first : From least front) (rest : From least back) :
    From least (front ++ back) :=
  List.forall_mem_append.mpr ⟨first, rest⟩

/-- Every text made of the characters of such a text is one. -/
theorem of_subset (whole : From least back) (part : front ⊆ back) :
    From least front :=
  fun character member => whole character (part member)

/-- The beginning of such a text is one. -/
theorem take (count : Nat) (whole : From least back) :
    From least (back.take count) :=
  whole.of_subset (List.take_subset _ _)

/-- What follows a beginning is such a text. -/
theorem drop (count : Nat) (whole : From least back) :
    From least (back.drop count) :=
  whole.of_subset (List.drop_subset _ _)

/-- What is left after characters were taken off the end is such a text. -/
theorem trimmed (drops : Char → Bool) (whole : From least back) :
    From least (back.reverse.dropWhile drops).reverse := by
  refine whole.of_subset fun character member => ?_
  have inReversed :=
    (List.dropWhile_suffix _).subset (List.mem_reverse.mp member)
  exact List.mem_reverse.mp inReversed

/-- A text of characters from a code on has them from every lower code on. -/
theorem mono
    {less : Nat}
    (atMost : less ≤ least)
    (whole : From least back) :
    From less back :=
  fun character member => Nat.le_trans atMost (whole character member)

/-- A given text is decided character by character. -/
theorem word (inRange : back.all (least ≤ ·.toNat)) : From least back := by
  simpa [From] using inRange

end From

end

/-- A text without blanks and control characters. -/
abbrev Visible (text : List Char) : Prop :=
  From 0x21 text

namespace Visible

/-- A run of zeros is visible. -/
theorem zeros (count : Nat) : Visible (List.replicate count '0') := by
  intro character member
  rw [List.eq_of_mem_replicate member]
  decide

/-- The digits of a number are visible in every base up to 36. -/
theorem inBase
    {base : Nat}
    {baseLarge : 2 ≤ base}
    (baseSmall : base ≤ 36)
    (value : Nat) :
    Visible (inBase base value baseLarge) := by
  unfold Text.inBase
  split
  next => exact .word (by decide)
  next =>
    intro character member
    obtain ⟨digit, inDigits, rfl⟩ := List.mem_map.mp member
    have below := mem_lowDigits_lt (List.mem_reverse.mp inDigits)
    rw [toNat_digitChar digit (by omega)]
    split
    next => omega
    next => omega

/-- A number in base ten is visible. -/
theorem decimal (value : Nat) : Visible (decimal value) :=
  inBase (by decide) value

/-- Zeros in front leave a visible text visible. -/
theorem padZeros
    {digits : List Char}
    (length : Nat)
    (visible : Visible digits) :
    Visible (padZeros length digits) :=
  (zeros _).append visible

end Visible

end MTConnect.Text

namespace MTConnect.Decimal

open Text (Visible)

/-- A number with a decimal point set into it is visible. -/
theorem visible_withPoint (places value : Nat) :
    Visible (withPoint places value) := by
  have digits := Visible.padZeros (places + 1) (.decimal value)
  unfold withPoint
  dsimp only
  split
  next => exact digits
  next => exact (digits.take _).append (.cons (by decide) (digits.drop _))

/-- A decimal number is visible, however many zeros its scale takes. -/
theorem visible_positional (number : Scaled) : Visible number.positional := by
  unfold Scaled.positional
  dsimp only
  split
  next => exact (Visible.decimal _).append (Visible.zeros _)
  next =>
    have digits :=
      Visible.padZeros ((-number.scale).toNat + 1) (.decimal number.digits)
    split
    next => exact digits.take _
    next =>
      exact (digits.take _).append (.cons (by decide) ((digits.drop _).trimmed _))

/-- A sign, or none, is visible. -/
theorem visible_sign (negative : Bool) :
    Visible (if negative then ['-'] else []) := by
  cases negative with
  | false => exact .nil
  | true => exact .word (by decide)

/-- A double with a fixed number of places is visible, infinities and NaN included. -/
theorem visible_fixed (places : Nat) (value : Float) :
    Visible (fixed places value) := by
  unfold fixed
  split
  next => exact .word (by decide)
  next negative _ => exact (visible_sign negative).append (.word (by decide))
  next negative _ _ =>
    exact (visible_sign negative).append (visible_withPoint places _)

/-- A double with a fixed number of places is never written as nothing. -/
theorem fixed_ne_nil (places : Nat) (value : Float) : fixed places value ≠ [] := by
  unfold fixed
  split
  next => simp
  next => simp
  next =>
    refine List.append_ne_nil_of_right_ne_nil _ ?_
    unfold withPoint
    dsimp only
    split
    next => simp [Text.padZeros, Text.decimal_ne_nil]
    next => simp

/-- A double in its shortest form is visible. -/
theorem visible_shortest (value : Float) : Visible (shortest value) := by
  unfold shortest
  split
  next => exact .word (by decide)
  next negative _ => exact (visible_sign negative).append (.word (by decide))
  next negative _ _ =>
    refine (visible_sign negative).append ?_
    split
    next => exact .word (by decide)
    next => exact visible_positional _

end MTConnect.Decimal
