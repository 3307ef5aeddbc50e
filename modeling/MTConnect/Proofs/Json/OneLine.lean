import MTConnect.Json.Writer
import MTConnect.Proofs.Text.Visible

namespace MTConnect.Json

/-!
# JSON on one line

A value is written without control characters, since strings have theirs
escaped. Whatever texts a value holds, it takes exactly one line.
-/

/-- A text without control characters. -/
abbrev Unbroken (text : List Char) : Prop :=
  Text.From 0x20 text

theorem unbroken_of_visible
    {text : List Char}
    (visible : Text.Visible text) :
    Unbroken text :=
  visible.mono (by decide)

/-- A character is escaped if it is a control character, so none is left. -/
theorem unbroken_escapeChar (character : Char) : Unbroken (escapeChar character) := by
  unfold escapeChar
  split
  case h_8 =>
    split
    next =>
      have digits : Text.Visible (Text.hexadecimal character.toNat) :=
        .inBase (by decide) _
      exact
        .append (.word (by decide))
          (unbroken_of_visible (.padZeros 4 digits))
    next large => exact .cons (Nat.not_lt.mp large) .nil
  -- The named escapes are words of two characters.
  all_goals exact .word (by decide)

theorem unbroken_writeString (text : String) : Unbroken (writeString text) := by
  refine .cons (by decide) (.append ?_ (.word (by decide)))
  intro character member
  obtain ⟨source, _, inEscaped⟩ := List.mem_flatMap.mp member
  exact unbroken_escapeChar source character inEscaped

theorem unbroken_signedDecimal (value : Int) : Unbroken (Text.signedDecimal value) := by
  have digits : Unbroken (Text.decimal value.natAbs) :=
    unbroken_of_visible (.decimal _)
  unfold Text.signedDecimal
  split
  next => exact .cons (by decide) digits
  next => exact digits

theorem unbroken_writeReal (value : Float) : Unbroken (writeReal value) := by
  unfold writeReal
  split
  next => exact unbroken_of_visible (Decimal.visible_shortest value)
  next => exact .word (by decide)

mutual

/-- Whatever a value holds, it is written without control characters. -/
theorem unbroken_write : ∀ value, Unbroken (write value)
  | .null => .word (by decide)
  | .bool true => .word (by decide)
  | .bool false => .word (by decide)
  | .integer value => unbroken_signedDecimal value
  | .real value => unbroken_writeReal value
  | .string text => unbroken_writeString text
  | .array [] => .word (by decide)
  | .array (item :: rest) =>
      .append (.cons (by decide) (unbroken_write item))
        (unbroken_writeItems rest)
  | .object [] => .word (by decide)
  | .object ((name, value) :: rest) =>
      .append
        (.append (.cons (by decide) (unbroken_writeString name))
          (.cons (by decide) (unbroken_write value)))
        (unbroken_writeMembers rest)

theorem unbroken_writeItems : ∀ items, Unbroken (writeItems items)
  | [] => .word (by decide)
  | item :: rest =>
      .append (.cons (by decide) (unbroken_write item))
        (unbroken_writeItems rest)

theorem unbroken_writeMembers : ∀ members, Unbroken (writeMembers members)
  | [] => .word (by decide)
  | (name, value) :: rest =>
      .append
        (.append (.cons (by decide) (unbroken_writeString name))
          (.cons (by decide) (unbroken_write value)))
        (unbroken_writeMembers rest)

end

end MTConnect.Json
