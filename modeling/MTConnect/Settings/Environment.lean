import MTConnect.Decimal.Literal
import MTConnect.Settings.KeyPath
import MTConnect.Text.Numeral

namespace MTConnect.Environment

/-!
# Settings from the environment

A variable whose name begins with the prefix, in any case, is a setting. The
rest of its name, in lower case, is a path in which two underscores stand for
a point. A value that looks like a truth value, a whole number or a decimal
literal is one; any other value is a text.

Paths are made of ASCII characters. One character outside ASCII has a lower
case inside it, the sign of the unit kelvin.
-/

/-- What the names of its variables begin with, in lower case. -/
def lead : List Char :=
  "mtconnect_".toList

/-- The lower case of a name, as far as paths need it. -/
def lowered (name : String) : List Char :=
  (Text.lowerAscii name.toList).map
    fun character => if character = '\u212a' then 'k' else character

/-- Write points for pairs of underscores, from the left. -/
def withPoints : List Char → List Char
  | '_' :: '_' :: rest => '.' :: withPoints rest
  | character :: rest => character :: withPoints rest
  | [] => []

/-- The name of a setting, if a variable is one. -/
def settingName? (name : String) : Option String :=
  (Text.dropLead? lead (lowered name)).map
    fun rest => String.ofList (withPoints rest)

/-- The value of a variable. -/
def settingValue (value : String) : Setting :=
  match Text.truth? (Text.lowerAscii value.toList) with
  | some truth => .flag truth
  | none =>
      match Text.signedWord? value.toList with
      | some whole => .whole whole
      | none =>
          match Decimal.literal? value.toList with
          | some real => .real real
          | none => .text value

/-- The settings of an environment; of several with one name the last one counts. -/
def settings (environment : List (String × String)) : List (String × Setting) :=
  environment.foldl
    (fun soFar entry =>
      match settingName? entry.1 with
      | some name => Setting.putEntry name (settingValue entry.2) soFar
      | none => soFar)
    []

end MTConnect.Environment
