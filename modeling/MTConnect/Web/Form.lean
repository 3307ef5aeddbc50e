import MTConnect.Fault
import MTConnect.SortedMap
import MTConnect.Text.Blank
import MTConnect.Text.Numeral
import MTConnect.Text.Split
import MTConnect.Text.Utf8

namespace MTConnect

/-!
# Form fields

The query of a request is a form: fields separated by ampersands, names from
values by the first equals sign. A plus sign stands for a space and a percent
sign with two hexadecimal digits for a byte; bytes that are not UTF-8 are
replaced. Of several fields of one name the last one counts.
-/

/-- The fields of a request by name. -/
structure Form where
  fields : SortedMap String String := .empty
  deriving Repr, DecidableEq, Inhabited

namespace Form

/-- The bytes of an encoded text. -/
def decodeBytes : List Char → List UInt8
  | [] => []
  | '+' :: rest => 0x20 :: decodeBytes rest
  | '%' :: high :: low :: rest =>
      match Text.valueOf? 16 [high, low] with
      | some value => value.toUInt8 :: decodeBytes rest
      | none => 0x25 :: decodeBytes (high :: low :: rest)
  | character :: rest => Text.Utf8.encodeChar character ++ decodeBytes rest

/-- The text of an encoded text. -/
def decode (text : List Char) : String :=
  String.ofList (Text.Utf8.decodeLossy (decodeBytes text))

/-- The name and the value of a field. -/
def readField (text : List Char) : String × String :=
  match Text.splitOnce? '=' text with
  | some (name, value) => (decode name, decode value)
  | none => (decode text, "")

/-- Read the fields of a query. -/
def read (query : List Char) : Form where
  fields :=
    .ofList (((Text.splitAt '&' query).filter (!·.isEmpty)).map readField)

/-- The value of a field. -/
def field? (form : Form) (name : String) : Option String :=
  form.fields.find? name

/-- Whether a field is there, with whatever value. -/
def has (form : Form) (name : String) : Bool :=
  (form.field? name).isSome

/-- The value of a field, unless it is empty. -/
def text? (form : Form) (name : String) : Option String :=
  (form.field? name).filter fun value => !value.isEmpty

/-- The value of a field, without the white space around it, read in some way. -/
def parse
    {α : Type}
    (read? : List Char → Option α)
    (form : Form)
    (name : String) :
    Except Fault (Option α) :=
  match form.field? name with
  | none => .ok none
  | some value =>
      match read? (Text.trim value.toList) with
      | some result => .ok (some result)
      | none => .error (.invalidRequest (.badParameter name value))

/-- The value of a field that is a word. -/
def word (form : Form) (name : String) : Except Fault (Option Nat) :=
  form.parse Text.word? name

/-- The value of a field that is a signed word. -/
def signedWord (form : Form) (name : String) : Except Fault (Option Int) :=
  form.parse Text.signedWord? name

/-- The value of a field that is a truth value. -/
def truth (form : Form) (name : String) : Except Fault (Option Bool) :=
  form.parse Text.truth? name

end Form

end MTConnect
