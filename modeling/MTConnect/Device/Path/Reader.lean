import MTConnect.Device.Path
import MTConnect.Text.Blank
import MTConnect.Text.Split

namespace MTConnect.Path

/-!
# Reading path expressions

Alternatives are separated by bars and steps by slashes, neither inside
brackets nor inside quotes. Only the steps named `Device` carry tests on the
device; the last step, `DataItem` or a star, carries the tests on the data
item; any other step is accepted and ignored. The tests of a step stand in
brackets, several of them joined by the word `and`.
-/

/-- Whether a character opens a quoted value. -/
def isQuote (character : Char) : Bool :=
  character == '\x22' || character == '\x27'

/-- The quote that is open after a character, given the one open before it. -/
def quoteAfter (quote? : Option Char) (character : Char) : Option Char :=
  match quote? with
  | some quote => if character = quote then none else some quote
  | none => if isQuote character then some character else none

/--
Split at a separator outside quotes and brackets. `quote?` is the open quote
and `depth` the number of open brackets; a closing bracket without an opening
one is ignored.
-/
def splitOutside (separator : Char) : Option Char → Nat → List Char → List (List Char)
  | _, _, [] => [[]]
  | some quote, depth, character :: rest =>
      Text.consPart character
        (splitOutside separator (quoteAfter (some quote) character) depth rest)
  | none, depth, character :: rest =>
      if isQuote character then
        Text.consPart character
          (splitOutside separator (some character) depth rest)
      else if character = '[' then
        Text.consPart character (splitOutside separator none (depth + 1) rest)
      else if character = ']' then
        Text.consPart character (splitOutside separator none (depth - 1) rest)
      else if character = separator ∧ depth = 0 then
        [] :: splitOutside separator none depth rest
      else
        Text.consPart character (splitOutside separator none depth rest)

/-- Split clauses at the word `and` between two spaces, outside quotes. -/
def splitAnd : Option Char → List Char → List (List Char)
  | _, [] => [[]]
  | some quote, character :: rest =>
      Text.consPart character
        (splitAnd (quoteAfter (some quote) character) rest)
  | none, ' ' :: 'a' :: 'n' :: 'd' :: ' ' :: rest => [] :: splitAnd none rest
  | none, character :: rest =>
      Text.consPart character (splitAnd (quoteAfter none character) rest)

/-- The text up to the first closing bracket outside quotes, and after it. -/
def closeBracket? : Option Char → List Char → Option (List Char × List Char)
  | _, [] => none
  | quote?, character :: rest =>
      if quote? = none ∧ character = ']' then
        some ([], rest)
      else
        (closeBracket? (quoteAfter quote? character) rest).map
          fun parts => (character :: parts.1, parts.2)

/-- What follows a closing bracket is shorter than what it was found in. -/
theorem length_lt_of_closeBracket?
    {quote? : Option Char}
    {text body rest : List Char}
    (closed : closeBracket? quote? text = some (body, rest)) :
    rest.length < text.length := by
  induction text generalizing quote? body with
  | nil =>
      simp [closeBracket?] at closed
  | cons character tail inductionHypothesis =>
      unfold closeBracket? at closed
      split at closed
      · obtain ⟨_, rfl⟩ := Prod.mk.inj (Option.some.inj closed)
        simp
      · obtain ⟨parts, found, same⟩ := Option.map_eq_some_iff.mp closed
        obtain ⟨_, rfl⟩ := Prod.mk.inj same
        have shorter := @inductionHypothesis _ parts.1 found
        simp only [List.length_cons]
        omega

/-- The text between a given quote at both ends. -/
def unquoteWith? (quote : Char) (value : List Char) : Option (List Char) :=
  (Text.dropLead? [quote] value).bind (Text.dropLast? quote)

/-- The text between quotes of either kind. -/
def unquote? (value : List Char) : Option (List Char) :=
  match unquoteWith? '\x22' value with
  | some inner => some inner
  | none => unquoteWith? '\x27' value

/-- Read one clause. -/
def readTest (text : List Char) : Except Defect Test :=
  let clause := Text.trim text
  match Text.dropLead? ['@'] clause with
  | none => .error (.notAttribute (String.ofList clause))
  | some body =>
      match Text.splitOnce? '=' body with
      | none => .error (.notEquality (String.ofList clause))
      | some (key, value) =>
          match unquote? (Text.trim value) with
          | none => .error (.bareValue (String.ofList clause))
          | some inner =>
              .ok
                { key := String.ofList (Text.trim key)
                  value := String.ofList inner }

/-- Read the clauses between two brackets. -/
def readClauses (text : List Char) : Except Defect (List Test) :=
  (splitAnd none text).mapM readTest

/-- Read the brackets after the name of a step. -/
def readBrackets (text : List Char) : Except Defect (List Test) :=
  match text with
  | [] => .ok []
  | '[' :: inside =>
      match _closed : closeBracket? none inside with
      | none => .error .openBracket
      | some (body, rest) => do
          let tests ← readClauses body
          let others ← readBrackets rest
          pure (tests ++ others)
  | _ => .error (.strayText (String.ofList text))
termination_by text.length
decreasing_by
  have := length_lt_of_closeBracket? _closed
  simp only [List.length_cons]
  omega

/-- Whether a character may stand in the name of a step. -/
def isNameChar (character : Char) : Bool :=
  character.isAlphanum || character == '*' || character == '_'

/-- A step: its name and its tests. -/
structure Step where
  name : List Char
  tests : List Test
  deriving Repr, DecidableEq

/-- Read one step. -/
def readStep (text : List Char) : Except Defect Step :=
  let step := Text.trim text
  let name := step.takeWhile (· != '[')
  let brackets := step.dropWhile (· != '[')
  if name.isEmpty || !name.all isNameChar then
    .error (.badStep (String.ofList step))
  else
    (readBrackets brackets).map fun tests => { name := name, tests := tests }

/-- The tests that the steps before the last put on the device. -/
def deviceTests (steps : List Step) : List Test :=
  steps.flatMap fun step =>
    if step.name = ['D', 'e', 'v', 'i', 'c', 'e'] then step.tests else []

/-- Whether a name may be that of the last step. -/
def isFinalName (name : List Char) : Bool :=
  name == ['D', 'a', 't', 'a', 'I', 't', 'e', 'm'] || name == ['*']

/-- Read one alternative. -/
def readTerm (text : List Char) : Except Defect Term :=
  if text.head? != some '/' then
    .error .noLeadingSlash
  else
    let steps := (splitOutside '/' none 0 text).filter (!·.isEmpty)
    match steps.getLast? with
    | none => .error .noSteps
    | some last => do
        let outer ← steps.dropLast.mapM readStep
        let final ← readStep last
        if isFinalName final.name then
          pure { device := deviceTests outer, item := final.tests }
        else
          .error (.finalStep (String.ofList final.name))

/-- Read one alternative with the white space around it. -/
def readAlternative (text : List Char) : Except Defect Term :=
  let alternative := Text.trim text
  if alternative.isEmpty then
    .error .emptyAlternative
  else
    readTerm alternative

/-- Read a path expression. -/
def read (text : List Char) : Except Defect Path :=
  ((splitOutside '|' none 0 text).mapM readAlternative).map Path.mk

/-- Read a path expression from a string. -/
def parse (text : String) : Except Defect Path :=
  read text.toList

end MTConnect.Path
