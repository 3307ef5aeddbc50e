import MTConnect.Proofs.Device.Path.Writing
import MTConnect.Proofs.Text.Cutting

namespace MTConnect.Path

/-!
# How clauses are spelled

A clause is read if it is a name behind a sign and, behind the first sign of
equality, something between two equal quotes, with white space as one likes.
The name may be any text without a sign of equality, the empty one included,
and what stands between the quotes may contain the same quote again. A clause
of the documented form is stricter in these three ways.
-/

/-- A value is unquoted if it stands between two such quotes. -/
theorem unquoteWith?_eq_some_iff
    {quote : Char}
    {text value : List Char} :
    unquoteWith? quote text = some value ↔
      text = quote :: (value ++ [quote]) := by
  simp only [unquoteWith?, Option.bind_eq_some_iff,
    Text.dropLead?_eq_some_iff, Text.dropLast?_eq_some_iff]
  constructor
  · rintro ⟨_, rfl, rfl⟩
    rfl
  · rintro rfl
    exact ⟨_, rfl, rfl⟩

/-- A value is taken out of two equal quotes, whatever stands between them. -/
theorem unquote?_eq_some_iff {text value : List Char} :
    unquote? text = some value ↔
      ∃ quote, isQuote quote = true ∧ text = quote :: (value ++ [quote]) := by
  constructor
  · intro unquoted
    rw [unquote?] at unquoted
    split at unquoted
    next inner double =>
      obtain rfl := Option.some.inj unquoted
      exact ⟨'\x22', rfl, unquoteWith?_eq_some_iff.mp double⟩
    next =>
      exact ⟨'\x27', rfl, unquoteWith?_eq_some_iff.mp unquoted⟩
  · rintro ⟨quote, opens, rfl⟩
    exact unquote?_enclosed opens value

/-- The parts of a clause that is read, with the white space between them. -/
structure Spelling where
  lead : List Char
  before : List Char
  key : List Char
  behind : List Char
  gap : List Char
  quote : Char
  value : List Char
  trail : List Char
  isBlank_of_lead : ∀ character ∈ lead, Text.isBlank character = true
  isBlank_of_before : ∀ character ∈ before, Text.isBlank character = true
  isBlank_of_behind : ∀ character ∈ behind, Text.isBlank character = true
  isBlank_of_gap : ∀ character ∈ gap, Text.isBlank character = true
  isBlank_of_trail : ∀ character ∈ trail, Text.isBlank character = true
  isBlank_head : ∀ character ∈ key.head?, Text.isBlank character = false
  isBlank_last : ∀ character ∈ key.getLast?, Text.isBlank character = false
  equals_not_mem : '=' ∉ key
  isQuote_quote : isQuote quote = true

/-- Whether a character may stand in the name of an attribute. -/
def isAttributeChar (character : Char) : Bool :=
  character.isAlphanum || character == '_' || character == '-' ||
    character == ':'

namespace Spelling

/-- What is left of a clause without the white space around it. -/
def core (spelling : Spelling) : List Char :=
  '@' :: (spelling.before ++ spelling.key ++ spelling.behind ++
    '=' :: (spelling.gap ++
      spelling.quote :: (spelling.value ++ [spelling.quote])))

/-- The text of a clause. -/
def text (spelling : Spelling) : List Char :=
  spelling.lead ++ spelling.core ++ spelling.trail

/-- The test that a clause is read as. -/
def test (spelling : Spelling) : Test where
  key := String.ofList spelling.key
  value := String.ofList spelling.value

/-- The documented form: the attribute has a proper name, and the value lacks its quote. -/
structure IsDocumented (spelling : Spelling) : Prop where
  key_ne_nil : spelling.key ≠ []
  isAttributeChar_of_mem :
    ∀ character ∈ spelling.key, isAttributeChar character = true
  quote_not_mem : spelling.quote ∉ spelling.value

variable (spelling : Spelling)

theorem getLast?_core : spelling.core.getLast? = some spelling.quote := by
  simp [core, List.getLast?_cons, List.getLast?_append]

/-- Without the white space around it a clause is its core. -/
theorem trim_text : Text.trim spelling.text = spelling.core := by
  rw [Text.trim_eq_iff]
  refine
    ⟨⟨spelling.lead, spelling.trail, rfl, spelling.isBlank_of_lead,
      spelling.isBlank_of_trail⟩, ?_, ?_⟩
  · rintro _ ⟨⟩
    rfl
  · intro character isLast
    rw [spelling.getLast?_core] at isLast
    obtain rfl := Option.some.inj isLast
    exact isBlank_quote spelling.isQuote_quote

theorem trim_key :
    Text.trim (spelling.before ++ spelling.key ++ spelling.behind) =
      spelling.key := by
  rw [Text.trim_eq_iff]
  exact
    ⟨⟨spelling.before, spelling.behind, rfl, spelling.isBlank_of_before,
      spelling.isBlank_of_behind⟩, spelling.isBlank_head, spelling.isBlank_last⟩

/-- Without the white space around it the quoted value is left. -/
theorem trim_value :
    Text.trim
        (spelling.gap ++ spelling.quote :: (spelling.value ++ [spelling.quote])) =
      spelling.quote :: (spelling.value ++ [spelling.quote]) := by
  rw [Text.trim_eq_iff]
  refine ⟨⟨spelling.gap, [], by simp, spelling.isBlank_of_gap, by simp⟩, ?_, ?_⟩
  · rintro _ ⟨⟩
    exact isBlank_quote spelling.isQuote_quote
  · intro character isLast
    rw [List.getLast?_cons, List.getLast?_concat] at isLast
    obtain rfl := Option.some.inj isLast
    exact isBlank_quote spelling.isQuote_quote

/-- The first equals sign stands behind the name. -/
theorem equals_not_mem_padded :
    '=' ∉ spelling.before ++ spelling.key ++ spelling.behind := by
  have visible : Text.isBlank '=' ≠ true := by decide
  simp only [List.mem_append, not_or]
  exact
    ⟨⟨fun member => visible (spelling.isBlank_of_before '=' member),
        spelling.equals_not_mem⟩,
      fun member => visible (spelling.isBlank_of_behind '=' member)⟩

/-- A clause is read however it is spelled. -/
theorem readTest_text : readTest spelling.text = .ok spelling.test := by
  have marked :
      Text.dropLead? ['@'] spelling.core =
        some
          (spelling.before ++ spelling.key ++ spelling.behind ++
            '=' :: (spelling.gap ++
              spelling.quote :: (spelling.value ++ [spelling.quote]))) :=
    Text.dropLead?_eq_some_iff.mpr rfl
  simp only [readTest, spelling.trim_text, marked,
    Text.splitOnce?_append spelling.equals_not_mem_padded, spelling.trim_value,
    unquote?_enclosed spelling.isQuote_quote, spelling.trim_key, test]

/-- The ways to spell a clause differ only in white space. -/
theorem parts_eq_of_text_eq
    {spelling other : Spelling}
    (same : spelling.text = other.text) :
    spelling.key = other.key ∧ spelling.quote = other.quote ∧
      spelling.value = other.value := by
  have sameTest : spelling.test = other.test := by
    have reading := spelling.readTest_text
    rw [same, other.readTest_text] at reading
    exact (Except.ok.inj reading).symm
  have sameCore : spelling.core = other.core := by
    rw [← trim_text, same, trim_text]
  have sameLast := congrArg List.getLast? sameCore
  rw [getLast?_core, getLast?_core] at sameLast
  obtain ⟨sameKey, sameValue⟩ := Test.mk.inj sameTest
  exact
    ⟨String.ofList_injective sameKey, Option.some.inj sameLast,
      String.ofList_injective sameValue⟩

/-- The parts of a clause that were trimmed one by one make up a spelling. -/
theorem exists_text_eq
    {clause paddedKey paddedValue key value : List Char}
    {quote : Char}
    (padded :
      Text.Padded clause ('@' :: (paddedKey ++ '=' :: paddedValue)))
    (noEquals : '=' ∉ paddedKey)
    (named : Text.Padded paddedKey key)
    (enclosed : Text.Padded paddedValue (quote :: (value ++ [quote])))
    (opens : isQuote quote = true) :
    ∃ spelling : Spelling,
      spelling.text = clause ∧ spelling.key = key ∧ spelling.value = value := by
  obtain ⟨lead, trail, rfl, blankLead, blankTrail⟩ := padded.around
  obtain ⟨before, behind, rfl, blankBefore, blankBehind⟩ := named.around
  obtain ⟨gap, late, rfl, blankGap, blankLate⟩ := enclosed.around
  refine
    ⟨{ lead := lead
       before := before
       key := key
       behind := behind
       gap := gap
       quote := quote
       value := value
       trail := late ++ trail
       isBlank_of_lead := blankLead
       isBlank_of_before := blankBefore
       isBlank_of_behind := blankBehind
       isBlank_of_gap := blankGap
       isBlank_of_trail := List.forall_mem_append.mpr ⟨blankLate, blankTrail⟩
       isBlank_head := named.headVisible
       isBlank_last := named.lastVisible
       equals_not_mem := fun member => noEquals (by simp [member])
       isQuote_quote := opens }, ?_, rfl, rfl⟩
  simp [text, core]

end Spelling

/-- What is read as a clause is spelled as one. -/
theorem readTest_eq_ok_iff
    {clause : List Char}
    {test : Test} :
    readTest clause = .ok test ↔
      ∃ spelling : Spelling, spelling.text = clause ∧ spelling.test = test := by
  constructor
  · intro read
    have padded := Text.padded_trim clause
    rw [readTest] at read
    generalize Text.trim clause = core at padded read
    split at read
    next => cases read
    next body marked =>
      split at read
      next => cases read
      next paddedKey paddedValue halves =>
        split at read
        next => cases read
        next value unquoted =>
          obtain rfl := Except.ok.inj read
          obtain rfl := Text.dropLead?_eq_some_iff.mp marked
          obtain ⟨rfl, noEquals⟩ := Text.splitOnce?_eq_some_iff.mp halves
          obtain ⟨quote, opens, enclosed⟩ := unquote?_eq_some_iff.mp unquoted
          obtain ⟨spelling, textEq, keyEq, valueEq⟩ :=
            Spelling.exists_text_eq padded noEquals
              (Text.padded_trim paddedKey) (Text.trim_eq_iff.mp enclosed) opens
          refine ⟨spelling, textEq, ?_⟩
          rw [Spelling.test, keyEq, valueEq]
  · rintro ⟨spelling, rfl, rfl⟩
    exact spelling.readTest_text

end MTConnect.Path
