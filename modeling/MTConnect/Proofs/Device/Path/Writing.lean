import Mathlib.Data.List.Basic
import MTConnect.Proofs.Device.Path.Scanning

namespace MTConnect

/-!
# Writing path expressions

Every path whose attributes have plain names can be written down, as long as
no value has both kinds of quotes in it: a value is enclosed in a quote that it
does not contain, and nothing else of it matters. Reading what was written
gives the path back.
-/

/-- Letters and digits are visible. -/
theorem Text.isBlank_of_isAlphanum
    {character : Char}
    (alphanumeric : character.isAlphanum = true) :
    isBlank character = false := by
  have inRanges :
      (decide (character.val ≥ 'A'.val ∧ character.val ≤ 'Z'.val) ||
          (character.val ≥ 'a'.val && character.val ≤ 'z'.val) ||
          (character.val ≥ '0'.val && character.val ≤ '9'.val)) =
        true :=
    alphanumeric
  simp only [Bool.or_eq_true, Bool.and_eq_true, decide_eq_true_eq, ge_iff_le,
    UInt32.le_iff_toNat_le] at inRanges
  simp only [isBlank, Bool.or_eq_false_iff, Bool.and_eq_false_imp,
    decide_eq_true_eq, decide_eq_false_iff_not, beq_eq_false_iff_ne]
  have upTo : character.toNat ≤ 122 := by
    rcases inRanges with (upper | lower) | digit
    · exact Nat.le_trans upper.2 (by decide)
    · exact lower.2
    · exact Nat.le_trans digit.2 (by decide)
  have from48 : 48 ≤ character.toNat := by
    rcases inRanges with (upper | lower) | digit
    · exact Nat.le_trans (by decide) upper.1
    · exact Nat.le_trans (by decide) lower.1
    · exact digit.1
  omega

namespace Path

/-- A test and the quote to write its value in. -/
structure Clause where
  key : String
  value : String
  quote : Char
  isAlphanum_of_mem : ∀ character ∈ key.toList, character.isAlphanum = true
  isQuote_quote : isQuote quote = true
  quote_not_mem : quote ∉ value.toList

/-- A test can be written: its name is plain, and its value lacks one of the quotes. -/
structure Test.Writable (test : Test) : Prop where
  isAlphanum_of_mem :
    ∀ character ∈ test.key.toList, character.isAlphanum = true
  lacksQuote :
    ∃ quote, isQuote quote = true ∧ quote ∉ test.value.toList

namespace Clause

/-- The test that a clause is about. -/
def test (clause : Clause) : Test where
  key := clause.key
  value := clause.value

/-- The text of a clause. -/
def text (clause : Clause) : List Char :=
  '@' :: (clause.key.toList ++
    '=' :: clause.quote :: (clause.value.toList ++ [clause.quote]))

end Clause

/-- What stands between two clauses. -/
def conjunction : List Char :=
  [' ', 'a', 'n', 'd', ' ']

/-- Clauses in brackets; no brackets without clauses. -/
def bracketText (clauses : List Clause) : List Char :=
  if clauses.isEmpty then
    []
  else
    '[' :: (conjunction.intercalate (clauses.map Clause.text) ++ [']'])

/-- The name of the step with the tests on the device. -/
def deviceName : List Char :=
  ['D', 'e', 'v', 'i', 'c', 'e']

/-- The name of the step with the tests on the data item. -/
def itemName : List Char :=
  ['D', 'a', 't', 'a', 'I', 't', 'e', 'm']

theorem isAlphanum_deviceName :
    ∀ character ∈ deviceName, character.isAlphanum = true :=
  List.all_eq_true.mp rfl

theorem isAlphanum_itemName :
    ∀ character ∈ itemName, character.isAlphanum = true :=
  List.all_eq_true.mp rfl

/-- A term and the quotes to write its values in. -/
structure Alternative where
  device : List Clause
  item : List Clause

namespace Alternative

/-- The term that is written. -/
def term (alternative : Alternative) : Term where
  device := alternative.device.map Clause.test
  item := alternative.item.map Clause.test

/-- The steps of an alternative; none for the device if there are no tests on it. -/
def steps (alternative : Alternative) : List (List Char) :=
  if alternative.device.isEmpty then
    [itemName ++ bracketText alternative.item]
  else
    [deviceName ++ bracketText alternative.device,
      itemName ++ bracketText alternative.item]

/-- The text of an alternative: two slashes before each step. -/
def text (alternative : Alternative) : List Char :=
  alternative.steps.flatMap fun step => '/' :: '/' :: step

end Alternative

/-- The text of a path. -/
def text (alternatives : List Alternative) : List Char :=
  ['|'].intercalate (alternatives.map Alternative.text)

/-! ## Characters -/

/-- A plain character is none of the special ones. -/
theorem ne_of_isAlphanum
    {character other : Char}
    (alphanumeric : character.isAlphanum = true)
    (special : other.isAlphanum = false) :
    character ≠ other := by
  rintro rfl
  rw [alphanumeric] at special
  cases special

theorem isQuote_of_isAlphanum
    {character : Char}
    (alphanumeric : character.isAlphanum = true) :
    isQuote character = false := by
  have noDouble : character ≠ '\x22' := ne_of_isAlphanum alphanumeric rfl
  have noSingle : character ≠ '\x27' := ne_of_isAlphanum alphanumeric rfl
  simp [isQuote, noDouble, noSingle]

theorem isQuote_cases
    {quote : Char}
    (opens : isQuote quote = true) :
    quote = '\x22' ∨ quote = '\x27' := by
  simpa [isQuote] using opens

theorem isBlank_quote
    {quote : Char}
    (opens : isQuote quote = true) :
    Text.isBlank quote = false := by
  rcases isQuote_cases opens with rfl | rfl <;> rfl

/-! ## Clauses -/

/-- What is enclosed in a quote that it does not contain can be taken out again. -/
theorem unquote?_enclosed
    {quote : Char}
    (opens : isQuote quote = true)
    (value : List Char) :
    unquote? (quote :: (value ++ [quote])) = some value := by
  have same (quote : Char) :
      unquoteWith? quote (quote :: (value ++ [quote])) = some value := by
    have begins := Text.dropLead?_append [quote] (value ++ [quote])
    rw [List.singleton_append] at begins
    rw [unquoteWith?, begins]
    simp [Text.dropLast?]
  rcases isQuote_cases opens with rfl | rfl
  · rw [unquote?, same]
  · have other :
        unquoteWith? '\x22' ('\x27' :: (value ++ ['\x27'])) = none := by
      rw [unquoteWith?, Text.dropLead?_of_ne (by decide)]
      rfl
    rw [unquote?, other]
    exact same _

namespace Clause

variable (clause : Clause)

/-- A written clause has no white space around it. -/
theorem trim_text : Text.trim clause.text = clause.text := by
  apply Text.trim_eq_self
  · rintro _ ⟨⟩
    rfl
  · intro character isLast
    have last : clause.text.getLast? = some clause.quote := by
      simp [text, List.getLast?_cons, List.getLast?_append]
    rw [last] at isLast
    obtain rfl := Option.some.inj isLast
    exact isBlank_quote clause.isQuote_quote

/-- The name in a written clause has no white space around it. -/
theorem trim_key : Text.trim clause.key.toList = clause.key.toList := by
  apply Text.trim_eq_self
  · intro character isFirst
    exact
      Text.isBlank_of_isAlphanum
        (clause.isAlphanum_of_mem character (List.mem_of_head? isFirst))
  · intro character isLast
    exact
      Text.isBlank_of_isAlphanum
        (clause.isAlphanum_of_mem character (List.mem_of_getLast? isLast))

/-- A written clause is read as its test. -/
theorem readTest_text : readTest clause.text = .ok clause.test := by
  have noEquals : '=' ∉ clause.key.toList := by
    intro member
    exact
      ne_of_isAlphanum (clause.isAlphanum_of_mem '=' member) rfl rfl
  have enclosed :
      Text.trim (clause.quote :: (clause.value.toList ++ [clause.quote])) =
        clause.quote :: (clause.value.toList ++ [clause.quote]) := by
    apply Text.trim_eq_self
    · rintro _ ⟨⟩
      exact isBlank_quote clause.isQuote_quote
    · intro character isLast
      rw [List.getLast?_cons, List.getLast?_concat] at isLast
      obtain rfl := Option.some.inj isLast
      exact isBlank_quote clause.isQuote_quote
  have marked :
      Text.dropLead? ['@'] clause.text =
        some
          (clause.key.toList ++
            '=' :: clause.quote :: (clause.value.toList ++ [clause.quote])) :=
    Text.dropLead?_append ['@'] _
  simp only [readTest, clause.trim_text, marked,
    Text.splitOnce?_append noEquals, enclosed,
    unquote?_enclosed clause.isQuote_quote, clause.trim_key,
    String.ofList_toList, test]

/-- A clause has no brackets and no spaces outside its quotes. -/
theorem quotesClosed_text :
    QuotesClosed
      (fun character =>
        character ≠ '[' ∧ character ≠ ']' ∧ character ≠ ' ')
      clause.text := by
  have named :
      QuotesClosed
        (fun character =>
          character ≠ '[' ∧ character ≠ ']' ∧ character ≠ ' ')
        clause.key.toList := by
    apply QuotesClosed.of_plain
    · intro character member
      exact isQuote_of_isAlphanum (clause.isAlphanum_of_mem character member)
    · intro character member
      have alphanumeric := clause.isAlphanum_of_mem character member
      exact
        ⟨ne_of_isAlphanum alphanumeric rfl, ne_of_isAlphanum alphanumeric rfl,
          ne_of_isAlphanum alphanumeric rfl⟩
  refine .plain rfl (by decide) (named.append (.plain rfl (by decide) ?_))
  exact .quoted clause.isQuote_quote clause.quote_not_mem .nil

end Clause

/-- Readings that succeed one by one succeed together. -/
theorem mapM_map_ok
    {Source Written Value Failure : Type}
    {write : Source → Written}
    {read : Written → Except Failure Value}
    {value : Source → Value}
    {sources : List Source}
    (each : ∀ source ∈ sources, read (write source) = .ok (value source)) :
    (sources.map write).mapM read = .ok (sources.map value) := by
  induction sources with
  | nil => rfl
  | cons source others inductionHypothesis =>
      rw [List.forall_mem_cons] at each
      rw [List.map_cons, List.mapM_cons, each.1,
        inductionHypothesis each.2]
      rfl

/-- Clauses that are joined are found again. -/
theorem splitAnd_intercalate
    {clauses : List Clause}
    (nonempty : clauses ≠ []) :
    splitAnd none (conjunction.intercalate (clauses.map Clause.text)) =
      clauses.map Clause.text := by
  induction clauses with
  | nil => exact absurd rfl nonempty
  | cons clause others inductionHypothesis =>
      have closed :
          QuotesClosed (fun character => character ≠ ' ') clause.text :=
        clause.quotesClosed_text.mono fun _ outside => outside.2.2
      cases others with
      | nil =>
          have whole := closed.splitAnd []
          rw [List.append_nil] at whole
          rw [List.map_singleton, List.intercalate_singleton, whole]
          exact
            (Text.consParts_part clause.text [] []).trans
              (by rw [List.append_nil])
      | cons next later =>
          have cut (behind : List Char) :
              splitAnd none (conjunction ++ behind) =
                [] :: splitAnd none behind := by
            rw [conjunction]
            rfl
          have rest := inductionHypothesis (List.cons_ne_nil next later)
          rw [List.map_cons] at rest ⊢
          rw [List.map_cons, List.intercalate_cons_cons, List.append_assoc,
            closed.splitAnd, cut, rest, Text.consParts_part, List.append_nil]

/-! ## Brackets -/

/-- Joined clauses have no brackets outside quotes. -/
theorem quotesClosed_intercalate (clauses : List Clause) :
    QuotesClosed
      (fun character => character ≠ '[' ∧ character ≠ ']')
      (conjunction.intercalate (clauses.map Clause.text)) := by
  have closed (clause : Clause) :
      QuotesClosed
        (fun character => character ≠ '[' ∧ character ≠ ']')
        clause.text :=
    clause.quotesClosed_text.mono fun _ outside => ⟨outside.1, outside.2.1⟩
  have joint :
      QuotesClosed
        (fun character => character ≠ '[' ∧ character ≠ ']')
        conjunction :=
    .of_plain (by simp [conjunction, isQuote]) (by simp [conjunction])
  induction clauses with
  | nil => exact .nil
  | cons clause others inductionHypothesis =>
      cases others with
      | nil =>
          rw [List.map_singleton, List.intercalate_singleton]
          exact closed clause
      | cons next later =>
          rw [List.map_cons, List.map_cons, List.intercalate_cons_cons]
          exact ((closed clause).append joint).append inductionHypothesis

/-- Written brackets are read as the tests of their clauses. -/
theorem readBrackets_bracketText (clauses : List Clause) :
    readBrackets (bracketText clauses) = .ok (clauses.map Clause.test) := by
  cases clauses with
  | nil => rw [bracketText, List.isEmpty_nil, if_pos rfl, readBrackets]; rfl
  | cons clause others =>
      have nonempty := List.cons_ne_nil clause others
      generalize clause :: others = clauses at nonempty ⊢
      have closes :
          closeBracket? none
              (conjunction.intercalate (clauses.map Clause.text) ++ [']']) =
            some
              (conjunction.intercalate (clauses.map Clause.text), []) := by
        apply QuotesClosed.closeBracket?
        exact
          (quotesClosed_intercalate clauses).mono fun _ outside => outside.2
      have tests :
          readClauses (conjunction.intercalate (clauses.map Clause.text)) =
            .ok (clauses.map Clause.test) := by
        rw [readClauses, splitAnd_intercalate nonempty]
        exact mapM_map_ok fun clause _ => clause.readTest_text
      rw [bracketText, if_neg (by simpa using nonempty), readBrackets]
      split
      next unclosed =>
        rw [closes] at unclosed
        cases unclosed
      next body rest found =>
        rw [closes] at found
        obtain ⟨rfl, rfl⟩ := Prod.mk.inj (Option.some.inj found)
        rw [tests, readBrackets]
        simp [bind, Except.bind, pure, Except.pure]

/-! ## Steps -/

section

variable
  {name : List Char}
  (plainName : ∀ character ∈ name, character.isAlphanum = true)
  (clauses : List Clause)

include plainName

/-- A written step is not cut, whatever its values hold. -/
theorem uncut_step
    {separator : Char}
    (special : separator.isAlphanum = false) :
    Uncut separator (name ++ bracketText clauses) := by
  have uncutName : Uncut separator name := by
    apply Uncut.of_plain
    · intro character member
      exact isQuote_of_isAlphanum (plainName character member)
    · intro character member
      have alphanumeric := plainName character member
      exact
        ⟨ne_of_isAlphanum alphanumeric rfl, ne_of_isAlphanum alphanumeric rfl,
          ne_of_isAlphanum alphanumeric special⟩
  apply uncutName.append
  unfold bracketText
  split
  next => exact .nil
  next => exact .brackets (quotesClosed_intercalate clauses)

/-- A written step does not end with a blank. -/
theorem isBlank_last_step :
    ∀ character ∈ (name ++ bracketText clauses).getLast?,
      Text.isBlank character = false := by
  intro character isLast
  unfold bracketText at isLast
  split at isLast
  next =>
    rw [List.append_nil] at isLast
    exact
      Text.isBlank_of_isAlphanum
        (plainName character (List.mem_of_getLast? isLast))
  next =>
    rw [← List.cons_append, ← List.append_assoc,
      List.getLast?_concat] at isLast
    obtain rfl := Option.some.inj isLast
    rfl

variable (nonempty : name ≠ [])

include nonempty

/-- A written step has no white space around it. -/
theorem trim_step :
    Text.trim (name ++ bracketText clauses) = name ++ bracketText clauses := by
  apply Text.trim_eq_self
  · intro character isFirst
    rw [List.head?_append_of_ne_nil name nonempty] at isFirst
    exact
      Text.isBlank_of_isAlphanum
        (plainName character (List.mem_of_head? isFirst))
  · exact isBlank_last_step plainName clauses

/-- A written step is read under its name with the tests of its clauses. -/
theorem readStep_step :
    readStep (name ++ bracketText clauses) =
      .ok { name := name, tests := clauses.map Clause.test } := by
  have outside : ∀ character ∈ name, (character != '[') = true := by
    intro character member
    simpa using ne_of_isAlphanum (plainName character member) rfl
  have nothingTaken :
      (bracketText clauses).takeWhile (· != '[') = [] := by
    unfold bracketText
    split <;> rfl
  have nothingDropped :
      (bracketText clauses).dropWhile (· != '[') = bracketText clauses := by
    unfold bracketText
    split <;> rfl
  have isName : (name.isEmpty || !name.all isNameChar) = false := by
    have allPlain : name.all isNameChar = true := by
      rw [List.all_eq_true]
      intro character member
      simp [isNameChar, plainName character member]
    simpa [allPlain] using nonempty
  unfold readStep
  simp only [trim_step plainName clauses nonempty,
    List.takeWhile_append_of_pos outside, nothingTaken, List.append_nil,
    List.dropWhile_append_of_pos outside, nothingDropped, isName,
    Bool.false_eq_true, if_false, readBrackets_bracketText]
  rfl

end

/-! ## Alternatives -/

/-- The steps behind two slashes each are the parts that are not empty. -/
theorem filter_splitOutside_steps
    {steps : List (List Char)}
    (uncut : ∀ step ∈ steps, Uncut '/' step)
    (nonempty : ∀ step ∈ steps, step ≠ []) :
    ∃ parts,
      splitOutside '/' none 0
            (steps.flatMap fun step => '/' :: '/' :: step) =
          [] :: parts ∧
        parts.filter (!·.isEmpty) = steps := by
  induction steps with
  | nil => exact ⟨[], rfl, rfl⟩
  | cons step others inductionHypothesis =>
      rw [List.forall_mem_cons] at uncut nonempty
      obtain ⟨parts, splits, filtered⟩ :=
        inductionHypothesis uncut.2 nonempty.2
      refine ⟨[] :: step :: parts, ?_, ?_⟩
      · have cut (behind : List Char) :
            splitOutside '/' none 0 ('/' :: '/' :: behind) =
              [] :: [] :: splitOutside '/' none 0 behind :=
          rfl
        rw [List.flatMap_cons, List.cons_append, List.cons_append, cut,
          uncut.1, splits, Text.consParts_part, List.append_nil]
      · have kept : (!step.isEmpty) = true := by
          simpa using nonempty.1
        rw [List.filter_cons_of_neg (by simp), List.filter_cons, if_pos kept,
          filtered]

namespace Alternative

variable (alternative : Alternative)

/-- Every step is a plain name with brackets behind it. -/
theorem exists_of_mem_steps
    {step : List Char}
    (member : step ∈ alternative.steps) :
    ∃ name clauses,
      (∀ character ∈ name, character.isAlphanum = true) ∧
        name ≠ [] ∧ step = name ++ bracketText clauses := by
  unfold steps at member
  split at member
  next =>
    rw [List.mem_singleton] at member
    exact ⟨itemName, alternative.item, isAlphanum_itemName, by decide, member⟩
  next =>
    rw [List.mem_cons, List.mem_singleton] at member
    rcases member with first | last
    · exact ⟨deviceName, alternative.device, isAlphanum_deviceName, by decide, first⟩
    · exact ⟨itemName, alternative.item, isAlphanum_itemName, by decide, last⟩

/-- No step of a written alternative is cut. -/
theorem uncut_of_mem_steps
    {separator : Char}
    (special : separator.isAlphanum = false) :
    ∀ step ∈ alternative.steps, Uncut separator step := by
  intro step member
  obtain ⟨name, clauses, plainName, _, rfl⟩ :=
    alternative.exists_of_mem_steps member
  exact uncut_step plainName clauses special

/-- A bar cuts no alternative. -/
theorem uncut_text : Uncut '|' alternative.text := by
  have uncut : ∀ step ∈ alternative.steps, Uncut '|' step :=
    alternative.uncut_of_mem_steps rfl
  unfold text
  generalize alternative.steps = steps at uncut
  induction steps with
  | nil => exact .nil
  | cons step others inductionHypothesis =>
      rw [List.forall_mem_cons] at uncut
      have slashes : Uncut '|' ['/', '/'] :=
        .of_plain (by simp [isQuote]) (by simp)
      exact
        (slashes.append uncut.1).append (inductionHypothesis uncut.2)

/-- The text ends with the step for the data item. -/
theorem exists_text_eq :
    ∃ front,
      alternative.text =
        '/' :: (front ++ (itemName ++ bracketText alternative.item)) := by
  unfold text steps
  split
  next => exact ⟨['/'], by simp⟩
  next =>
    exact
      ⟨'/' :: (deviceName ++ bracketText alternative.device) ++ ['/', '/'],
        by simp⟩

/-- A written alternative has no white space around it. -/
theorem trim_text : Text.trim alternative.text = alternative.text := by
  obtain ⟨front, textEq⟩ := alternative.exists_text_eq
  rw [textEq]
  apply Text.trim_eq_self
  · rintro _ ⟨⟩
    rfl
  · intro character isLast
    have filled : itemName ++ bracketText alternative.item ≠ [] :=
      List.append_ne_nil_of_left_ne_nil (by decide) _
    rw [← List.cons_append, List.getLast?_append_of_ne_nil _ filled] at isLast
    exact
      isBlank_last_step isAlphanum_itemName alternative.item character isLast

/-- The text of an alternative is read as its term. -/
theorem readTerm_text : readTerm alternative.text = .ok alternative.term := by
  obtain ⟨front, textEq⟩ := alternative.exists_text_eq
  obtain ⟨parts, splits, filtered⟩ :=
    filter_splitOutside_steps
      (alternative.uncut_of_mem_steps rfl)
      (by
        intro step member
        obtain ⟨name, clauses, _, nonempty, rfl⟩ :=
          alternative.exists_of_mem_steps member
        exact List.append_ne_nil_of_left_ne_nil nonempty _)
  have found :
      (splitOutside '/' none 0 alternative.text).filter (!·.isEmpty) =
        alternative.steps := by
    rw [text, splits, List.filter_cons_of_neg (by simp), filtered]
  have begins : (alternative.text.head? != some '/') = false := by
    rw [textEq]
    rfl
  have readDevice :=
    readStep_step isAlphanum_deviceName alternative.device (by decide)
  have readItem :=
    readStep_step isAlphanum_itemName alternative.item (by decide)
  unfold readTerm
  simp only [begins, Bool.false_eq_true, if_false, found]
  unfold steps term
  cases noDevice : alternative.device with
  | nil =>
      simp only [List.isEmpty_nil, if_true, List.getLast?_singleton,
        List.dropLast_singleton, readItem]
      rfl
  | cons clause others =>
      rw [noDevice] at readDevice
      simp only [List.isEmpty_cons, Bool.false_eq_true, if_false,
        List.getLast?_cons_cons, List.getLast?_singleton,
        List.dropLast_cons_cons, List.dropLast_singleton, List.mapM_cons,
        readDevice, readItem]
      simp [bind, Except.bind, pure, Except.pure, isFinalName, itemName,
        deviceTests, deviceName]

/-- A written alternative is read as its term. -/
theorem readAlternative_text :
    readAlternative alternative.text = .ok alternative.term := by
  have filled : alternative.text.isEmpty = false := by
    obtain ⟨front, textEq⟩ := alternative.exists_text_eq
    rw [textEq]
    rfl
  simp only [readAlternative, alternative.trim_text, filled,
    Bool.false_eq_true, if_false, alternative.readTerm_text]

end Alternative

/-! ## Paths -/

/-- Reading the text of a path gives its terms. -/
theorem read_text
    {alternatives : List Alternative}
    (nonempty : alternatives ≠ []) :
    read (text alternatives) =
      .ok ⟨alternatives.map Alternative.term⟩ := by
  have splits :
      splitOutside '|' none 0 (text alternatives) =
        alternatives.map Alternative.text := by
    apply splitOutside_intercalate rfl (by decide) (by decide)
    · simpa using nonempty
    · intro part member
      obtain ⟨alternative, _, rfl⟩ := List.mem_map.mp member
      exact alternative.uncut_text
  rw [read, splits,
    mapM_map_ok fun alternative _ => alternative.readAlternative_text]
  rfl

/-- Tests can be written exactly if they are the tests of some clauses. -/
theorem exists_clauses_iff {tests : List Test} :
    (∃ clauses : List Clause, clauses.map Clause.test = tests) ↔
      ∀ test ∈ tests, test.Writable := by
  constructor
  · rintro ⟨clauses, rfl⟩ test member
    obtain ⟨clause, _, rfl⟩ := List.mem_map.mp member
    exact
      ⟨clause.isAlphanum_of_mem,
        clause.quote, clause.isQuote_quote, clause.quote_not_mem⟩
  · intro writable
    induction tests with
    | nil => exact ⟨[], rfl⟩
    | cons test others inductionHypothesis =>
        rw [List.forall_mem_cons] at writable
        obtain ⟨quote, opens, absent⟩ := writable.1.lacksQuote
        obtain ⟨clauses, testsEq⟩ := inductionHypothesis writable.2
        refine
          ⟨{ key := test.key
             value := test.value
             quote := quote
             isAlphanum_of_mem := writable.1.isAlphanum_of_mem
             isQuote_quote := opens
             quote_not_mem := absent } :: clauses, ?_⟩
        rw [List.map_cons, testsEq]
        rfl

/-- Terms can be written if each of their tests can be. -/
theorem exists_alternatives_iff {terms : List Term} :
    (∃ alternatives : List Alternative,
        alternatives.map Alternative.term = terms) ↔
      ∀ term ∈ terms, ∀ test ∈ term.device ++ term.item, test.Writable := by
  constructor
  · rintro ⟨alternatives, rfl⟩ term member test inTerm
    obtain ⟨alternative, _, rfl⟩ := List.mem_map.mp member
    rcases List.mem_append.mp inTerm with onDevice | onItem
    · exact exists_clauses_iff.mp ⟨alternative.device, rfl⟩ test onDevice
    · exact exists_clauses_iff.mp ⟨alternative.item, rfl⟩ test onItem
  · intro writable
    induction terms with
    | nil => exact ⟨[], rfl⟩
    | cons term others inductionHypothesis =>
        rw [List.forall_mem_cons] at writable
        obtain ⟨writableHere, writableLater⟩ := writable
        rw [List.forall_mem_append] at writableHere
        obtain ⟨device, deviceEq⟩ := exists_clauses_iff.mpr writableHere.1
        obtain ⟨item, itemEq⟩ := exists_clauses_iff.mpr writableHere.2
        obtain ⟨alternatives, termsEq⟩ := inductionHypothesis writableLater
        refine ⟨{ device := device, item := item } :: alternatives, ?_⟩
        rw [List.map_cons, termsEq, Alternative.term, deviceEq, itemEq]

/--
Terms that can be written are read back, whichever of the possible quotes each
value is written in.
-/
theorem written_paths_read_back
    {terms : List Term}
    (nonempty : terms ≠ [])
    (writable :
      ∀ term ∈ terms, ∀ test ∈ term.device ++ term.item, test.Writable) :
    (∃ alternatives : List Alternative,
        alternatives.map Alternative.term = terms) ∧
      ∀ alternatives : List Alternative,
        alternatives.map Alternative.term = terms →
        parse (String.ofList (text alternatives)) = .ok ⟨terms⟩ := by
  refine ⟨exists_alternatives_iff.mpr writable, ?_⟩
  rintro alternatives rfl
  rw [parse, String.toList_ofList]
  apply read_text
  rintro rfl
  exact nonempty rfl

/-- Values full of signs that mean something outside quotes, in both kinds of quotes. -/
def Alternative.signs : List Alternative :=
  [{ device :=
       [{ key := "name"
          value := "mill \x22A\x22 | ]/"
          quote := '\x27'
          isAlphanum_of_mem := List.all_eq_true.mp rfl
          isQuote_quote := rfl
          quote_not_mem := by decide }]
     item :=
       [{ key := "id"
          value := " a and @b='[ü' "
          quote := '\x22'
          isAlphanum_of_mem := List.all_eq_true.mp rfl
          isQuote_quote := rfl
          quote_not_mem := by decide },
        { key := "units"
          value := ""
          quote := '\x27'
          isAlphanum_of_mem := List.all_eq_true.mp rfl
          isQuote_quote := rfl
          quote_not_mem := by decide }] },
   { device := [], item := [] }]

/-- They are taken as they are. -/
theorem written_signs_read_back :
    Alternative.signs.map Alternative.term ≠ [] ∧
      (∀ term ∈ Alternative.signs.map Alternative.term,
        ∀ test ∈ term.device ++ term.item, test.Writable) ∧
      parse (String.ofList (text Alternative.signs)) =
        .ok
          ⟨[{ device := [⟨"name", "mill \x22A\x22 | ]/"⟩]
              item := [⟨"id", " a and @b='[ü' "⟩, ⟨"units", ""⟩] },
            {}]⟩ := by
  have filled : Alternative.signs.map Alternative.term ≠ [] := by decide
  have writable := exists_alternatives_iff.mp ⟨Alternative.signs, rfl⟩
  exact
    ⟨filled, writable,
      (written_paths_read_back filled writable).2 Alternative.signs rfl⟩

example :
    String.ofList (text Alternative.signs) =
      "//Device[@name='mill \x22A\x22 | ]/']" ++
        "//DataItem[@id=\x22 a and @b='[ü' \x22 and @units='']|//DataItem" := by
  decide

end Path

end MTConnect
