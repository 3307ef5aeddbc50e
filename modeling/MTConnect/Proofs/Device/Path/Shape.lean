import Mathlib.Data.List.Forall2
import MTConnect.Fault
import MTConnect.Proofs.Device.Path.Spelling
import MTConnect.Proofs.Device.Path.Splitting

namespace MTConnect.Path

/-!
# Which texts are paths

The shape of a text says where its alternatives, steps and clauses are, and
nothing about the clauses themselves. A text without a shape is no path; one
with a shape has one list of clauses, and it is a path if all of them are read,
those of steps that are ignored included.
-/

/-- The clauses in the brackets behind the name of a step. -/
inductive Bracketed : List Char → List (List Char) → Prop where
  | nil : Bracketed [] []
  | cons
      {inside body rest : List Char}
      {clauses others : List (List Char)}
      (closes : Text.FirstCut [']'] Unquoted inside body rest)
      (joined : Text.Divided conjunction Unquoted body clauses)
      (later : Bracketed rest others) :
      Bracketed ('[' :: inside) (clauses ++ others)

/-- A step: a name and brackets behind it. -/
inductive IsStep (text name : List Char) (clauses : List (List Char)) : Prop where
  | intro
      {brackets : List Char}
      (padded : Text.Padded text (name ++ brackets))
      (name_ne_nil : name ≠ [])
      (isNameChar_of_mem : ∀ character ∈ name, isNameChar character = true)
      (bracketed : Bracketed brackets clauses)

/-- An alternative: a slash, and the steps between slashes; empty ones do not count. -/
inductive IsAlternative (text : List Char) : List (List Char) → Prop where
  | intro
      {rest last name : List Char}
      {parts outer : List (List Char)}
      {before : List (List (List Char))}
      {behind : List (List Char)}
      (padded : Text.Padded text ('/' :: rest))
      (divided : Text.Divided ['/'] Outside ('/' :: rest) parts)
      (filled : parts.filter (!·.isEmpty) = outer ++ [last])
      (steps :
        List.Forall₂ (fun step clauses => ∃ name, IsStep step name clauses)
          outer before)
      (lastStep : IsStep last name behind)
      (isFinal : isFinalName name = true) :
      IsAlternative text (before.flatten ++ behind)

/-- A path: alternatives between bars. The list holds the clauses of all of them. -/
inductive HasClauses (text : List Char) : List (List Char) → Prop where
  | intro
      {parts : List (List Char)}
      {clauses : List (List (List Char))}
      (divided : Text.Divided ['|'] Outside text parts)
      (alternatives : List.Forall₂ IsAlternative parts clauses) :
      HasClauses text clauses.flatten

/-- A clause that can be read. -/
def Readable (clause : List Char) : Prop :=
  ∃ spelling : Spelling, spelling.text = clause

/-- The clauses that can be read are those that are read. -/
theorem readable_iff {clause : List Char} :
    Readable clause ↔ ∃ test, readTest clause = .ok test := by
  constructor
  · rintro ⟨spelling, rfl⟩
    exact ⟨spelling.test, spelling.readTest_text⟩
  · rintro ⟨test, read⟩
    obtain ⟨spelling, textEq, -⟩ := readTest_eq_ok_iff.mp read
    exact ⟨spelling, textEq⟩

/-! ## Reading one after the other -/

section

variable {Source Value Failure : Type} {read : Source → Except Failure Value}

/-- Several readings succeed if each of them does. -/
theorem exists_mapM_eq_ok_iff {sources : List Source} :
    (∃ values, sources.mapM read = .ok values) ↔
      ∀ source ∈ sources, ∃ value, read source = .ok value := by
  induction sources with
  | nil => exact ⟨fun _ => by simp, fun _ => ⟨[], rfl⟩⟩
  | cons source others inductionHypothesis =>
      simp only [List.mapM_cons, bind_eq_ok_iff, List.forall_mem_cons,
        ← inductionHypothesis]
      constructor
      · rintro ⟨_, value, readFirst, values, readOthers, -⟩
        exact ⟨⟨value, readFirst⟩, values, readOthers⟩
      · rintro ⟨⟨value, readFirst⟩, values, readOthers⟩
        exact ⟨value :: values, value, readFirst, values, readOthers, rfl⟩

variable {shape : Source → List (List Char) → Prop}

/-- If the shape of each part decides whether it is read, the shapes of all parts do. -/
theorem exists_mapM_eq_ok_iff_shapes
    (each :
      ∀ source,
        (∃ value, read source = .ok value) ↔
          ∃ clauses, shape source clauses ∧ ∀ clause ∈ clauses, Readable clause)
    {sources : List Source} :
    (∃ values, sources.mapM read = .ok values) ↔
      ∃ clauses,
        List.Forall₂ shape sources clauses ∧
          ∀ clause ∈ clauses.flatten, Readable clause := by
  simp only [exists_mapM_eq_ok_iff, each]
  induction sources with
  | nil => exact ⟨fun _ => ⟨[], .nil, by simp⟩, fun _ => by simp⟩
  | cons source others inductionHypothesis =>
      rw [List.forall_mem_cons, inductionHypothesis]
      constructor
      · rintro ⟨⟨clauses, shaped, readable⟩, later, shapedLater, readableLater⟩
        exact
          ⟨clauses :: later, .cons shaped shapedLater,
            List.forall_mem_append.mpr ⟨readable, readableLater⟩⟩
      · rintro ⟨_, shapes, readable⟩
        cases shapes with
        | cons shaped shapedLater =>
            rw [List.flatten_cons, List.forall_mem_append] at readable
            exact ⟨⟨_, shaped, readable.1⟩, _, shapedLater, readable.2⟩

end

/-! ## Brackets -/

/-- Brackets have one list of clauses. -/
theorem Bracketed.unique
    {text : List Char}
    {clauses others : List (List Char)}
    (bracketed : Bracketed text clauses)
    (bracketedToo : Bracketed text others) :
    clauses = others := by
  induction bracketed generalizing others with
  | nil =>
      cases bracketedToo
      rfl
  | cons closes joined _ inductionHypothesis =>
      cases bracketedToo with
      | cons closesToo joinedToo laterToo =>
          obtain ⟨rfl, rfl⟩ := closes.unique closesToo
          rw [joined.unique joinedToo, inductionHypothesis laterToo]

theorem exists_readClauses_eq_ok_iff {body : List Char} :
    (∃ tests, readClauses body = .ok tests) ↔
      ∃ clauses,
        Text.Divided conjunction Unquoted body clauses ∧
          ∀ clause ∈ clauses, Readable clause := by
  simp only [readClauses, exists_mapM_eq_ok_iff, ← readable_iff,
    ← splitAnd_eq_iff, exists_eq_left']

/-- Brackets that are closed are read one after the other. -/
theorem readBrackets_cons
    {inside body rest : List Char}
    (closed : closeBracket? none inside = some (body, rest)) :
    readBrackets ('[' :: inside) =
      (do
        let tests ← readClauses body
        let others ← readBrackets rest
        pure (tests ++ others)) := by
  rw [readBrackets]
  split
  next unclosed =>
    rw [closed] at unclosed
    cases unclosed
  next found =>
    rw [closed] at found
    obtain ⟨rfl, rfl⟩ := Prod.mk.inj (Option.some.inj found)
    rfl

/-- What is read as brackets begins with one that is closed. -/
theorem exists_closed_of_readBrackets
    {character : Char}
    {inside : List Char}
    {tests : List Test}
    (read : readBrackets (character :: inside) = .ok tests) :
    character = '[' ∧
      ∃ body rest, closeBracket? none inside = some (body, rest) := by
  rw [readBrackets.eq_def] at read
  split at read
  next absurdity => cases absurdity
  next textEq =>
    obtain ⟨rfl, rfl⟩ := List.cons.inj textEq
    split at read
    next => cases read
    next body rest closed => exact ⟨rfl, body, rest, closed⟩
  next => cases read

/-- Brackets that are read have clauses that can be read. -/
theorem bracketed_of_readBrackets
    {text : List Char}
    {tests : List Test}
    (read : readBrackets text = .ok tests) :
    ∃ clauses,
      Bracketed text clauses ∧ ∀ clause ∈ clauses, Readable clause := by
  -- What follows a closing bracket is shorter, and need not be the tail of the text.
  induction size : text.length using Nat.strongRecOn generalizing text tests with
  | _ length inductionHypothesis =>
      cases text with
      | nil => exact ⟨[], .nil, by simp⟩
      | cons character inside =>
          obtain ⟨rfl, body, rest, closed⟩ := exists_closed_of_readBrackets read
          rw [readBrackets_cons closed, bind_eq_ok_iff] at read
          obtain ⟨first, readFirst, readLater⟩ := read
          obtain ⟨others, readOthers, -⟩ := bind_eq_ok_iff.mp readLater
          have shorter : rest.length < length := by
            have := length_lt_of_closeBracket? closed
            rw [List.length_cons] at size
            omega
          obtain ⟨clauses, joined, readable⟩ :=
            exists_readClauses_eq_ok_iff.mp ⟨first, readFirst⟩
          obtain ⟨later, bracketed, readableLater⟩ :=
            inductionHypothesis rest.length shorter readOthers rfl
          exact
            ⟨clauses ++ later,
              .cons (closeBracket?_eq_some_iff.mp closed) joined bracketed,
              List.forall_mem_append.mpr ⟨readable, readableLater⟩⟩

/-- Brackets whose clauses can be read are read. -/
theorem Bracketed.readBrackets
    {text : List Char}
    {clauses : List (List Char)}
    (bracketed : Bracketed text clauses)
    (readable : ∀ clause ∈ clauses, Readable clause) :
    ∃ tests, Path.readBrackets text = .ok tests := by
  induction bracketed with
  | nil => exact ⟨[], by rw [Path.readBrackets]⟩
  | cons closes joined _ inductionHypothesis =>
      rw [List.forall_mem_append] at readable
      obtain ⟨first, readFirst⟩ :=
        exists_readClauses_eq_ok_iff.mpr ⟨_, joined, readable.1⟩
      obtain ⟨others, readOthers⟩ := inductionHypothesis readable.2
      refine ⟨first ++ others, ?_⟩
      rw [readBrackets_cons (closeBracket?_eq_some_iff.mpr closes), readFirst,
        readOthers]
      rfl

/-- Brackets are read if they are closed and each clause can be read. -/
theorem exists_readBrackets_eq_ok_iff {text : List Char} :
    (∃ tests, readBrackets text = .ok tests) ↔
      ∃ clauses,
        Bracketed text clauses ∧ ∀ clause ∈ clauses, Readable clause := by
  constructor
  · rintro ⟨tests, read⟩
    exact bracketed_of_readBrackets read
  · rintro ⟨clauses, bracketed, readable⟩
    exact bracketed.readBrackets readable

/-! ## Steps -/

/-- The name of a step is what stands before its first bracket. -/
theorem isStep_iff
    {text name : List Char}
    {clauses : List (List Char)} :
    IsStep text name clauses ↔
      (Text.trim text).takeWhile (· != '[') = name ∧
        (name.isEmpty || !name.all isNameChar) = false ∧
          Bracketed ((Text.trim text).dropWhile (· != '[')) clauses := by
  simp only [Bool.or_eq_false_iff, List.isEmpty_eq_false_iff,
    Bool.not_eq_eq_eq_not, Bool.not_false, List.all_eq_true]
  constructor
  · rintro @⟨brackets, padded, filled, allowed, bracketed⟩
    have noBracket : ∀ character ∈ name, (character != '[') = true := by
      intro character member
      have isAllowed := allowed character member
      rw [bne_iff_ne]
      rintro rfl
      cases isAllowed
    have stops :
        brackets.takeWhile (· != '[') = [] ∧
          brackets.dropWhile (· != '[') = brackets := by
      cases bracketed with
      | nil => exact ⟨rfl, rfl⟩
      | cons => exact ⟨rfl, rfl⟩
    rw [padded.trim_eq, List.takeWhile_append_of_pos noBracket,
      List.dropWhile_append_of_pos noBracket, stops.1, stops.2, List.append_nil]
    exact ⟨rfl, ⟨filled, allowed⟩, bracketed⟩
  · rintro ⟨rfl, ⟨filled, allowed⟩, bracketed⟩
    refine ⟨?_, filled, allowed, bracketed⟩
    rw [List.takeWhile_append_dropWhile]
    exact Text.padded_trim text

/-- A step has one name and one list of clauses. -/
theorem IsStep.unique
    {text name otherName : List Char}
    {clauses others : List (List Char)}
    (isStep : IsStep text name clauses)
    (isStepToo : IsStep text otherName others) :
    name = otherName ∧ clauses = others := by
  obtain ⟨rfl, -, bracketed⟩ := isStep_iff.mp isStep
  obtain ⟨rfl, -, bracketedToo⟩ := isStep_iff.mp isStepToo
  exact ⟨rfl, bracketed.unique bracketedToo⟩

/-- A step is read under its name if each of its clauses can be read. -/
theorem exists_readStep_eq_ok_iff {text name : List Char} :
    (∃ tests, readStep text = .ok ⟨name, tests⟩) ↔
      ∃ clauses,
        IsStep text name clauses ∧ ∀ clause ∈ clauses, Readable clause := by
  have reading (tests : List Test) :
      readStep text = .ok ⟨name, tests⟩ ↔
        (Text.trim text).takeWhile (· != '[') = name ∧
          (name.isEmpty || !name.all isNameChar) = false ∧
            readBrackets ((Text.trim text).dropWhile (· != '[')) = .ok tests := by
    simp only [readStep, if_error_eq_ok_iff, Bool.not_eq_true]
    cases readBrackets ((Text.trim text).dropWhile (· != '[')) with
    | error defect => simp [Except.map]
    | ok others =>
        simp only [Except.map, Except.ok.injEq, Step.mk.injEq]
        constructor
        · rintro ⟨isName, rfl, rfl⟩
          exact ⟨rfl, isName, rfl⟩
        · rintro ⟨rfl, isName, rfl⟩
          exact ⟨isName, rfl, rfl⟩
  simp only [reading, isStep_iff, exists_and_left, exists_readBrackets_eq_ok_iff,
    and_assoc]

/-- A text is read as a step if it is one and each clause can be read. -/
theorem exists_step_eq_ok_iff {text : List Char} :
    (∃ step, readStep text = .ok step) ↔
      ∃ clauses,
        (∃ name, IsStep text name clauses) ∧
          ∀ clause ∈ clauses, Readable clause := by
  constructor
  · rintro ⟨⟨name, tests⟩, read⟩
    obtain ⟨clauses, isStep, readable⟩ :=
      exists_readStep_eq_ok_iff.mp ⟨tests, read⟩
    exact ⟨clauses, ⟨name, isStep⟩, readable⟩
  · rintro ⟨clauses, ⟨name, isStep⟩, readable⟩
    obtain ⟨tests, read⟩ :=
      exists_readStep_eq_ok_iff.mpr ⟨clauses, isStep, readable⟩
    exact ⟨⟨name, tests⟩, read⟩

/-! ## Alternatives -/

/-- An alternative has one list of clauses. -/
theorem IsAlternative.unique
    {text : List Char}
    {clauses others : List (List Char)}
    (isAlternative : IsAlternative text clauses)
    (isAlternativeToo : IsAlternative text others) :
    clauses = others := by
  obtain ⟨padded, divided, filled, steps, lastStep, -⟩ := isAlternative
  obtain ⟨paddedToo, dividedToo, filledToo, stepsToo, lastStepToo, -⟩ :=
    isAlternativeToo
  have sameText := padded.trim_eq.symm.trans paddedToo.trim_eq
  obtain ⟨-, rfl⟩ := List.cons.inj sameText
  obtain rfl := divided.unique dividedToo
  obtain ⟨rfl, sameLast⟩ :=
    List.append_inj' (filled.symm.trans filledToo) rfl
  obtain ⟨rfl, -⟩ := List.cons.inj sameLast
  have oneList :
      Relator.RightUnique fun step clauses => ∃ name, IsStep step name clauses :=
    fun _ _ _ ⟨_, isStep⟩ ⟨_, isStepToo⟩ => (isStep.unique isStepToo).2
  rw [List.right_unique_forall₂' oneList steps stepsToo,
    (lastStep.unique lastStepToo).2]

/-- An alternative is read if it begins with a slash and its steps are read. -/
theorem exists_readTerm_eq_ok_iff {text : List Char} :
    (∃ term, readTerm text = .ok term) ↔
      ∃ rest outer last,
        text = '/' :: rest ∧
          (splitOutside '/' none 0 text).filter (!·.isEmpty) =
              outer ++ [last] ∧
            (∃ steps, outer.mapM readStep = .ok steps) ∧
              ∃ name tests,
                readStep last = .ok ⟨name, tests⟩ ∧ isFinalName name = true := by
  constructor
  · rintro ⟨term, read⟩
    rw [readTerm, if_error_eq_ok_iff] at read
    obtain ⟨begins, readSteps⟩ := read
    obtain ⟨rest, rfl⟩ : ∃ rest, text = '/' :: rest := by
      rw [← List.head?_eq_some_iff]
      simpa using begins
    dsimp only at readSteps
    split at readSteps
    next => cases readSteps
    next last isLast =>
      obtain ⟨outer, filled⟩ := List.getLast?_eq_some_iff.mp isLast
      rw [filled, List.dropLast_concat, bind_eq_ok_iff] at readSteps
      obtain ⟨steps, readOuter, readFinal⟩ := readSteps
      obtain ⟨⟨name, tests⟩, readLast, decided⟩ := bind_eq_ok_iff.mp readFinal
      split at decided
      next isFinal =>
        exact
          ⟨rest, outer, last, rfl, filled, ⟨steps, readOuter⟩, name, tests,
            readLast, isFinal⟩
      next => cases decided
  · rintro
      ⟨rest, outer, last, rfl, filled, ⟨steps, readOuter⟩, name, tests, readLast,
        isFinal⟩
    refine ⟨{ device := deviceTests steps, item := tests }, ?_⟩
    simp only [readTerm, List.head?_cons, filled, List.getLast?_concat,
      List.dropLast_concat, readOuter, readLast]
    simp [bind, Except.bind, pure, Except.pure, isFinal]

/-- An alternative is read if it has the shape of one and each clause can be read. -/
theorem exists_readAlternative_eq_ok_iff {text : List Char} :
    (∃ term, readAlternative text = .ok term) ↔
      ∃ clauses,
        IsAlternative text clauses ∧
          ∀ clause ∈ clauses, Readable clause := by
  have nonempty (term : Term) :
      readAlternative text = .ok term ↔ readTerm (Text.trim text) = .ok term := by
    rw [readAlternative, if_error_eq_ok_iff, and_iff_right_iff_imp]
    intro read isEmpty
    rw [List.isEmpty_iff.mp isEmpty] at read
    cases read
  have slash {rest : List Char} {parts : List (List Char)} :
      splitOutside '/' none 0 rest = parts ↔
        Text.Divided ['/'] Outside rest parts :=
    splitOutside_eq_iff rfl (by decide) (by decide)
  simp only [nonempty, exists_readTerm_eq_ok_iff,
    exists_mapM_eq_ok_iff_shapes fun _ => exists_step_eq_ok_iff]
  constructor
  · rintro
      ⟨rest, outer, last, padded, filled, ⟨before, steps, readable⟩, name, tests,
        readLast, isFinal⟩
    obtain ⟨behind, lastStep, readableLast⟩ :=
      exists_readStep_eq_ok_iff.mp ⟨tests, readLast⟩
    rw [padded] at filled
    exact
      ⟨before.flatten ++ behind,
        ⟨Text.trim_eq_iff.mp padded, slash.mp rfl, filled, steps, lastStep,
          isFinal⟩,
        List.forall_mem_append.mpr ⟨readable, readableLast⟩⟩
  · rintro ⟨_, ⟨padded, divided, filled, steps, lastStep, isFinal⟩, readable⟩
    rw [List.forall_mem_append] at readable
    obtain ⟨tests, readLast⟩ :=
      exists_readStep_eq_ok_iff.mpr ⟨_, lastStep, readable.2⟩
    refine
      ⟨_, _, _, padded.trim_eq, ?_, ⟨_, steps, readable.1⟩, _, tests, readLast, isFinal⟩
    rw [padded.trim_eq, slash.mpr divided, filled]

/-! ## Paths -/

/-- A path has one list of clauses. -/
theorem HasClauses.unique
    {text : List Char}
    {clauses others : List (List Char)}
    (hasClauses : HasClauses text clauses)
    (hasClausesToo : HasClauses text others) :
    clauses = others := by
  obtain ⟨divided, alternatives⟩ := hasClauses
  obtain ⟨dividedToo, alternativesToo⟩ := hasClausesToo
  obtain rfl := divided.unique dividedToo
  have oneList : Relator.RightUnique IsAlternative :=
    fun _ _ _ isAlternative isAlternativeToo =>
      isAlternative.unique isAlternativeToo
  rw [List.right_unique_forall₂' oneList alternatives alternativesToo]

/-- A path is read if it has the shape of one and each clause can be read. -/
theorem exists_read_eq_ok_iff {text : List Char} :
    (∃ path, read text = .ok path) ↔
      ∃ clauses,
        HasClauses text clauses ∧ ∀ clause ∈ clauses, Readable clause := by
  have reading :
      (∃ path, read text = .ok path) ↔
        ∃ terms,
          (splitOutside '|' none 0 text).mapM readAlternative = .ok terms := by
    rw [read]
    cases (splitOutside '|' none 0 text).mapM readAlternative with
    | error defect => simp [Except.map]
    | ok terms => simp [Except.map]
  have bars {parts : List (List Char)} :
      splitOutside '|' none 0 text = parts ↔
        Text.Divided ['|'] Outside text parts :=
    splitOutside_eq_iff rfl (by decide) (by decide)
  rw [reading,
    exists_mapM_eq_ok_iff_shapes fun _ => exists_readAlternative_eq_ok_iff]
  constructor
  · rintro ⟨clauses, alternatives, readable⟩
    exact ⟨clauses.flatten, ⟨bars.mp rfl, alternatives⟩, readable⟩
  · rintro ⟨_, ⟨divided, alternatives⟩, readable⟩
    rw [← bars] at divided
    subst divided
    exact ⟨_, alternatives, readable⟩

/-- A clause of the documented form. -/
def Documented (clause : List Char) : Prop :=
  ∃ spelling : Spelling, spelling.text = clause ∧ spelling.IsDocumented

/-- The clause itself decides whether it is documented, not the way its spelling is found. -/
theorem Spelling.documented_text_iff (spelling : Spelling) :
    Documented spelling.text ↔ spelling.IsDocumented := by
  constructor
  · rintro ⟨other, same, documented⟩
    obtain ⟨sameKey, sameQuote, sameValue⟩ := parts_eq_of_text_eq same
    refine ⟨?_, ?_, ?_⟩
    · rw [← sameKey]
      exact documented.key_ne_nil
    · rw [← sameKey]
      exact documented.isAttributeChar_of_mem
    · rw [← sameQuote, ← sameValue]
      exact documented.quote_not_mem
  · intro documented
    exact ⟨spelling, rfl, documented⟩

/--
A text is accepted exactly if it has the shape of a path and each of its
clauses can be read. All the clauses of an accepted text are of the documented
form exactly if, however they are spelled, each has a proper name and a value
without its quote; reading does not ask for this.
-/
theorem accepted_clauses (text : String) :
    ((∃ path, parse text = .ok path) →
        ∃ clauses, HasClauses text.toList clauses) ∧
      (∀ clauses,
        HasClauses text.toList clauses →
          ((∃ path, parse text = .ok path) ↔
            ∀ clause ∈ clauses,
              ∃ spelling : Spelling, spelling.text = clause)) ∧
        ∀ clauses,
          HasClauses text.toList clauses →
            (∃ path, parse text = .ok path) →
              ((∀ clause ∈ clauses, Documented clause) ↔
                ∀ spelling : Spelling,
                  spelling.text ∈ clauses → spelling.IsDocumented) := by
  have accepted_iff
      {clauses : List (List Char)}
      (hasClauses : HasClauses text.toList clauses) :
      (∃ path, parse text = .ok path) ↔
        ∀ clause ∈ clauses, Readable clause := by
    simp only [parse, exists_read_eq_ok_iff]
    constructor
    · rintro ⟨others, hasOthers, readable⟩
      rwa [hasClauses.unique hasOthers]
    · intro readable
      exact ⟨clauses, hasClauses, readable⟩
  refine ⟨?_, fun clauses hasClauses => accepted_iff hasClauses, ?_⟩
  · intro accepted
    obtain ⟨clauses, hasClauses, -⟩ := exists_read_eq_ok_iff.mp accepted
    exact ⟨clauses, hasClauses⟩
  · intro clauses hasClauses accepted
    have readable := (accepted_iff hasClauses).mp accepted
    constructor
    · intro documented spelling member
      exact spelling.documented_text_iff.mp (documented spelling.text member)
    · intro documented clause member
      obtain ⟨spelling, rfl⟩ := readable clause member
      exact spelling.documented_text_iff.mpr (documented spelling member)

/--
A test for inequality is accepted, as the requirement that an attribute of
another name has the value.
-/
theorem inequality_accepted :
    (∃ path, parse "//DataItem[@id!=\x22x\x22]" = .ok path) ∧
      ∃ clauses,
        HasClauses "//DataItem[@id!=\x22x\x22]".toList clauses ∧
          ∃ clause ∈ clauses, ¬ Documented clause := by
  have read : readTest "@id!=\x22x\x22".toList = .ok ⟨"id!", "x"⟩ := rfl
  obtain ⟨spelling, textEq, testEq⟩ := readTest_eq_ok_iff.mp read
  have closes :
      Text.FirstCut [']'] Unquoted (spelling.text ++ [']']) spelling.text [] := by
    rw [textEq]
    exact closeBracket?_eq_some_iff.mp rfl
  have joined :
      Text.Divided conjunction Unquoted spelling.text [spelling.text] := by
    rw [textEq]
    exact splitAnd_eq_iff.mp rfl
  have bracketed :
      Bracketed "[@id!=\x22x\x22]".toList [spelling.text] := by
    have := Bracketed.cons closes joined .nil
    rw [textEq] at this ⊢
    exact this
  have isStep :
      IsStep "DataItem[@id!=\x22x\x22]".toList itemName [spelling.text] :=
    isStep_iff.mpr ⟨rfl, rfl, bracketed⟩
  have isAlternative :
      IsAlternative "//DataItem[@id!=\x22x\x22]".toList [spelling.text] :=
    .intro (Text.trim_eq_iff.mp rfl)
      ((splitOutside_eq_iff rfl (by decide) (by decide)).mp rfl)
      rfl .nil isStep rfl
  have divided :
      Text.Divided ['|'] Outside "//DataItem[@id!=\x22x\x22]".toList
        ["//DataItem[@id!=\x22x\x22]".toList] :=
    (splitOutside_eq_iff rfl (by decide) (by decide)).mp rfl
  have hasClauses :
      HasClauses "//DataItem[@id!=\x22x\x22]".toList [spelling.text] :=
    .intro divided (.cons isAlternative .nil)
  refine ⟨?_, [spelling.text], hasClauses, spelling.text, by simp, ?_⟩
  · exact exists_read_eq_ok_iff.mpr
      ⟨[spelling.text], hasClauses, by simp [Readable]⟩
  · rw [spelling.documented_text_iff]
    intro documented
    have keyEq : spelling.key = "id!".toList :=
      String.ofList_injective (congrArg Test.key testEq)
    have proper := documented.isAttributeChar_of_mem '!' (by simp [keyEq])
    cases proper

end MTConnect.Path
