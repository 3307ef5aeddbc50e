import MTConnect.Proofs.Device.Path.Ranges

namespace MTConnect.Path

/-!
# The parts of a path

What is told of a place in a path by reading it from the front: whether every
quote before it is closed, and how many brackets outside quotes are open. A bar
or a slash cuts exactly where no quote and no bracket is open, the joining word
exactly where no quote is open and its space does not belong to a joining word
that cuts already. Nothing but these separators is lost.
-/

open Text (IsCut OverlapsCut slice?)

/-- A text in which every quote is closed. -/
def Closed (text : List Char) : Prop :=
  QuotesClosed (fun _ => True) text

/-- The characters outside quotes: a quoted value is passed over as a whole. -/
def bare (text : List Char) : List Char :=
  match text with
  | [] => []
  | character :: rest =>
      if isQuote character then
        bare (rest.dropWhile (· != character)).tail
      else
        character :: bare rest
termination_by text.length
decreasing_by
  · have shorter := (rest.dropWhile_sublist (· != character)).length_le
    rw [List.length_tail, List.length_cons]
    omega
  · exact Nat.lt_succ_self _

/-- The number of open brackets behind a character; no fewer than none are open. -/
def bracketsAfter (depth : Nat) (character : Char) : Nat :=
  if character = '[' then
    depth + 1
  else if character = ']' then
    depth - 1
  else
    depth

/-- The number of brackets outside quotes that are open behind a text. -/
def openBrackets (text : List Char) : Nat :=
  (bare text).foldl bracketsAfter 0

/-! ## Reading from the front -/

theorem bare_cons_of_plain
    {character : Char}
    (noQuote : isQuote character = false)
    (rest : List Char) :
    bare (character :: rest) = character :: bare rest := by
  rw [bare, if_neg (Bool.eq_false_iff.mp noQuote)]

/-- Nothing of a quoted value stands outside quotes. -/
theorem bare_quoted
    {quote : Char}
    {value : List Char}
    (opens : isQuote quote = true)
    (absent : quote ∉ value)
    (rest : List Char) :
    bare (quote :: (value ++ quote :: rest)) = bare rest := by
  have passed : ∀ character ∈ value, (character != quote) = true := by
    intro character member
    have differs : character ≠ quote := fun same => absent (same ▸ member)
    simpa using differs
  rw [bare, if_pos opens, List.dropWhile_append_of_pos passed]
  simp

namespace Nesting

theorem through_append
    (nesting : Nesting)
    (early late : List Char) :
    nesting.through (early ++ late) = (nesting.through early).through late :=
  List.foldl_append

/-- Brackets do not matter to the quote that is open. -/
theorem quote?_through
    (nesting : Nesting)
    (text : List Char) :
    (nesting.through text).quote? = openQuote nesting.quote? text := by
  induction text generalizing nesting with
  | nil => rfl
  | cons character rest inductionHypothesis =>
      exact inductionHypothesis (nesting.after character)

section

variable {quote : Char} (depth : Nat)

/-- Outside quotes a character opens or closes a bracket, or neither. -/
theorem through_plain
    {character : Char}
    (noQuote : isQuote character = false)
    (rest : List Char) :
    through ⟨none, depth⟩ (character :: rest) =
      through ⟨none, bracketsAfter depth character⟩ rest := by
  have step :
      after ⟨none, depth⟩ character =
        ⟨none, bracketsAfter depth character⟩ := by
    simp [after, quoteAfter, noQuote, bracketsAfter]
  rw [through, List.foldl_cons, step]
  rfl

/-- A quote outside quotes opens one. -/
theorem through_quote
    (opens : isQuote quote = true)
    (rest : List Char) :
    through ⟨none, depth⟩ (quote :: rest) =
      through ⟨some quote, depth⟩ rest := by
  have step : after ⟨none, depth⟩ quote = ⟨some quote, depth⟩ := by
    rcases isQuote_cases opens with rfl | rfl <;> rfl
  rw [through, List.foldl_cons, step]
  rfl

variable {value : List Char} (absent : quote ∉ value)

include absent

/-- A value that does not hold the open quote changes nothing of what is open. -/
theorem through_unclosed :
    through ⟨some quote, depth⟩ value = ⟨some quote, depth⟩ := by
  induction value with
  | nil => rfl
  | cons character others inductionHypothesis =>
      rw [List.mem_cons, not_or] at absent
      have step : after ⟨some quote, depth⟩ character = ⟨some quote, depth⟩ := by
        simp [after, quoteAfter, Ne.symm absent.1]
      rw [through, List.foldl_cons, step]
      exact inductionHypothesis absent.2

/-- A quoted value opens nothing that stays open. -/
theorem through_value (rest : List Char) :
    through ⟨some quote, depth⟩ (value ++ quote :: rest) =
      through ⟨none, depth⟩ rest := by
  have step : after ⟨some quote, depth⟩ quote = ⟨none, depth⟩ := by
    simp [after, quoteAfter]
  rw [through_append, through_unclosed depth absent, through, List.foldl_cons,
    step]
  rfl

end

/-- Behind closed quotes those brackets are open that stand outside them. -/
theorem through_closed
    {text : List Char}
    (closed : Closed text)
    (depth : Nat) :
    through ⟨none, depth⟩ text =
      ⟨none, (bare text).foldl bracketsAfter depth⟩ := by
  induction closed generalizing depth with
  | nil =>
      rw [bare]
      rfl
  | plain noQuote _ _ inductionHypothesis =>
      rw [through_plain depth noQuote, inductionHypothesis,
        bare_cons_of_plain noQuote, List.foldl_cons]
  | quoted opens absent _ inductionHypothesis =>
      rw [through_quote depth opens, through_value depth absent,
        inductionHypothesis, bare_quoted opens absent]

/-- If no quote is open behind a text, then every one in it is closed. -/
theorem closed_of_through
    {text : List Char}
    {depth : Nat}
    (unquoted : (through ⟨none, depth⟩ text).quote? = none) :
    Closed text := by
  -- What follows a quoted value need not be the tail of the text.
  induction size : text.length using Nat.strongRecOn
    generalizing text depth with
  | _ length inductionHypothesis =>
      cases text with
      | nil => exact .nil
      | cons character rest =>
          rw [List.length_cons] at size
          by_cases opens : isQuote character = true
          · rw [through_quote depth opens] at unquoted
            by_cases member : character ∈ rest
            · obtain ⟨value, later, rfl, absent⟩ :=
                List.eq_append_cons_of_mem member
              rw [through_value depth absent] at unquoted
              rw [List.length_append, List.length_cons] at size
              exact
                .quoted opens absent
                  (inductionHypothesis later.length (by omega) unquoted rfl)
            · rw [through_unclosed depth member] at unquoted
              cases unquoted
          · rw [Bool.not_eq_true] at opens
            rw [through_plain depth opens] at unquoted
            exact
              .plain opens trivial
                (inductionHypothesis rest.length (by omega) unquoted rfl)

end Nesting

/-- No quote is open behind a text if every quote in it is closed. -/
theorem unquoted_iff {text : List Char} : Unquoted text ↔ Closed text := by
  have open_eq := Nesting.quote?_through .outside text
  constructor
  · intro unquoted
    exact Nesting.closed_of_through (open_eq.trans unquoted)
  · intro closed
    have through_eq := Nesting.through_closed closed 0
    exact open_eq.symm.trans (congrArg Nesting.quote? through_eq)

/-- Nothing is open behind a text if its quotes are closed and no bracket is open. -/
theorem outside_iff {text : List Char} :
    Outside text ↔ Closed text ∧ openBrackets text = 0 := by
  constructor
  · intro outside
    have closed : Closed text :=
      Nesting.closed_of_through (congrArg Nesting.quote? outside)
    have through_eq := Nesting.through_closed closed 0
    exact ⟨closed, congrArg Nesting.depth (through_eq.symm.trans outside)⟩
  · rintro ⟨closed, noBrackets⟩
    rw [openBrackets] at noBrackets
    rw [Outside, Nesting.outside, Nesting.through_closed closed, noBrackets]

/-! ## Behind a cut -/

/-- Behind a joining word that cuts the text is read as if it began there. -/
theorem unquoted_behind_iff
    (part late : List Char)
    (unquoted : Unquoted part) :
    Unquoted (part ++ conjunction ++ late) ↔ Unquoted late := by
  rw [Unquoted, openQuote] at unquoted
  rw [Unquoted, openQuote, List.foldl_append, List.foldl_append, unquoted]
  rfl

section

variable
  {separator : Char}
  (noQuote : isQuote separator = false)
  (noOpening : separator ≠ '[')
  (noClosing : separator ≠ ']')

include noQuote noOpening noClosing

/-- Behind a separator that cuts, what is open depends on what follows it alone. -/
theorem outside_behind_iff
    (part late : List Char)
    (outside : Outside part) :
    Outside (part ++ [separator] ++ late) ↔ Outside late := by
  have stays : Nesting.outside.through [separator] = .outside := by
    simp [Nesting.outside, Nesting.through, Nesting.after, quoteAfter,
      noQuote, noOpening, noClosing]
  rw [Outside] at outside
  rw [Outside, Nesting.through_append, Nesting.through_append, outside, stays]
  rfl

theorem divided_splitOutside (text : List Char) :
    Text.Divided [separator] Outside text
      (splitOutside separator none 0 text) :=
  (splitOutside_eq_iff noQuote noOpening noClosing).mp rfl

/-- A separator cuts if the quotes before it are closed and no bracket is open. -/
theorem isCut_splitOutside_iff
    {text early late : List Char}
    (textEq : text = early ++ [separator] ++ late) :
    IsCut [separator] (splitOutside separator none 0 text) early ↔
      Closed early ∧ openBrackets early = 0 := by
  have divided := divided_splitOutside noQuote noOpening noClosing text
  have resumes := outside_behind_iff noQuote noOpening noClosing
  rw [divided.isCut_iff resumes textEq, outside_iff]
  exact and_iff_left Text.not_overlapsCut_singleton

end

theorem divided_splitAnd (text : List Char) :
    Text.Divided conjunction Unquoted text (splitAnd none text) :=
  splitAnd_eq_iff.mp rfl

theorem isCut_splitAnd_iff
    {text early late : List Char}
    (textEq : text = early ++ conjunction ++ late) :
    IsCut conjunction (splitAnd none text) early ↔
      Closed early ∧ ¬ OverlapsCut conjunction (splitAnd none text) early := by
  rw [(divided_splitAnd text).isCut_iff unquoted_behind_iff textEq,
    unquoted_iff]

/-! ## The parts -/

/--
Bars and slashes cut where every quote before them is closed and no bracket
outside quotes is open, and the word that joins clauses where every quote is
closed, unless its space belongs to one that cuts before it. The parts and the
separators between them make up the text. Counted in bytes, each part is a
slice of the text.
-/
theorem cuts_exact
    (text : List Char)
    {separator : Char}
    (isSeparator : separator = '|' ∨ separator = '/') :
    ([separator].intercalate (splitOutside separator none 0 text) = text ∧
        (∀ early late,
          text = early ++ [separator] ++ late →
            (IsCut [separator] (splitOutside separator none 0 text) early ↔
              Closed early ∧ openBrackets early = 0)) ∧
          (rangesOutside separator none 0 0 0 text).mapM (slice? text) =
            some (splitOutside separator none 0 text)) ∧
      conjunction.intercalate (splitAnd none text) = text ∧
        (∀ early late,
          text = early ++ conjunction ++ late →
            (IsCut conjunction (splitAnd none text) early ↔
              Closed early ∧
                ¬ OverlapsCut conjunction (splitAnd none text) early)) ∧
          (rangesAnd text 0 0 none).mapM (slice? text) =
            some (splitAnd none text) := by
  have noQuote : isQuote separator = false := by
    rcases isSeparator with rfl | rfl <;> rfl
  have noBrackets : separator ≠ '[' ∧ separator ≠ ']' := by
    rcases isSeparator with rfl | rfl <;> decide
  have divided :=
    divided_splitOutside noQuote noBrackets.1 noBrackets.2 text
  refine
    ⟨⟨divided.intercalate_eq, fun early late => ?_, ?_⟩,
      (divided_splitAnd text).intercalate_eq, fun early late => ?_, ?_⟩
  · exact isCut_splitOutside_iff noQuote noBrackets.1 noBrackets.2
  · exact slices_outside none 0 (.start text)
  · exact isCut_splitAnd_iff
  · exact slices_and (by simp) (.start text)

/--
A text with a bar in quotes, a bar in brackets, and two joining words that
share a space.
-/
def crowdedText : List Char :=
  "'ü|'|[|é] and and x".toList

/-- The bar between the other two cuts it, and the first of the joining words. -/
theorem crowded_text_cut :
    ('|' = '|' ∨ '|' = '/') ∧
      IsCut ['|'] (splitOutside '|' none 0 crowdedText) "'ü|'".toList ∧
        ¬ IsCut ['|'] (splitOutside '|' none 0 crowdedText) "'ü|'|[".toList ∧
          IsCut conjunction (splitAnd none crowdedText) "'ü|'|[|é]".toList ∧
            ¬ IsCut conjunction (splitAnd none crowdedText)
              "'ü|'|[|é] and".toList ∧
              (rangesAnd crowdedText 0 0 none).mapM (slice? crowdedText) =
                some ["'ü|'|[|é]".toList, "and x".toList] := by
  obtain ⟨⟨-, barCuts, -⟩, -, wordCuts, sliced⟩ :=
    cuts_exact crowdedText (.inl rfl)
  have firstWord :
      IsCut conjunction (splitAnd none crowdedText) "'ü|'|[|é]".toList :=
    ⟨["'ü|'|[|é]".toList], ["and x".toList], rfl, List.cons_ne_nil _ [],
      List.cons_ne_nil _ [], rfl⟩
  refine ⟨.inl rfl, ?_, ?_, firstWord, ?_, sliced⟩
  · have outside : Outside "'ü|'".toList := rfl
    exact
      (barCuts _ "[|é] and and x".toList rfl).mpr (outside_iff.mp outside)
  · intro isCut
    have outside : Nesting.outside.through "'ü|'|[".toList = .outside :=
      outside_iff.mpr ((barCuts _ "é] and and x".toList rfl).mp isCut)
    exact absurd outside (by decide)
  · intro isCut
    have apart := ((wordCuts _ "x".toList rfl).mp isCut).2
    exact apart ⟨_, firstWord, by decide, by decide⟩

end MTConnect.Path
