import MTConnect.Proofs.Device.Path.Writing
import MTConnect.Proofs.Text.Cutting

namespace MTConnect.Path

/-!
# What the scans of a path cut

Behind a beginning of a path some quote is open or none, and some brackets. A
bar or a slash cuts where no quote and no bracket is open, the word that joins
two clauses and the bracket that closes a step where no quote is open. What
the scans carry along is exactly this.
-/

/-- The quote that is open behind a text, given the one open before it. -/
def openQuote (quote? : Option Char) (text : List Char) : Option Char :=
  text.foldl quoteAfter quote?

/-- No quote is open behind a text. -/
def Unquoted (text : List Char) : Prop :=
  openQuote none text = none

/-- The quote and the brackets that are open at a place in a text. -/
structure Nesting where
  quote? : Option Char
  depth : Nat
  deriving Repr, DecidableEq

namespace Nesting

/-- No quote and no bracket is open. -/
def outside : Nesting where
  quote? := none
  depth := 0

/-- A bracket counts outside quotes; one that closes nothing is ignored. -/
def after (nesting : Nesting) (character : Char) : Nesting where
  quote? := quoteAfter nesting.quote? character
  depth :=
    if nesting.quote? ≠ none then
      nesting.depth
    else if character = '[' then
      nesting.depth + 1
    else if character = ']' then
      nesting.depth - 1
    else
      nesting.depth

/-- What is open behind a text, given what is open before it. -/
def through (nesting : Nesting) (text : List Char) : Nesting :=
  text.foldl after nesting

end Nesting

/-- No quote and no bracket is open behind a text. -/
def Outside (text : List Char) : Prop :=
  Nesting.outside.through text = .outside

/-! ## Bars and slashes -/

section

variable
  {separator : Char}
  (noQuote : isQuote separator = false)
  (noOpening : separator ≠ '[')
  (noClosing : separator ≠ ']')

include noQuote noOpening noClosing

/-- A character cuts as the separator outside everything, or belongs to the first part. -/
theorem splitOutside_cons
    (nesting : Nesting)
    (character : Char)
    (rest : List Char) :
    splitOutside separator nesting.quote? nesting.depth (character :: rest) =
      if character = separator ∧ nesting = .outside then
        [] :: splitOutside separator none 0 rest
      else
        Text.consPart character
          (splitOutside separator (nesting.after character).quote?
            (nesting.after character).depth rest) := by
  obtain ⟨quote?, depth⟩ := nesting
  cases quote? with
  | some quote =>
      simp [splitOutside, Nesting.after, Nesting.outside]
  | none =>
      simp only [splitOutside, Nesting.after, Nesting.outside, quoteAfter,
        Nesting.mk.injEq, ne_eq, not_true_eq_false, if_false, true_and]
      split
      next opens =>
        have noCut : ¬ (character = separator ∧ depth = 0) := by
          rintro ⟨rfl, -⟩
          exact Bool.eq_false_iff.mp noQuote opens
        have noBrackets : character ≠ '[' ∧ character ≠ ']' := by
          constructor <;> rintro rfl <;> cases opens
        rw [if_neg noCut, if_neg noBrackets.1, if_neg noBrackets.2]
      next =>
        split
        next opening =>
          have noCut : ¬ (character = separator ∧ depth = 0) :=
            fun cut => noOpening (cut.1.symm.trans opening)
          rw [if_neg noCut]
        next =>
          split
          next closing =>
            have noCut : ¬ (character = separator ∧ depth = 0) :=
              fun cut => noClosing (cut.1.symm.trans closing)
            rw [if_neg noCut]
          next =>
            split
            next cut => rw [cut.2]
            next => rfl

/-- From any place in a text the scan cuts at the next separator outside quotes and brackets. -/
theorem splitOutside_cutsFirst
    (nesting : Nesting)
    (text : List Char) :
    Text.CutsFirst [separator]
      (fun early => nesting.through early = .outside)
      (splitOutside separator none 0) text
      (splitOutside separator nesting.quote? nesting.depth text) := by
  induction text generalizing nesting with
  | nil =>
      have noParts :
          splitOutside separator nesting.quote? nesting.depth [] = [[]] := by
        cases nesting.quote? <;> rfl
      rw [noParts]
      exact .never (.nil (List.cons_ne_nil separator []))
  | cons character rest inductionHypothesis =>
      rw [splitOutside_cons noQuote noOpening noClosing]
      split
      next cut =>
        obtain ⟨rfl, rfl⟩ := cut
        exact .first (.here (by rfl) rest)
      next noCut =>
        refine .cons ?_ (inductionHypothesis (nesting.after character))
        rintro ⟨⟨late, begins⟩, isOutside⟩
        exact noCut ⟨(List.cons.inj begins).1.symm, isOutside⟩

/-- The parts that the scan gives are those between the separators outside quotes and brackets. -/
theorem splitOutside_eq_iff
    {text : List Char}
    {parts : List (List Char)} :
    splitOutside separator none 0 text = parts ↔
      Text.Divided [separator] Outside text parts :=
  (Text.divided_iff (List.cons_ne_nil separator [])
    (splitOutside_cutsFirst noQuote noOpening noClosing .outside)).symm

end

/-! ## Clauses -/

theorem splitAnd_conjunction (rest : List Char) :
    splitAnd none (conjunction ++ rest) = [] :: splitAnd none rest :=
  rfl

/-- A character with which no cut begins belongs to the first clause. -/
theorem splitAnd_cons
    {quote? : Option Char}
    {character : Char}
    {rest : List Char}
    (noCut : ¬ (conjunction <+: character :: rest ∧ quote? = none)) :
    splitAnd quote? (character :: rest) =
      Text.consPart character
        (splitAnd (quoteAfter quote? character) rest) := by
  cases quote? with
  | some quote => rw [splitAnd]
  | none =>
      rw [splitAnd]
      rintro late rfl rfl
      exact noCut ⟨⟨late, rfl⟩, rfl⟩

/-- From any place in a text the scan cuts at the next joining word outside quotes. -/
theorem splitAnd_cutsFirst
    (quote? : Option Char)
    (text : List Char) :
    Text.CutsFirst conjunction (fun early => openQuote quote? early = none)
      (splitAnd none) text (splitAnd quote? text) := by
  induction text generalizing quote? with
  | nil =>
      rw [splitAnd]
      exact .never (.nil (List.cons_ne_nil ' ' _))
  | cons character rest inductionHypothesis =>
      by_cases cut : conjunction <+: character :: rest ∧ quote? = none
      · obtain ⟨⟨late, begins⟩, rfl⟩ := cut
        rw [← begins, splitAnd_conjunction]
        exact .first (.here (by rfl) late)
      · rw [splitAnd_cons cut]
        exact .cons cut (inductionHypothesis (quoteAfter quote? character))

/-- The clauses that the scan gives are those between the joining words outside quotes. -/
theorem splitAnd_eq_iff
    {text : List Char}
    {parts : List (List Char)} :
    splitAnd none text = parts ↔
      Text.Divided conjunction Unquoted text parts :=
  (Text.divided_iff (List.cons_ne_nil ' ' _) (splitAnd_cutsFirst none)).symm

/-! ## Closing brackets -/

/-- The closing bracket is the first one with no quote open before it, if there is one. -/
theorem closeBracket?_cases
    (quote? : Option Char)
    (text : List Char) :
    (closeBracket? quote? text = none ∧
        Text.NeverCut [']'] (fun early => openQuote quote? early = none) text) ∨
      ∃ body rest,
        closeBracket? quote? text = some (body, rest) ∧
          Text.FirstCut [']'] (fun early => openQuote quote? early = none) text
            body rest := by
  induction text generalizing quote? with
  | nil => exact .inl ⟨by rw [closeBracket?], .nil (List.cons_ne_nil ']' [])⟩
  | cons character rest inductionHypothesis =>
      rw [closeBracket?]
      split
      next closes =>
        obtain ⟨rfl, rfl⟩ := closes
        exact .inr ⟨[], rest, rfl, .here (by rfl) rest⟩
      next noCut =>
        have notHere :
            ¬ ([']'] <+: character :: rest ∧ openQuote quote? [] = none) := by
          rintro ⟨⟨late, begins⟩, closed⟩
          exact noCut ⟨closed, (List.cons.inj begins).1.symm⟩
        rcases inductionHypothesis (quoteAfter quote? character) with
          ⟨unclosed, never⟩ | ⟨body, late, closed, first⟩
        · refine .inl ⟨?_, never.cons notHere⟩
          rw [unclosed]
          rfl
        · refine .inr ⟨character :: body, late, ?_, first.cons notHere⟩
          rw [closed]
          rfl

/-- The bracket that is found is the first one outside quotes. -/
theorem closeBracket?_eq_some_iff
    {text body rest : List Char} :
    closeBracket? none text = some (body, rest) ↔
      Text.FirstCut [']'] Unquoted text body rest := by
  rcases closeBracket?_cases none text with
    ⟨unclosed, never⟩ | ⟨found, behind, closed, first⟩
  · rw [unclosed]
    constructor
    · intro absurdity
      cases absurdity
    · intro first
      exact absurd never first.not_neverCut
  · rw [closed]
    constructor
    · intro same
      obtain ⟨rfl, rfl⟩ := Prod.mk.inj (Option.some.inj same)
      exact first
    · intro firstToo
      obtain ⟨rfl, rfl⟩ := first.unique firstToo
      rfl

end MTConnect.Path
