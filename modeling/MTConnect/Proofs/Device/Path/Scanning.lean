import MTConnect.Device.Path.Reader

namespace MTConnect

/-!
# Scanning past quoted text

A path is scanned four times: for bars, for slashes, for the bracket that
closes a step, and for the word that joins two clauses. Every scan keeps track
of the quotes by itself. They agree on a text in which every quote is closed:
what stands between quotes is passed over whatever it is, and the scan goes on
behind the text as it would have begun there.
-/

namespace Text

/-- Put a text in front of the first part. -/
def consParts (text : List Char) (parts : List (List Char)) : List (List Char) :=
  text.foldr consPart parts

theorem consParts_cons
    (character : Char)
    (text : List Char)
    (parts : List (List Char)) :
    consParts (character :: text) parts =
      consPart character (consParts text parts) :=
  rfl

theorem consParts_append
    (early late : List Char)
    (parts : List (List Char)) :
    consParts (early ++ late) parts = consParts early (consParts late parts) :=
  List.foldr_append

/-- The text joins the first part, and the others stay. -/
theorem consParts_part
    (text part : List Char)
    (others : List (List Char)) :
    consParts text (part :: others) = (text ++ part) :: others := by
  induction text with
  | nil => rfl
  | cons character rest inductionHypothesis =>
      rw [consParts_cons, inductionHypothesis]
      rfl

end Text

namespace Path

/-- All quotes of a text are closed, and outside them it consists of certain characters. -/
inductive QuotesClosed (plain : Char → Prop) : List Char → Prop where
  | nil : QuotesClosed plain []
  | plain
      {character : Char}
      {rest : List Char}
      (noQuote : isQuote character = false)
      (isPlain : plain character)
      (closed : QuotesClosed plain rest) :
      QuotesClosed plain (character :: rest)
  | quoted
      {quote : Char}
      {value rest : List Char}
      (opens : isQuote quote = true)
      (absent : quote ∉ value)
      (closed : QuotesClosed plain rest) :
      QuotesClosed plain (quote :: (value ++ quote :: rest))

namespace QuotesClosed

variable {plain : Char → Prop}

/-- Texts with closed quotes may be put one after the other. -/
theorem append
    {early late : List Char}
    (closedEarly : QuotesClosed plain early)
    (closedLate : QuotesClosed plain late) :
    QuotesClosed plain (early ++ late) := by
  induction closedEarly with
  | nil => exact closedLate
  | plain noQuote isPlain _ inductionHypothesis =>
      exact .plain noQuote isPlain inductionHypothesis
  | quoted opens absent _ inductionHypothesis =>
      rw [List.cons_append, List.append_assoc, List.cons_append]
      exact .quoted opens absent inductionHypothesis

/-- A text without quotes has none left open. -/
theorem of_plain
    {text : List Char}
    (noQuotes : ∀ character ∈ text, isQuote character = false)
    (allPlain : ∀ character ∈ text, plain character) :
    QuotesClosed plain text := by
  induction text with
  | nil => exact .nil
  | cons character rest inductionHypothesis =>
      rw [List.forall_mem_cons] at noQuotes allPlain
      exact
        .plain noQuotes.1 allPlain.1
          (inductionHypothesis noQuotes.2 allPlain.2)

/-- What a text consists of may be said more widely. -/
theorem mono
    {wider : Char → Prop}
    (widens : ∀ character, plain character → wider character)
    {text : List Char}
    (closed : QuotesClosed plain text) :
    QuotesClosed wider text := by
  induction closed with
  | nil => exact .nil
  | plain noQuote isPlain _ inductionHypothesis =>
      exact .plain noQuote (widens _ isPlain) inductionHypothesis
  | quoted opens absent _ inductionHypothesis =>
      exact .quoted opens absent inductionHypothesis

end QuotesClosed

/-! ## The end of a quoted value -/

section

variable {quote : Char} {value : List Char}

theorem quoteAfter_of_ne
    {character : Char}
    (differs : character ≠ quote) :
    quoteAfter (some quote) character = some quote :=
  if_neg differs

theorem quoteAfter_self : quoteAfter (some quote) quote = none :=
  if_pos rfl

variable (absent : quote ∉ value) (rest : List Char)

include absent

/--
A quoted value is passed over to the end of its quote, whatever separators it holds.
-/
theorem splitOutside_value (separator : Char) (depth : Nat) :
    splitOutside separator (some quote) depth (value ++ quote :: rest) =
      Text.consParts (value ++ [quote])
        (splitOutside separator none depth rest) := by
  induction value with
  | nil =>
      rw [List.nil_append, splitOutside, quoteAfter_self]
      rfl
  | cons character others inductionHypothesis =>
      rw [List.mem_cons, not_or] at absent
      rw [List.cons_append, splitOutside,
        quoteAfter_of_ne (Ne.symm absent.1), inductionHypothesis absent.2]
      rfl

/-- A quoted value is passed over, even if it holds the word itself. -/
theorem splitAnd_value :
    splitAnd (some quote) (value ++ quote :: rest) =
      Text.consParts (value ++ [quote]) (splitAnd none rest) := by
  induction value with
  | nil =>
      rw [List.nil_append, splitAnd, quoteAfter_self]
      rfl
  | cons character others inductionHypothesis =>
      rw [List.mem_cons, not_or] at absent
      rw [List.cons_append, splitAnd, quoteAfter_of_ne (Ne.symm absent.1),
        inductionHypothesis absent.2]
      rfl

/-- A quoted value is passed over, whatever brackets it holds. -/
theorem closeBracket?_value :
    closeBracket? (some quote) (value ++ quote :: rest) =
      (closeBracket? none rest).map
        fun parts => (value ++ quote :: parts.1, parts.2) := by
  induction value with
  | nil => simp [closeBracket?, quoteAfter_self]
  | cons character others inductionHypothesis =>
      rw [List.mem_cons, not_or] at absent
      rw [List.cons_append, closeBracket?, if_neg (by simp),
        quoteAfter_of_ne (Ne.symm absent.1), inductionHypothesis absent.2,
        Option.map_map]
      rfl

end

/-! ## Text with closed quotes -/

section

variable {text : List Char} (rest : List Char)

/-- No bar or slash is found in a text without brackets, unless it is one outside quotes. -/
theorem QuotesClosed.splitOutside
    {separator : Char}
    {depth : Nat}
    (closed :
      QuotesClosed
        (fun character =>
          character ≠ '[' ∧ character ≠ ']' ∧
            ¬ (character = separator ∧ depth = 0))
        text) :
    splitOutside separator none depth (text ++ rest) =
      Text.consParts text (Path.splitOutside separator none depth rest) := by
  induction closed with
  | nil => rfl
  | plain noQuote isPlain _ inductionHypothesis =>
      obtain ⟨noOpening, noClosing, noSeparator⟩ := isPlain
      rw [List.cons_append, Path.splitOutside,
        if_neg (Bool.eq_false_iff.mp noQuote), if_neg noOpening,
        if_neg noClosing, if_neg noSeparator, inductionHypothesis]
      rfl
  | @quoted quote value others opens absent _ inductionHypothesis =>
      rw [List.cons_append, List.append_assoc, List.cons_append,
        Path.splitOutside, if_pos opens, splitOutside_value absent,
        inductionHypothesis, ← Text.consParts_append, ← Text.consParts_cons]
      simp

/-- Clauses are not cut within a text whose blanks are all quoted. -/
theorem QuotesClosed.splitAnd
    (closed : QuotesClosed (fun character => character ≠ ' ') text) :
    splitAnd none (text ++ rest) =
      Text.consParts text (Path.splitAnd none rest) := by
  induction closed with
  | nil => rfl
  | @plain character others noQuote noSpace _ inductionHypothesis =>
      have staysOpen : quoteAfter none character = none := by
        simp [quoteAfter, noQuote]
      rw [List.cons_append, Path.splitAnd, staysOpen, inductionHypothesis]
      · rfl
      · intro _ isSpace
        exact absurd isSpace noSpace
  | @quoted quote value others opens absent _ inductionHypothesis =>
      have opened : quoteAfter none quote = some quote := by
        simp [quoteAfter, opens]
      rw [List.cons_append, List.append_assoc, List.cons_append,
        Path.splitAnd, opened, splitAnd_value absent, inductionHypothesis,
        ← Text.consParts_append, ← Text.consParts_cons]
      · simp
      · rintro _ rfl
        cases opens

/-- The first closing bracket outside quotes is the one behind the text. -/
theorem QuotesClosed.closeBracket?
    (closed : QuotesClosed (fun character => character ≠ ']') text) :
    closeBracket? none (text ++ ']' :: rest) = some (text, rest) := by
  induction closed with
  | nil => rfl
  | @plain character others noQuote noBracket _ inductionHypothesis =>
      have staysOpen : quoteAfter none character = none := by
        simp [quoteAfter, noQuote]
      rw [List.cons_append, Path.closeBracket?,
        if_neg (fun ends => noBracket ends.2), staysOpen, inductionHypothesis]
      rfl
  | @quoted quote value others opens absent _ inductionHypothesis =>
      have opened : quoteAfter none quote = some quote := by
        simp [quoteAfter, opens]
      have noBracket : quote ≠ ']' := by
        rintro rfl
        cases opens
      rw [List.cons_append, List.append_assoc, List.cons_append,
        Path.closeBracket?, if_neg (fun ends => noBracket ends.2), opened,
        closeBracket?_value absent, inductionHypothesis]
      rfl

end

/-! ## Joined parts -/

/-- A separator does not cut a text, wherever it stands outside brackets. -/
def Uncut (separator : Char) (text : List Char) : Prop :=
  ∀ rest,
    splitOutside separator none 0 (text ++ rest) =
      Text.consParts text (splitOutside separator none 0 rest)

namespace Uncut

variable {separator : Char}

theorem nil : Uncut separator [] :=
  fun _ => rfl

theorem append
    {early late : List Char}
    (uncutEarly : Uncut separator early)
    (uncutLate : Uncut separator late) :
    Uncut separator (early ++ late) := by
  intro rest
  rw [List.append_assoc, uncutEarly, uncutLate, Text.consParts_append]

/-- A text without quotes, brackets and separators is not cut. -/
theorem of_plain
    {text : List Char}
    (noQuotes : ∀ character ∈ text, isQuote character = false)
    (noSeparators :
      ∀ character ∈ text,
        character ≠ '[' ∧ character ≠ ']' ∧ character ≠ separator) :
    Uncut separator text := by
  intro rest
  refine QuotesClosed.splitOutside rest (.of_plain noQuotes ?_)
  intro character member
  obtain ⟨noOpening, noClosing, noSeparator⟩ := noSeparators character member
  exact ⟨noOpening, noClosing, fun cut => noSeparator cut.1⟩

/-- Nothing between brackets is cut off. -/
theorem brackets
    {body : List Char}
    (closed :
      QuotesClosed
        (fun character => character ≠ '[' ∧ character ≠ ']')
        body) :
    Uncut separator ('[' :: (body ++ [']'])) := by
  intro rest
  have deeper :
      QuotesClosed
        (fun character =>
          character ≠ '[' ∧ character ≠ ']' ∧
            ¬ (character = separator ∧ 0 + 1 = 0))
        body := by
    refine closed.mono ?_
    intro character outside
    exact ⟨outside.1, outside.2, fun cut => Nat.succ_ne_zero 0 cut.2⟩
  have closes :
      splitOutside separator none (0 + 1) (']' :: rest) =
        Text.consPart ']' (splitOutside separator none 0 rest) :=
    rfl
  have opens (behind : List Char) :
      splitOutside separator none 0 ('[' :: behind) =
        Text.consPart '[' (splitOutside separator none (0 + 1) behind) :=
    rfl
  rw [List.cons_append, List.append_assoc, List.singleton_append, opens,
    deeper.splitOutside, closes, Text.consParts_cons, Text.consParts_append]
  rfl

end Uncut

/-- Texts that are joined with a separator are found again. -/
theorem splitOutside_intercalate
    {separator : Char}
    (noQuote : isQuote separator = false)
    (noOpening : separator ≠ '[')
    (noClosing : separator ≠ ']')
    {parts : List (List Char)}
    (nonempty : parts ≠ [])
    (uncut : ∀ part ∈ parts, Uncut separator part) :
    splitOutside separator none 0 ([separator].intercalate parts) = parts := by
  induction parts with
  | nil => exact absurd rfl nonempty
  | cons part others inductionHypothesis =>
      rw [List.forall_mem_cons] at uncut
      cases others with
      | nil =>
          have whole := uncut.1 []
          rw [List.append_nil] at whole
          rw [List.intercalate_singleton, whole]
          exact (Text.consParts_part part [] []).trans (by rw [List.append_nil])
      | cons next later =>
          have cut (behind : List Char) :
              splitOutside separator none 0 (separator :: behind) =
                [] :: splitOutside separator none 0 behind := by
            rw [splitOutside, if_neg (Bool.eq_false_iff.mp noQuote),
              if_neg noOpening, if_neg noClosing, if_pos ⟨rfl, rfl⟩]
          rw [List.intercalate_cons_cons, List.append_assoc, uncut.1,
            List.singleton_append, cut,
            inductionHypothesis (List.cons_ne_nil next later) uncut.2,
            Text.consParts_part, List.append_nil]

end Path

end MTConnect
