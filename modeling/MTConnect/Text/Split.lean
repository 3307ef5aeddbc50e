namespace MTConnect.Text

/-!
# Splitting texts

Splitting at a character keeps every part, empty ones included; joining the
parts with that character gives the text back.
-/

/-- Put a character in front of the first part. -/
def consPart (character : Char) : List (List Char) → List (List Char)
  | [] => [[character]]
  | part :: rest => (character :: part) :: rest

/-- The parts of a text between the occurrences of a character. -/
def splitAt (separator : Char) : List Char → List (List Char)
  | [] => [[]]
  | character :: rest =>
      if character = separator then
        [] :: splitAt separator rest
      else
        consPart character (splitAt separator rest)

/-- The text before and after the first occurrence of a character. -/
def splitOnce? (separator : Char) : List Char → Option (List Char × List Char)
  | [] => none
  | character :: rest =>
      if character = separator then
        some ([], rest)
      else
        (splitOnce? separator rest).map
          fun halves => (character :: halves.1, halves.2)

/-- A text without a given beginning. -/
def dropLead? (lead text : List Char) : Option (List Char) :=
  match lead, text with
  | [], rest => some rest
  | _ :: _, [] => none
  | expected :: leadRest, character :: rest =>
      if expected = character then dropLead? leadRest rest else none

/-- A text without a given last character. -/
def dropLast? (last : Char) (text : List Char) : Option (List Char) :=
  if text.getLast? = some last then some text.dropLast else none

/-- Lower-case ASCII letters, other characters unchanged. -/
def lowerAscii (text : List Char) : List Char :=
  text.map Char.toLower

section

variable {separator : Char} {part rest : List Char}

/-- A beginning is dropped off the front of a text. -/
theorem dropLead?_append (lead rest : List Char) :
    dropLead? lead (lead ++ rest) = some rest := by
  induction lead with
  | nil => cases rest <;> rfl
  | cons character others inductionHypothesis =>
      simpa [dropLead?] using inductionHypothesis

/-- Nothing is dropped of a text that begins otherwise. -/
theorem dropLead?_of_ne
    {expected first : Char}
    (differ : expected ≠ first)
    (leadRest rest : List Char) :
    dropLead? (expected :: leadRest) (first :: rest) = none := by
  simp [dropLead?, differ]

/-- A part is cut off the front of a text together with its separator. -/
theorem splitAt_append (clean : separator ∉ part) :
    splitAt separator (part ++ separator :: rest) =
      part :: splitAt separator rest := by
  induction part with
  | nil => simp [splitAt]
  | cons character others inductionHypothesis =>
      rw [List.mem_cons, not_or] at clean
      rw [List.cons_append, splitAt, if_neg (Ne.symm clean.1),
        inductionHypothesis clean.2, consPart]

/-- A text without the separator is one part. -/
theorem splitAt_of_not_mem (clean : separator ∉ part) :
    splitAt separator part = [part] := by
  induction part with
  | nil => rfl
  | cons character others inductionHypothesis =>
      rw [List.mem_cons, not_or] at clean
      rw [splitAt, if_neg (Ne.symm clean.1), inductionHypothesis clean.2,
        consPart]

/-- The text before the first separator is what stands in front of it. -/
theorem splitOnce?_append (clean : separator ∉ part) :
    splitOnce? separator (part ++ separator :: rest) = some (part, rest) := by
  induction part with
  | nil => simp [splitOnce?]
  | cons character others inductionHypothesis =>
      rw [List.mem_cons, not_or] at clean
      rw [List.cons_append, splitOnce?, if_neg (Ne.symm clean.1),
        inductionHypothesis clean.2]
      rfl

/-- A text without the separator has no halves. -/
theorem splitOnce?_of_not_mem (clean : separator ∉ part) :
    splitOnce? separator part = none := by
  induction part with
  | nil => rfl
  | cons character others inductionHypothesis =>
      rw [List.mem_cons, not_or] at clean
      rw [splitOnce?, if_neg (Ne.symm clean.1), inductionHypothesis clean.2]
      rfl

end

end MTConnect.Text
