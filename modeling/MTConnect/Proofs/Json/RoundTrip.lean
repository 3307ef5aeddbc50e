import MTConnect.Proofs.Json.Scalars

namespace MTConnect.Json

/-!
# Values that are read back

Reading inverts writing, as long as the value holds no doubles, its whole
numbers are words, and it nests no deeper than the reader allows. What follows
the value is left to be read, so arrays and objects are read member by member.
-/

open Text

/-- Values of whole words without doubles, nested at most so deep. -/
def Fits : Nat → Json → Prop
  | _, .null => True
  | _, .bool _ => True
  | _, .integer value =>
      -(Word.signedTop : Int) - 1 ≤ value ∧ value ≤ (Word.top : Int)
  | _, .real _ => False
  | _, .string _ => True
  | 0, .array _ => False
  | 0, .object _ => False
  | depth + 1, .array items => ∀ item ∈ items, Fits depth item
  | depth + 1, .object members => ∀ member ∈ members, Fits depth member.2

/-- What is written for a value is read as that value, given as much fuel. -/
def ReadsBack (depth : Nat) (value : Json) : Prop :=
  ∀ fuel text,
    2 * (write value).length ≤ fuel →
    EndsNumber text →
    readValue? fuel depth (write value ++ text) = some (value, text)

variable {depth fuel : Nat} {value : Json} {text : List Char}

theorem skipSpace_cons
    {character : Char}
    (visible : isSpace character = false)
    (rest : List Char) :
    skipSpace (character :: rest) = character :: rest := by
  simp [skipSpace, visible]

/-- A whole number begins with a digit or a minus sign. -/
theorem exists_signedDecimal_eq_cons (value : Int) :
    ∃ character rest,
      signedDecimal value = character :: rest ∧
        (character.isDigit = true ∨ character = '-') := by
  unfold signedDecimal
  split
  next => exact ⟨'-', _, rfl, .inr rfl⟩
  next =>
    obtain ⟨digit, rest, shape, isDigit⟩ := exists_decimal_eq_cons value.natAbs
    exact ⟨digit, rest, shape, .inl isDigit⟩

/-- A digit is neither white space nor a closing bracket. -/
theorem visible_of_isDigit
    {character : Char}
    (isDigit : character.isDigit = true) :
    isSpace character = false ∧ character ≠ ']' := by
  obtain ⟨atLeast, atMost⟩ := isDigit_iff.mp isDigit
  constructor
  · simp only [isSpace, Bool.or_eq_false_iff, beq_eq_false_iff_ne]
    refine ⟨⟨⟨?_, ?_⟩, ?_⟩, ?_⟩ <;>
      exact fun same => absurd (same ▸ atLeast) (by decide)
  · exact fun same => absurd (same ▸ atMost) (by decide)

/-- A value begins with what is neither white space nor a closing bracket. -/
theorem exists_write_eq_cons (fits : Fits depth value) :
    ∃ character rest,
      write value = character :: rest ∧
        isSpace character = false ∧ character ≠ ']' := by
  cases value with
  | null => exact ⟨'n', _, rfl, by decide⟩
  | bool truth => cases truth <;> exact ⟨_, _, rfl, by decide⟩
  | integer number =>
      obtain ⟨character, rest, shape, opens⟩ :=
        exists_signedDecimal_eq_cons number
      refine ⟨character, rest, shape, ?_⟩
      rcases opens with isDigit | rfl
      · exact visible_of_isDigit isDigit
      · decide
  | real number => simp [Fits] at fits
  | string content => exact ⟨'\x22', _, rfl, by decide⟩
  | array items => cases items <;> exact ⟨'[', _, rfl, by decide⟩
  | object members =>
      cases members with
      | nil => exact ⟨'\x7b', _, rfl, by decide⟩
      | cons member rest => exact ⟨'\x7b', _, rfl, by decide⟩

/-- A number ends at a comma and at a closing bracket or brace. -/
theorem endsNumber_cons
    {character : Char}
    (breaks : character = ',' ∨ character = ']' ∨ character = '\x7d')
    (rest : List Char) :
    EndsNumber (character :: rest) := by
  intro first atFront
  rw [← Option.some.inj atFront]
  rcases breaks with rfl | rfl | rfl <;> decide

theorem endsNumber_writeItems (items : List Json) (text : List Char) :
    EndsNumber (writeItems items ++ text) := by
  cases items with
  | nil => exact endsNumber_cons (by decide) _
  | cons item rest => exact endsNumber_cons (by decide) _

theorem endsNumber_writeMembers (members : List (String × Json)) (text : List Char) :
    EndsNumber (writeMembers members ++ text) := by
  cases members with
  | nil => exact endsNumber_cons (by decide) _
  | cons member rest => exact endsNumber_cons (by decide) _

/-- Items are read one after the other, up to and with the closing bracket. -/
theorem readItems?_write
    {first : Json}
    {rest : List Json}
    (readsBack : ∀ item ∈ first :: rest, ReadsBack depth item)
    (enough : 2 * (write first ++ writeItems rest).length ≤ fuel)
    (text : List Char) :
    readItems? fuel depth (write first ++ (writeItems rest ++ text)) =
      some (first :: rest, text) := by
  induction rest generalizing first fuel with
  | nil =>
      cases fuel with
      | zero => simp [writeItems] at enough
      | succ fuel =>
          simp only [writeItems, List.length_append, List.length_singleton]
            at enough
          have readFirst :=
            readsBack first List.mem_cons_self fuel (writeItems [] ++ text)
              (by omega) (endsNumber_writeItems [] text)
          rw [readItems?, readFirst]
          simp [writeItems, skipSpace_cons, isSpace]
  | cons second others inductionHypothesis =>
      cases fuel with
      | zero => simp [writeItems] at enough
      | succ fuel =>
          simp only [writeItems, List.length_append, List.length_cons]
            at enough
          have readFirst :=
            readsBack first List.mem_cons_self fuel
              (writeItems (second :: others) ++ text)
              (by omega) (endsNumber_writeItems (second :: others) text)
          have enoughLeft :
              2 * (write second ++ writeItems others).length ≤ fuel := by
            simp only [List.length_append]
            omega
          have readOthers :=
            inductionHypothesis
              (fun item member =>
                readsBack item (List.mem_cons_of_mem first member))
              enoughLeft
          rw [readItems?, readFirst]
          simp [writeItems, skipSpace_cons, isSpace, readOthers]

/-- A member before the closing brace is the last one. -/
theorem readMembers?_last
    {after rest : List Char}
    (read : readValue? fuel depth text = some (value, after))
    (closes : skipSpace after = '\x7d' :: rest)
    (name : String) :
    readMembers? (fuel + 1) depth (writeString name ++ ':' :: text) =
      some ([(name, value)], rest) := by
  rw [readMembers?, writeString]
  simp [skipSpace_cons, isSpace, readString?_escaped, read, closes]

/-- A member before a comma is followed by others. -/
theorem readMembers?_more
    {after rest : List Char}
    (read : readValue? fuel depth text = some (value, after))
    (goesOn : skipSpace after = ',' :: rest)
    (name : String) :
    readMembers? (fuel + 1) depth (writeString name ++ ':' :: text) =
      (readMembers? fuel depth rest).map
        fun others => ((name, value) :: others.1, others.2) := by
  rw [readMembers?, writeString]
  simp [skipSpace_cons, isSpace, readString?_escaped, read, goesOn]

/-- Members are read one after the other, up to and with the closing brace. -/
theorem readMembers?_write
    {name : String}
    {first : Json}
    {rest : List (String × Json)}
    (readsBack : ∀ member ∈ (name, first) :: rest, ReadsBack depth member.2)
    (enough :
      2 * (writeString name ++ ':' :: write first ++ writeMembers rest).length ≤
        fuel)
    (text : List Char) :
    readMembers? fuel depth
        (writeString name ++ ':' :: (write first ++ (writeMembers rest ++ text))) =
      some ((name, first) :: rest, text) := by
  have firstReads : ReadsBack depth first :=
    readsBack (name, first) List.mem_cons_self
  induction rest generalizing name first fuel with
  | nil =>
      cases fuel with
      | zero => simp [writeString] at enough
      | succ fuel =>
          simp only [writeMembers, List.length_append, List.length_cons]
            at enough
          have readFirst :=
            firstReads fuel (writeMembers [] ++ text) (by omega)
              (endsNumber_writeMembers [] text)
          exact readMembers?_last readFirst rfl name
  | cons second others inductionHypothesis =>
      cases fuel with
      | zero => simp [writeString] at enough
      | succ fuel =>
          simp only [writeMembers, List.length_append, List.length_cons]
            at enough
          have readFirst :=
            firstReads fuel (writeMembers (second :: others) ++ text) (by omega)
              (endsNumber_writeMembers (second :: others) text)
          have othersRead :=
            fun member inOthers =>
              readsBack member (List.mem_cons_of_mem (name, first) inOthers)
          have enoughLeft :
              2 * (writeString second.1 ++ ':' :: write second.2 ++
                writeMembers others).length ≤ fuel := by
            simp only [List.length_append, List.length_cons]
            omega
          have readOthers :=
            inductionHypothesis othersRead enoughLeft
              (othersRead second List.mem_cons_self)
          rw [readMembers?_more readFirst rfl]
          simp [readOthers]

/-- What begins with a digit or a minus sign is read as a number. -/
theorem readValue?_number
    {character : Char}
    (opens : character.isDigit = true ∨ character = '-')
    (fuel depth : Nat)
    (rest : List Char) :
    readValue? (fuel + 1) depth (character :: rest) =
      readNumber? (character :: rest) := by
  have differs :
      ∀ other : Char,
        other.isDigit = false →
        other ≠ '-' →
        character ≠ other := by
    intro other noDigit noMinus same
    rcases opens with isDigit | isMinus
    · rw [same, noDigit] at isDigit
      exact absurd isDigit (by decide)
    · exact noMinus (same.symm.trans isMinus)
  have visible : isSpace character = false := by
    simp [isSpace, differs]
  rw [readValue?, skipSpace_cons visible]
  split
  next same =>
    exact absurd (List.cons.inj same).1 (differs _ (by decide) (by decide))
  next same =>
    exact absurd (List.cons.inj same).1 (differs _ (by decide) (by decide))
  next same =>
    exact absurd (List.cons.inj same).1 (differs _ (by decide) (by decide))
  next same =>
    exact absurd (List.cons.inj same).1 (differs _ (by decide) (by decide))
  next same =>
    exact absurd (List.cons.inj same).1 (differs _ (by decide) (by decide))
  next same =>
    exact absurd (List.cons.inj same).1 (differs _ (by decide) (by decide))
  next => rfl

/-- A value that is neither an array nor an object is read whatever the depth. -/
theorem readsBack_scalar
    (fits : Fits 0 value) :
    ReadsBack depth value := by
  intro fuel text enough ends
  obtain ⟨character, rest, shape, _⟩ := exists_write_eq_cons fits
  cases fuel with
  | zero => simp [shape] at enough
  | succ fuel =>
      cases value with
      | null => simp [write, readValue?, skipSpace_cons, isSpace, readWord?, dropLead?]
      | bool truth =>
          cases truth <;>
            simp [write, readValue?, skipSpace_cons, isSpace, readWord?, dropLead?]
      | integer number =>
          have read := readNumber?_signedDecimal fits.1 fits.2 ends
          obtain ⟨first, others, shape, opens⟩ :=
            exists_signedDecimal_eq_cons number
          rw [write]
          rw [shape, List.cons_append] at read ⊢
          rw [readValue?_number opens, read]
      | real number => simp [Fits] at fits
      | string content =>
          simp [write, writeString, readValue?, skipSpace_cons, isSpace,
            readString?_escaped]
      | array items => simp [Fits] at fits
      | object members => simp [Fits] at fits

/-- An array that does not close at once is read item by item. -/
theorem readValue?_items
    {character : Char}
    (visible : isSpace character = false)
    (notClosing : character ≠ ']')
    (fuel depth : Nat)
    (rest : List Char) :
    readValue? (fuel + 1) (depth + 1) ('[' :: character :: rest) =
      (readItems? fuel depth (character :: rest)).map
        fun read => (.array read.1, read.2) := by
  have opened : isSpace '[' = false := by decide
  simp only [readValue?, skipSpace_cons opened, skipSpace_cons visible]
  split
  next same => exact absurd (List.cons.inj same).1 notClosing
  next => rfl

/-- An array is read back if its items are. -/
theorem readsBack_array
    {items : List Json}
    (fits : ∀ item ∈ items, Fits depth item)
    (readsBack : ∀ item ∈ items, ReadsBack depth item) :
    ReadsBack (depth + 1) (.array items) := by
  intro fuel text enough ends
  cases fuel with
  | zero => cases items <;> simp [write] at enough
  | succ fuel =>
      cases items with
      | nil => simp [write, readValue?, skipSpace_cons, isSpace]
      | cons first rest =>
          obtain ⟨character, others, shape, visible, notClosing⟩ :=
            exists_write_eq_cons (fits first List.mem_cons_self)
          simp only [write, List.length_append, List.length_cons] at enough
          have enoughLeft :
              2 * (write first ++ writeItems rest).length ≤ fuel := by
            simp only [List.length_append]
            omega
          have read := readItems?_write readsBack enoughLeft text
          rw [shape, List.cons_append] at read
          rw [write, shape, List.append_assoc, List.cons_append,
            List.cons_append, readValue?_items visible notClosing, read]
          rfl

/-- An object is read back if its members are. -/
theorem readsBack_object
    {members : List (String × Json)}
    (readsBack : ∀ member ∈ members, ReadsBack depth member.2) :
    ReadsBack (depth + 1) (.object members) := by
  intro fuel text enough ends
  cases fuel with
  | zero => cases members <;> simp [write] at enough
  | succ fuel =>
      cases members with
      | nil => simp [write, readValue?, skipSpace_cons, isSpace]
      | cons member rest =>
          simp only [write, List.length_append, List.length_cons] at enough
          have enoughLeft :
              2 * (writeString member.1 ++ ':' :: write member.2 ++
                writeMembers rest).length ≤ fuel := by
            simp only [List.length_append, List.length_cons]
            omega
          have read := readMembers?_write readsBack enoughLeft text
          simp only [writeString, List.cons_append, List.append_assoc,
            List.nil_append] at read
          simp [write, writeString, readValue?, skipSpace_cons, isSpace, read]

/-- What fits is read as it was written. -/
theorem readsBack_of_fits (fits : Fits depth value) : ReadsBack depth value := by
  induction depth generalizing value with
  | zero => exact readsBack_scalar fits
  | succ depth inductionHypothesis =>
      cases value with
      | null => exact readsBack_scalar trivial
      | bool truth => exact readsBack_scalar trivial
      | integer number => exact readsBack_scalar fits
      | real number => simp [Fits] at fits
      | string content => exact readsBack_scalar trivial
      | array items =>
          exact
            readsBack_array fits fun item member =>
              inductionHypothesis (fits item member)
      | object members =>
          exact
            readsBack_object fun member inMembers =>
              inductionHypothesis (fits member inMembers)

/-- The text of a value that fits is read as that value. -/
theorem parse?_render (fits : Fits depthLimit value) :
    parse? value.render = some value := by
  have read :=
    readsBack_of_fits fits (2 * (write value).length + 2) [] (by omega)
      (fun _ atFront => nomatch atFront)
  rw [List.append_nil] at read
  simp [parse?, render, read?, read, skipSpace]

end MTConnect.Json
