import Mathlib.Data.List.Basic
import MTConnect.Text.Blank
import MTConnect.Text.Split

namespace MTConnect.Text

/-!
# Where a text is cut

A scan looks for a separator and carries along what it has seen. Where it may
cut is told by a predicate: `free early` says that the scan may cut behind the
beginning `early` of the text. The scan cuts at the first separator in such a
place, and does the same with the rest. This determines the parts, whatever
the scan carries along.
-/

variable
  {separator : List Char}
  {free : List Char → Prop}

/-- A separator stands behind a part where the text may be cut, and in no such place before. -/
structure FirstCut
    (separator : List Char)
    (free : List Char → Prop)
    (text part rest : List Char) : Prop where
  text_eq : text = part ++ separator ++ rest
  isFree : free part
  isFirst :
    ∀ early late,
      text = early ++ separator ++ late →
        free early → part.length ≤ early.length

/-- No separator stands where the text may be cut. -/
def NeverCut
    (separator : List Char)
    (free : List Char → Prop)
    (text : List Char) : Prop :=
  ∀ early late, text = early ++ separator ++ late → ¬ free early

/-- The parts of a text that is cut at the first place, then behind it, until there is none. -/
inductive Divided
    (separator : List Char)
    (free : List Char → Prop) : List Char → List (List Char) → Prop where
  | last
      {text : List Char}
      (never : NeverCut separator free text) :
      Divided separator free text [text]
  | cut
      {text part rest : List Char}
      {parts : List (List Char)}
      (first : FirstCut separator free text part rest)
      (others : Divided separator free rest parts) :
      Divided separator free text (part :: parts)

/-! ## There is one first place -/

/-- Two first places are the same. -/
theorem FirstCut.unique
    {text part rest otherPart otherRest : List Char}
    (first : FirstCut separator free text part rest)
    (other : FirstCut separator free text otherPart otherRest) :
    part = otherPart ∧ rest = otherRest := by
  have sameLength : part.length = otherPart.length :=
    Nat.le_antisymm
      (first.isFirst otherPart otherRest other.text_eq other.isFree)
      (other.isFirst part rest first.text_eq first.isFree)
  have sameText :
      part ++ (separator ++ rest) = otherPart ++ (separator ++ otherRest) := by
    rw [← List.append_assoc, ← List.append_assoc, ← first.text_eq,
      ← other.text_eq]
  obtain ⟨rfl, behind⟩ := List.append_inj sameText sameLength
  exact ⟨rfl, List.append_cancel_left behind⟩

theorem FirstCut.not_neverCut
    {text part rest : List Char}
    (first : FirstCut separator free text part rest) :
    ¬ NeverCut separator free text :=
  fun never => never part rest first.text_eq first.isFree

/-- A text has one list of parts. -/
theorem Divided.unique
    {text : List Char}
    {parts others : List (List Char)}
    (divided : Divided separator free text parts)
    (dividedToo : Divided separator free text others) :
    parts = others := by
  induction divided generalizing others with
  | last never =>
      cases dividedToo with
      | last => rfl
      | cut first _ => exact absurd never first.not_neverCut
  | cut first _ inductionHypothesis =>
      cases dividedToo with
      | last never => exact absurd never first.not_neverCut
      | cut firstToo later =>
          obtain ⟨rfl, rfl⟩ := first.unique firstToo
          rw [inductionHypothesis later]

/-! ## Scans -/

section

variable
  {character : Char}
  {text : List Char}
  (notHere : ¬ (separator <+: character :: text ∧ free []))

include notHere

/-- What a text may be cut behind begins with its first character. -/
theorem exists_cons_of_free
    {early late : List Char}
    (textEq : character :: text = early ++ separator ++ late)
    (isFree : free early) :
    ∃ others,
      early = character :: others ∧ text = others ++ separator ++ late := by
  cases early with
  | nil => exact absurd ⟨⟨late, textEq.symm⟩, isFree⟩ notHere
  | cons first others =>
      obtain ⟨rfl, rest⟩ := List.cons.inj textEq
      exact ⟨others, rfl, rest⟩

theorem NeverCut.cons
    (never :
      NeverCut separator (fun early => free (character :: early)) text) :
    NeverCut separator free (character :: text) := by
  intro early late textEq isFree
  obtain ⟨others, rfl, rest⟩ := exists_cons_of_free notHere textEq isFree
  exact never others late rest isFree

/-- The first cut stays the first behind one more character that begins none. -/
theorem FirstCut.cons
    {part rest : List Char}
    (first :
      FirstCut separator (fun early => free (character :: early)) text part
        rest) :
    FirstCut separator free (character :: text) (character :: part) rest := by
  refine ⟨?_, first.isFree, ?_⟩
  · rw [first.text_eq]
    rfl
  · intro early late textEq isFree
    obtain ⟨others, rfl, behind⟩ := exists_cons_of_free notHere textEq isFree
    exact Nat.succ_le_succ (first.isFirst others late behind isFree)

end

theorem NeverCut.nil (nonempty : separator ≠ []) : NeverCut separator free [] := by
  intro early late textEq
  have filled : early ++ separator ++ late ≠ [] := by simp [nonempty]
  exact absurd textEq.symm filled

/-- The text may be cut where it begins. -/
theorem FirstCut.here
    (isFree : free [])
    (rest : List Char) :
    FirstCut separator free (separator ++ rest) [] rest :=
  ⟨rfl, isFree, fun early _ _ _ => Nat.zero_le early.length⟩

/-- What a scan makes of a text that goes on with `behind` after the first cut. -/
inductive CutsFirst
    (separator : List Char)
    (free : List Char → Prop)
    (behind : List Char → List (List Char))
    (text : List Char) : List (List Char) → Prop where
  | never
      (never : NeverCut separator free text) :
      CutsFirst separator free behind text [text]
  | first
      {part rest : List Char}
      (first : FirstCut separator free text part rest) :
      CutsFirst separator free behind text (part :: behind rest)

section

variable {behind : List Char → List (List Char)}

/-- If a text may not be cut where it begins, its first character joins the first part. -/
theorem CutsFirst.cons
    {character : Char}
    {text : List Char}
    {parts : List (List Char)}
    (notHere : ¬ (separator <+: character :: text ∧ free []))
    (later :
      CutsFirst separator (fun early => free (character :: early)) behind text
        parts) :
    CutsFirst separator free behind (character :: text)
      (consPart character parts) := by
  cases later with
  | never never => exact .never (never.cons notHere)
  | first first => exact .first (first.cons notHere)

end

section

variable
  {split : List Char → List (List Char)}
  (nonempty : separator ≠ [])
  (cuts : ∀ text, CutsFirst separator free split text (split text))

include nonempty cuts

/-- A scan that goes on behind each first cut divides the text. -/
theorem divided_of_cutsFirst (text : List Char) :
    Divided separator free text (split text) := by
  -- What follows a separator is shorter, and need not be the tail of the text.
  induction size : text.length using Nat.strongRecOn generalizing text with
  | _ length inductionHypothesis =>
      generalize splits : split text = parts
      have cutsText := cuts text
      rw [splits] at cutsText
      cases cutsText with
      | never never => exact .last never
      | @first part rest first =>
          have shorter : rest.length < length := by
            have filled := List.length_pos_iff.mpr nonempty
            have lengths := congrArg List.length first.text_eq
            simp only [List.length_append] at lengths
            omega
          exact .cut first (inductionHypothesis rest.length shorter rest rfl)

/-- A scan that cuts at the first place wherever it begins gives the parts of the text. -/
theorem divided_iff
    {text : List Char}
    {parts : List (List Char)} :
    Divided separator free text parts ↔ split text = parts := by
  constructor
  · intro divided
    exact (divided_of_cutsFirst nonempty cuts text).unique divided
  · rintro rfl
    exact divided_of_cutsFirst nonempty cuts text

end

/-! ## Places of cuts -/

/-- Behind this beginning of a text one of its parts ends and another one follows. -/
def IsCut
    (separator : List Char)
    (parts : List (List Char))
    (early : List Char) : Prop :=
  ∃ front back,
    parts = front ++ back ∧
      front ≠ [] ∧ back ≠ [] ∧ separator.intercalate front = early

/-- A separator behind this beginning would share characters with one that cuts before it. -/
def OverlapsCut
    (separator : List Char)
    (parts : List (List Char))
    (early : List Char) : Prop :=
  ∃ before,
    IsCut separator parts before ∧
      before.length < early.length ∧
        early.length < before.length + separator.length

/-- A single part is not followed by another. -/
theorem not_isCut_singleton
    {part early : List Char} :
    ¬ IsCut separator [part] early := by
  rintro ⟨front, back, partsEq, frontFilled, backFilled, -⟩
  have lengths := congrArg List.length partsEq
  rw [List.length_append] at lengths
  have := List.length_pos_iff.mpr frontFilled
  have := List.length_pos_iff.mpr backFilled
  simp only [List.length_singleton] at lengths
  omega

/-- A cut is behind the first part, or behind one of the others. -/
theorem isCut_cons_iff
    {part early : List Char}
    {others : List (List Char)}
    (nonempty : others ≠ []) :
    IsCut separator (part :: others) early ↔
      early = part ∨
        ∃ later,
          IsCut separator others later ∧ early = part ++ separator ++ later := by
  constructor
  · rintro ⟨front, back, partsEq, frontFilled, backFilled, rfl⟩
    obtain ⟨first, frontRest, rfl⟩ := List.exists_cons_of_ne_nil frontFilled
    obtain ⟨rfl, rfl⟩ := List.cons.inj partsEq
    by_cases alone : frontRest = []
    · subst alone
      exact .inl List.intercalate_singleton
    · refine .inr ⟨_, ⟨frontRest, back, rfl, alone, backFilled, rfl⟩, ?_⟩
      exact List.intercalate_cons_of_ne_nil alone
  · rintro (rfl | ⟨_, ⟨front, back, rfl, frontFilled, backFilled, rfl⟩, rfl⟩)
    · exact
        ⟨[early], others, rfl, List.cons_ne_nil early [], nonempty,
          List.intercalate_singleton⟩
    · exact
        ⟨part :: front, back, rfl, List.cons_ne_nil part front, backFilled,
          List.intercalate_cons_of_ne_nil frontFilled⟩

/-- Two separators of one character are the same or share nothing. -/
theorem not_overlapsCut_singleton
    {character : Char}
    {parts : List (List Char)}
    {early : List Char} :
    ¬ OverlapsCut [character] parts early := by
  rintro ⟨before, -, shorter, within⟩
  rw [List.length_singleton] at within
  omega

/-- A place behind the first separator overlaps only later cuts. -/
theorem overlapsCut_cons_iff
    {part later : List Char}
    {others : List (List Char)}
    (nonempty : others ≠ []) :
    OverlapsCut separator (part :: others) (part ++ separator ++ later) ↔
      OverlapsCut separator others later := by
  constructor
  · rintro ⟨before, isCut, shorter, within⟩
    rcases (isCut_cons_iff nonempty).mp isCut with
      rfl | ⟨earlier, isCutLater, rfl⟩
    · simp only [List.length_append] at within
      omega
    · simp only [List.length_append] at shorter within
      exact ⟨earlier, isCutLater, by omega, by omega⟩
  · rintro ⟨earlier, isCut, shorter, within⟩
    refine
      ⟨part ++ separator ++ earlier,
        (isCut_cons_iff nonempty).mpr (.inr ⟨earlier, isCut, rfl⟩), ?_, ?_⟩
    · simp only [List.length_append]
      omega
    · simp only [List.length_append]
      omega

/-- A separator that may cut is the first one, begins within it, or stands in the rest. -/
theorem FirstCut.place_cases
    {text part rest early late : List Char}
    (first : FirstCut separator free text part rest)
    (textEq : text = early ++ separator ++ late)
    (isFree : free early) :
    early = part ∨
      (part.length < early.length ∧
        early.length < part.length + separator.length) ∨
        ∃ later, early = part ++ separator ++ later := by
  rcases Nat.eq_or_lt_of_le (first.isFirst early late textEq isFree) with
    sameLength | longer
  · have sameText :
        part ++ (separator ++ rest) = early ++ (separator ++ late) := by
      rw [← List.append_assoc, ← List.append_assoc, ← first.text_eq, ← textEq]
    exact .inl (List.append_inj_left sameText sameLength).symm
  · by_cases within : early.length < part.length + separator.length
    · exact .inr (.inl ⟨longer, within⟩)
    · obtain ⟨later, shape⟩ : part ++ separator <+: early := by
        refine
          List.prefix_of_prefix_length_le ⟨rest, first.text_eq.symm⟩
            ⟨separator ++ late, ?_⟩ ?_
        · rw [textEq, List.append_assoc]
        · rw [List.length_append]
          exact Nat.le_of_not_lt within
      exact .inr (.inr ⟨later, shape.symm⟩)

/-- A separator behind the first one stands in the rest. -/
theorem FirstCut.rest_eq
    {text part rest later late : List Char}
    (first : FirstCut separator free text part rest)
    (textEq : text = part ++ separator ++ later ++ separator ++ late) :
    rest = later ++ separator ++ late := by
  rw [first.text_eq] at textEq
  simpa using textEq

namespace Divided

variable
  {text : List Char}
  {parts : List (List Char)}

theorem ne_nil (divided : Divided separator free text parts) : parts ≠ [] := by
  cases divided with
  | last => exact List.cons_ne_nil text []
  | @cut _ part _ others => exact List.cons_ne_nil part others

/-- Joining the parts with the separator gives the text back. -/
theorem intercalate_eq (divided : Divided separator free text parts) :
    separator.intercalate parts = text := by
  induction divided with
  | last => exact List.intercalate_singleton
  | cut first others inductionHypothesis =>
      rw [List.intercalate_cons_of_ne_nil others.ne_nil, inductionHypothesis,
        first.text_eq]

/--
If behind a cut the text may be cut as if it began there, a separator cuts
exactly if it may and begins behind the last one that cuts.
-/
theorem isCut_iff
    (resumes :
      ∀ part late,
        free part → (free (part ++ separator ++ late) ↔ free late))
    (divided : Divided separator free text parts)
    {early late : List Char}
    (textEq : text = early ++ separator ++ late) :
    IsCut separator parts early ↔
      free early ∧ ¬ OverlapsCut separator parts early := by
  induction divided generalizing early with
  | last never =>
      constructor
      · intro isCut
        exact absurd isCut not_isCut_singleton
      · intro cuts
        exact absurd cuts.1 (never early late textEq)
  | @cut text part rest others first divided inductionHypothesis =>
      have nonempty := divided.ne_nil
      rw [isCut_cons_iff nonempty]
      constructor
      · rintro (rfl | ⟨later, isCut, rfl⟩)
        · refine ⟨first.isFree, ?_⟩
          rintro ⟨before, isCut, shorter, -⟩
          rcases (isCut_cons_iff nonempty).mp isCut with rfl | ⟨_, -, rfl⟩
          · exact Nat.lt_irrefl _ shorter
          · simp only [List.length_append] at shorter
            omega
        · rw [resumes part later first.isFree, overlapsCut_cons_iff nonempty]
          exact
            (inductionHypothesis (first.rest_eq textEq)).mp isCut
      · rintro ⟨isFree, apart⟩
        rcases first.place_cases textEq isFree with
          rfl | ⟨longer, within⟩ | ⟨later, rfl⟩
        · exact .inl rfl
        · have isCut : IsCut separator (part :: others) part :=
            (isCut_cons_iff nonempty).mpr (.inl rfl)
          exact absurd ⟨part, isCut, longer, within⟩ apart
        · rw [resumes part later first.isFree] at isFree
          rw [overlapsCut_cons_iff nonempty] at apart
          have isCut :=
            (inductionHypothesis (first.rest_eq textEq)).mpr ⟨isFree, apart⟩
          exact .inr ⟨later, isCut, rfl⟩

end Divided

/-! ## Single characters -/

/-- A character is dropped off the front if the text begins with it. -/
theorem dropLead?_eq_some_iff
    {character : Char}
    {text rest : List Char} :
    dropLead? [character] text = some rest ↔ text = character :: rest := by
  constructor
  · intro dropped
    cases text with
    | nil => cases dropped
    | cons first others =>
        rw [dropLead?] at dropped
        split at dropped
        next same =>
          rw [same, ← Option.some.inj dropped]
        next => cases dropped
  · rintro rfl
    exact dropLead?_append [character] rest

/-- A character is dropped off the end if the text ends with it. -/
theorem dropLast?_eq_some_iff
    {character : Char}
    {text rest : List Char} :
    dropLast? character text = some rest ↔ text = rest ++ [character] := by
  rw [dropLast?]
  constructor
  · intro dropped
    split at dropped
    next isLast =>
      obtain ⟨front, rfl⟩ := List.getLast?_eq_some_iff.mp isLast
      rw [List.dropLast_concat] at dropped
      rw [Option.some.inj dropped]
    next => cases dropped
  · rintro rfl
    rw [List.getLast?_concat, if_pos rfl, List.dropLast_concat]

/-- A text is split at the first separator. -/
theorem splitOnce?_eq_some_iff
    {separator : Char}
    {text part rest : List Char} :
    splitOnce? separator text = some (part, rest) ↔
      text = part ++ separator :: rest ∧ separator ∉ part := by
  constructor
  · intro halves
    by_cases member : separator ∈ text
    · obtain ⟨before, behind, rfl, clean⟩ := List.eq_append_cons_of_mem member
      rw [splitOnce?_append clean] at halves
      obtain ⟨rfl, rfl⟩ := Prod.mk.inj (Option.some.inj halves)
      exact ⟨rfl, clean⟩
    · rw [splitOnce?_of_not_mem member] at halves
      cases halves
  · rintro ⟨rfl, clean⟩
    exact splitOnce?_append clean

/-! ## White space around a text -/

/-- A text is a core that begins and ends visibly, with white space around it. -/
structure Padded (text core : List Char) : Prop where
  around :
    ∃ lead trail,
      text = lead ++ core ++ trail ∧
        (∀ character ∈ lead, isBlank character = true) ∧
          ∀ character ∈ trail, isBlank character = true
  headVisible : ∀ character ∈ core.head?, isBlank character = false
  lastVisible : ∀ character ∈ core.getLast?, isBlank character = false

/-- White space is dropped up to the first visible character. -/
theorem dropWhile_isBlank
    {lead core : List Char}
    (blank : ∀ character ∈ lead, isBlank character = true)
    (visible : ∀ character ∈ core.head?, isBlank character = false) :
    (lead ++ core).dropWhile isBlank = core := by
  rw [List.dropWhile_append_of_pos blank]
  cases core with
  | nil => rfl
  | cons first others =>
      rw [List.dropWhile_cons, visible first rfl]
      rfl

theorem isBlank_head_dropWhile (text : List Char) :
    ∀ character ∈ (text.dropWhile isBlank).head?,
      isBlank character = false := by
  intro character isFirst
  have stops := List.head?_dropWhile_not isBlank text
  rw [isFirst] at stops
  simpa using stops

/-- What is trimmed off a text is the white space around it. -/
theorem padded_trim (text : List Char) : Padded text (trim text) := by
  unfold trim trimEnd
  have front := List.takeWhile_append_dropWhile (p := isBlank) (l := text)
  generalize rest : text.dropWhile isBlank = behind at front
  have back :
      (behind.reverse.dropWhile isBlank).reverse ++
          (behind.reverse.takeWhile isBlank).reverse =
        behind := by
    rw [← List.reverse_append, List.takeWhile_append_dropWhile,
      List.reverse_reverse]
  refine
    ⟨⟨text.takeWhile isBlank, (behind.reverse.takeWhile isBlank).reverse,
      ?_, ?_, ?_⟩, ?_, ?_⟩
  · rw [List.append_assoc, back, front]
  · intro character member
    exact List.all_eq_true.mp List.all_takeWhile character member
  · intro character member
    exact
      List.all_eq_true.mp List.all_takeWhile character
        (List.mem_reverse.mp member)
  · intro character isFirst
    apply isBlank_head_dropWhile text
    rw [rest, ← back, List.head?_append, isFirst]
    rfl
  · intro character isLast
    rw [List.getLast?_reverse] at isLast
    exact isBlank_head_dropWhile _ character isLast

/-- The core is what is left without the white space around it. -/
theorem Padded.trim_eq
    {text core : List Char}
    (padded : Padded text core) :
    trim text = core := by
  obtain ⟨⟨lead, trail, rfl, blankLead, blankTrail⟩, headVisible, lastVisible⟩ :=
    padded
  cases core with
  | nil =>
      have allBlank : (lead ++ [] ++ trail).dropWhile isBlank = [] := by
        rw [List.append_nil, List.dropWhile_append_of_pos blankLead]
        rw [← List.append_nil trail, dropWhile_isBlank blankTrail (by simp)]
      rw [trim, allBlank]
      rfl
  | cons first others =>
      rw [trim, List.append_assoc,
        dropWhile_isBlank blankLead (by simpa using headVisible), trimEnd,
        List.reverse_append, dropWhile_isBlank, List.reverse_reverse]
      · simpa using blankTrail
      · rw [List.head?_reverse]
        exact lastVisible

theorem trim_eq_iff {text core : List Char} :
    trim text = core ↔ Padded text core := by
  constructor
  · rintro rfl
    exact padded_trim text
  · exact Padded.trim_eq

end MTConnect.Text
