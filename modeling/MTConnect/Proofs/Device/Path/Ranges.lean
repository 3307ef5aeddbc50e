import MTConnect.Proofs.Device.Path.Splitting
import MTConnect.Proofs.Text.Slicing

namespace MTConnect.Path

/-!
# The ranges of the parts

The parts of a path can be found without copying any text, as ranges of its
bytes. The scan for bars and slashes goes from character to character and adds
up their sizes. The scan for joining words goes from byte to byte: it reads a
byte as the character of that code, which it is not if the byte belongs to a
longer character. Both come to ranges that begin and end between characters,
and the slices of the text in these ranges are its parts.
-/

open Text (ByteRange slice?)
open Text.Utf8 (byteCount encode encodeChar)

/--
The ranges of the parts between separators outside quotes and brackets. The
part begins at `first`, and the scan has come to `place`.
-/
def rangesOutside (separator : Char) :
    Option Char → Nat → Nat → Nat → List Char → List ByteRange
  | _, _, first, place, [] => [⟨first, place⟩]
  | some quote, depth, first, place, character :: rest =>
      rangesOutside separator (quoteAfter (some quote) character) depth first
        (place + character.utf8Size) rest
  | none, depth, first, place, character :: rest =>
      let behind := place + character.utf8Size
      if isQuote character then
        rangesOutside separator (some character) depth first behind rest
      else if character = '[' then
        rangesOutside separator none (depth + 1) first behind rest
      else if character = ']' then
        rangesOutside separator none (depth - 1) first behind rest
      else if character = separator ∧ depth = 0 then
        ⟨first, place⟩ :: rangesOutside separator none depth behind behind rest
      else
        rangesOutside separator none depth first behind rest

/--
Whether the text from a place on begins with the joining word. It does not if
the place is inside a character.
-/
def joinsAt (text : List Char) (place : Nat) : Bool :=
  (slice? text ⟨place, byteCount text⟩).any (conjunction.isPrefixOf ·)

theorem byteCount_conjunction : byteCount conjunction = 5 :=
  rfl

/--
The ranges of the clauses between joining words outside quotes. The clause
begins at `first`, and the scan has come to `place`.
-/
def rangesAnd
    (text : List Char)
    (first place : Nat)
    (quote? : Option Char) : List ByteRange :=
  if inside : place < (encode text).length then
    let character := Char.ofUInt8 (encode text)[place]
    if quote? = none ∧ isQuote character = false ∧ joinsAt text place then
      let behind := place + byteCount conjunction
      ⟨first, place⟩ :: rangesAnd text behind behind none
    else
      rangesAnd text first (place + 1) (quoteAfter quote? character)
  else
    [⟨first, byteCount text⟩]
termination_by (encode text).length - place
decreasing_by
  · rw [byteCount_conjunction]
    omega
  · omega

/-! ## How far a scan has come -/

/--
A part begins behind the text that is done with, and the scan has come behind
what the part holds so far.
-/
structure Reached
    (text done current rest : List Char)
    (first place : Nat) : Prop where
  text_eq : text = done ++ current ++ rest
  first_eq : first = byteCount done
  place_eq : place = byteCount (done ++ current)

namespace Reached

variable
  {text done current rest : List Char}
  {first place : Nat}

theorem start (text : List Char) : Reached text [] [] text 0 0 :=
  ⟨rfl, rfl, rfl⟩

theorem slice?_eq (reached : Reached text done current rest first place) :
    slice? text ⟨first, place⟩ = some current := by
  rw [reached.text_eq, reached.first_eq, reached.place_eq]
  exact Text.slice?_append done current rest

/-- A character joins the part. -/
theorem next
    {character : Char}
    (reached : Reached text done current (character :: rest) first place) :
    Reached text done (current ++ [character]) rest first
      (place + character.utf8Size) := by
  refine ⟨?_, reached.first_eq, ?_⟩
  · rw [reached.text_eq]
    simp
  · rw [reached.place_eq, ← List.append_assoc,
      Text.byteCount_append (done ++ current), Text.byteCount_singleton]

/-- The part ends, and the next one begins behind a separator. -/
theorem cut
    (separator : List Char)
    (reached : Reached text done current (separator ++ rest) first place) :
    Reached text (done ++ current ++ separator) [] rest
      (place + byteCount separator) (place + byteCount separator) := by
  refine ⟨?_, ?_, ?_⟩
  · rw [reached.text_eq]
    simp
  · rw [reached.place_eq, Text.byteCount_append (done ++ current)]
  · rw [reached.place_eq, List.append_nil,
      Text.byteCount_append (done ++ current)]

end Reached

/-- The first range is cut out, and then the others. -/
theorem mapM_slice?_cons
    {text part : List Char}
    {range : ByteRange}
    {ranges : List ByteRange}
    {parts : List (List Char)}
    (sliced : slice? text range = some part)
    (others : ranges.mapM (slice? text) = some parts) :
    (range :: ranges).mapM (slice? text) = some (part :: parts) := by
  rw [List.mapM_cons, sliced, others]
  rfl

theorem consParts_concat
    (text : List Char)
    (character : Char)
    (parts : List (List Char)) :
    Text.consParts (text ++ [character]) parts =
      Text.consParts text (Text.consPart character parts) :=
  Text.consParts_append text [character] parts

/-! ## Bars and slashes -/

/-- The slices of the text in the ranges are its parts. -/
theorem slices_outside
    {separator : Char}
    {text done current rest : List Char}
    {first place : Nat}
    (quote? : Option Char)
    (depth : Nat)
    (reached : Reached text done current rest first place) :
    (rangesOutside separator quote? depth first place rest).mapM (slice? text) =
      some (Text.consParts current (splitOutside separator quote? depth rest)) := by
  induction rest generalizing done current first place quote? depth with
  | nil =>
      have whole :
          [⟨first, place⟩].mapM (slice? text) =
            some (Text.consParts current [[]]) := by
        rw [mapM_slice?_cons reached.slice?_eq List.mapM_nil,
          Text.consParts_part, List.append_nil]
      cases quote? <;> exact whole
  | cons character rest inductionHypothesis =>
      have joins (quote? : Option Char) (depth : Nat) :=
        inductionHypothesis quote? depth reached.next
      simp only [consParts_concat] at joins
      cases quote? with
      | some quote => exact joins _ depth
      | none =>
          simp only [rangesOutside, splitOutside]
          split
          next => exact joins _ depth
          next =>
            split
            next => exact joins _ (depth + 1)
            next =>
              split
              next => exact joins _ (depth - 1)
              next =>
                split
                next =>
                  have behind :=
                    inductionHypothesis none depth (reached.cut [character])
                  rw [Text.byteCount_singleton] at behind
                  rw [Text.consParts_part, List.append_nil]
                  exact mapM_slice?_cons reached.slice?_eq behind
                next => exact joins _ depth

example :
    rangesOutside '|' none 0 0 0 "ü|b".toList = [⟨0, 2⟩, ⟨3, 4⟩] := by
  decide

/-! ## Joining words -/

/-- The joining word is found where it stands in the text, and in no other place. -/
theorem joinsAt_iff {text : List Char} {place : Nat} :
    joinsAt text place = true ↔
      ∃ early late,
        text = early ++ (conjunction ++ late) ∧ place = byteCount early := by
  simp only [joinsAt, Option.any_eq_true, Text.slice?_to_end_eq_some_iff,
    List.isPrefixOf_iff_prefix]
  constructor
  · rintro ⟨_, ⟨early, textEq, placeEq⟩, late, rfl⟩
    exact ⟨early, late, textEq, placeEq⟩
  · rintro ⟨early, late, textEq, placeEq⟩
    exact ⟨conjunction ++ late, ⟨early, textEq, placeEq⟩, late, rfl⟩

section

variable
  {text done current rest : List Char}
  {first place : Nat}
  {quote? : Option Char}

/-- A byte that no joining word begins with is read on its own. -/
theorem rangesAnd_of_byte
    {byte : UInt8}
    (found : (encode text)[place]? = some byte)
    (noCut : ¬ (quote? = none ∧ joinsAt text place = true)) :
    rangesAnd text first place quote? =
      rangesAnd text first (place + 1)
        (quoteAfter quote? (Char.ofUInt8 byte)) := by
  obtain ⟨inside, rfl⟩ := List.getElem?_eq_some_iff.mp found
  have notHere :
      ¬ (quote? = none ∧ isQuote (Char.ofUInt8 (encode text)[place]) = false ∧
          joinsAt text place = true) :=
    fun cut => noCut ⟨cut.1, cut.2.2⟩
  rw [rangesAnd, dif_pos inside]
  exact if_neg notHere

theorem toNat_ofUInt8 (byte : UInt8) :
    (Char.ofUInt8 byte).toNat = byte.toNat :=
  UInt8.toNat_toUInt32 byte

theorem ofUInt8_of_ascii
    {character : Char}
    (ascii : character.toNat < 0x80) :
    Char.ofUInt8 character.toNat.toUInt8 = character := by
  rw [← Char.toNat_inj, toNat_ofUInt8]
  exact Nat.mod_eq_of_lt (by omega)

/-- What is open is a quote. -/
theorem isQuote_quoteAfter
    (quotes : ∀ quote ∈ quote?, isQuote quote = true)
    (character : Char) :
    ∀ quote ∈ quoteAfter quote? character, isQuote quote = true := by
  intro quote isOpen
  cases quote? with
  | none =>
      rw [quoteAfter] at isOpen
      split at isOpen
      next opens =>
        obtain rfl := Option.mem_some.mp isOpen
        exact opens
      next => cases isOpen
  | some earlier =>
      rw [quoteAfter] at isOpen
      split at isOpen
      next => cases isOpen
      next => exact quotes quote isOpen

/-- Quotes are ASCII characters, and no other character opens or closes them. -/
theorem quoteAfter_of_beyond
    {character : Char}
    (quotes : ∀ quote ∈ quote?, isQuote quote = true)
    (beyond : 0x80 ≤ character.toNat) :
    quoteAfter quote? character = quote? := by
  have notQuote : isQuote character = false := by
    rw [Bool.eq_false_iff]
    intro opens
    rcases isQuote_cases opens with rfl | rfl
    · exact absurd beyond (by decide)
    · exact absurd beyond (by decide)
  cases quote? with
  | none => simp [quoteAfter, notQuote]
  | some quote =>
      apply quoteAfter_of_ne
      rintro rfl
      rw [quotes character rfl] at notQuote
      cases notQuote

/-- A byte beyond ASCII is no quote, and no joining word begins with it. -/
theorem rangesAnd_of_beyond
    {byte : UInt8}
    (quotes : ∀ quote ∈ quote?, isQuote quote = true)
    (found : (encode text)[place]? = some byte)
    (beyond : 0x80 ≤ byte.toNat) :
    rangesAnd text first place quote? =
      rangesAnd text first (place + 1) quote? := by
  have noJoin : ¬ joinsAt text place = true := by
    rw [joinsAt_iff]
    rintro ⟨early, late, rfl, rfl⟩
    have space := Text.getElem?_encode_append early (conjunction ++ late) 0
    rw [Nat.add_zero, found] at space
    obtain rfl := Option.some.inj space
    exact absurd beyond (by decide)
  rw [rangesAnd_of_byte found (fun cut => noJoin cut.2),
    quoteAfter_of_beyond quotes ((toNat_ofUInt8 byte).symm ▸ beyond)]

/-- The bytes of the character that the scan has come to. -/
theorem Reached.byte_eq
    {character : Char}
    (reached : Reached text done current (character :: rest) first place)
    (index : Nat)
    (inside : index < (encodeChar character).length) :
    (encode text)[place + index]? = some (encodeChar character)[index] := by
  rw [reached.text_eq, reached.place_eq, Text.getElem?_encode_append,
    Text.Utf8.encode_cons, List.getElem?_append_left inside,
    List.getElem?_eq_getElem inside]

theorem Reached.joinsAt_iff
    (reached : Reached text done current rest first place) :
    joinsAt text place = true ↔ conjunction <+: rest := by
  have late : slice? text ⟨place, byteCount text⟩ = some rest :=
    Text.slice?_to_end_eq_some_iff.mpr
      ⟨done ++ current, reached.text_eq, reached.place_eq⟩
  rw [joinsAt, late, Option.any_some, List.isPrefixOf_iff_prefix]

/-- As far as the bytes of a character beyond ASCII go, nothing changes. -/
theorem rangesAnd_within_character
    {character : Char}
    (quotes : ∀ quote ∈ quote?, isQuote quote = true)
    (reached : Reached text done current (character :: rest) first place)
    (beyond : 0x80 ≤ character.toNat)
    {count : Nat}
    (atMost : count ≤ (encodeChar character).length) :
    rangesAnd text first place quote? =
      rangesAnd text first (place + count) quote? := by
  induction count with
  | zero => rfl
  | succ count inductionHypothesis =>
      have high :=
        Text.Utf8.le_of_mem_encodeChar beyond
          (List.getElem_mem (Nat.lt_of_succ_le atMost))
      rw [inductionHypothesis (Nat.le_of_succ_le atMost),
        rangesAnd_of_beyond quotes
          (reached.byte_eq count (Nat.lt_of_succ_le atMost)) high]
      rfl

/-- The scan over bytes passes over a character as the scan over characters does. -/
theorem rangesAnd_cons
    {character : Char}
    (quotes : ∀ quote ∈ quote?, isQuote quote = true)
    (reached : Reached text done current (character :: rest) first place)
    (noCut : ¬ (conjunction <+: character :: rest ∧ quote? = none)) :
    rangesAnd text first place quote? =
      rangesAnd text first (place + character.utf8Size)
        (quoteAfter quote? character) := by
  rw [← reached.joinsAt_iff] at noCut
  rw [← Text.Utf8.length_encodeChar]
  by_cases ascii : character.toNat < 0x80
  · have bytes := Text.Utf8.encodeChar_of_ascii ascii
    have found :
        (encode text)[place]? = some character.toNat.toUInt8 := by
      have byte := reached.byte_eq 0 (by simp [bytes])
      simpa [bytes] using byte
    rw [rangesAnd_of_byte found (fun cut => noCut cut.symm),
      ofUInt8_of_ascii ascii, bytes]
    rfl
  · have beyond : 0x80 ≤ character.toNat := Nat.le_of_not_lt ascii
    rw [quoteAfter_of_beyond quotes beyond]
    exact rangesAnd_within_character quotes reached beyond (Nat.le_refl _)

/-- Where a joining word stands outside quotes, the range of a clause ends. -/
theorem rangesAnd_conjunction
    (reached : Reached text done current (conjunction ++ rest) first place) :
    rangesAnd text first place none =
      ⟨first, place⟩ ::
        rangesAnd text (place + byteCount conjunction)
          (place + byteCount conjunction) none := by
  have joins : joinsAt text place = true :=
    reached.joinsAt_iff.mpr ⟨rest, rfl⟩
  have found : (encode text)[place]? = some 0x20 :=
    Reached.byte_eq reached 0 (by decide)
  obtain ⟨inside, byteEq⟩ := List.getElem?_eq_some_iff.mp found
  rw [rangesAnd, dif_pos inside]
  exact if_pos ⟨rfl, by rw [byteEq]; rfl, joins⟩

theorem rangesAnd_end (reached : Reached text done current [] first place) :
    rangesAnd text first place quote? = [⟨first, place⟩] := by
  have atEnd : place = byteCount text := by
    rw [reached.place_eq, reached.text_eq, List.append_nil]
  rw [rangesAnd, dif_neg (by rw [atEnd]; exact Nat.lt_irrefl _), atEnd]

end

/-- The slices of the text in the ranges are its clauses. -/
theorem slices_and
    {text done current rest : List Char}
    {first place : Nat}
    {quote? : Option Char}
    (quotes : ∀ quote ∈ quote?, isQuote quote = true)
    (reached : Reached text done current rest first place) :
    (rangesAnd text first place quote?).mapM (slice? text) =
      some (Text.consParts current (splitAnd quote? rest)) := by
  -- A joining word is passed over at once, and what follows it is no tail.
  induction size : rest.length using Nat.strongRecOn
    generalizing rest done current first place quote? with
  | _ length inductionHypothesis =>
      cases rest with
      | nil =>
          rw [rangesAnd_end reached,
            mapM_slice?_cons reached.slice?_eq List.mapM_nil, splitAnd,
            Text.consParts_part, List.append_nil]
      | cons character rest =>
          by_cases cut : conjunction <+: character :: rest ∧ quote? = none
          · obtain ⟨⟨late, begins⟩, rfl⟩ := cut
            rw [← begins] at reached size ⊢
            have shorter : late.length < length := by
              rw [← size, List.length_append]
              exact Nat.lt_add_of_pos_left (by decide)
            have behind :=
              inductionHypothesis late.length shorter quotes
                (reached.cut conjunction) rfl
            rw [rangesAnd_conjunction reached, splitAnd_conjunction,
              Text.consParts_part, List.append_nil]
            exact mapM_slice?_cons reached.slice?_eq behind
          · rw [rangesAnd_cons quotes reached cut, splitAnd_cons cut,
              ← consParts_concat]
            have shorter : rest.length < length := by
              rw [← size]
              exact Nat.lt_succ_self _
            exact
              inductionHypothesis rest.length shorter
                (isQuote_quoteAfter quotes character) reached.next rfl

end MTConnect.Path
