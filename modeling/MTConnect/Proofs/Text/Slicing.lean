import Mathlib.Data.String.Basic
import MTConnect.Proofs.Text.Utf8

namespace MTConnect.Text

/-!
# Slices of texts

A place in a text is told by the number of bytes before it. Most numbers are
no places: they lie beyond the end, or inside a character of several bytes. A
range is a slice of the text only if it begins and ends where a character
begins or the text ends.
-/

open Utf8 (byteCount)

/-- The bytes from one number on up to another. -/
structure ByteRange where
  first : Nat
  last : Nat
  deriving Repr, DecidableEq

/-- The text in a range, or none if the range begins or ends inside a character. -/
def slice? (text : List Char) (range : ByteRange) : Option (List Char) :=
  let whole := String.ofList text
  let first : String.Pos.Raw := ⟨range.first⟩
  let last : String.Pos.Raw := ⟨range.last⟩
  if range.first ≤ range.last ∧ first.IsValid whole ∧ last.IsValid whole then
    some (first.extract whole last).toList
  else
    none

/-! ## Counting bytes -/

theorem byteCount_eq_utf8Len (text : List Char) :
    byteCount text = String.utf8Len text :=
  (Utf8.length_encode text).trans (String.utf8ByteSize_ofList text)

theorem byteCount_singleton (character : Char) :
    byteCount [character] = character.utf8Size := by
  rw [byteCount, Utf8.encode, List.flatMap_singleton, Utf8.length_encodeChar]

theorem byteCount_append (front back : List Char) :
    byteCount (front ++ back) = byteCount front + byteCount back := by
  rw [byteCount, Utf8.encode_append, List.length_append]
  rfl

theorem byteCount_eq_zero_iff {text : List Char} : byteCount text = 0 ↔ text = [] := by
  rw [byteCount_eq_utf8Len, String.utf8Len_eq_zero]

/-- Behind the bytes of a beginning stand those of what follows it. -/
theorem getElem?_encode_append (front back : List Char) (index : Nat) :
    (Utf8.encode (front ++ back))[byteCount front + index]? =
      (Utf8.encode back)[index]? := by
  rw [Utf8.encode_append, byteCount,
    List.getElem?_append_right (Nat.le_add_right _ _), Nat.add_sub_cancel_left]

/-- Of two beginnings of a text the one with fewer bytes is a beginning of the other. -/
theorem exists_append_of_byteCount_le
    {text early earlier : List Char}
    (begins : earlier <+: text)
    (beginsToo : early <+: text)
    (atMost : byteCount earlier ≤ byteCount early) :
    ∃ part, early = earlier ++ part := by
  rcases List.prefix_or_prefix_of_prefix begins beginsToo with
    ⟨part, shape⟩ | ⟨part, shape⟩
  · exact ⟨part, shape.symm⟩
  · have noBytes : byteCount part = 0 := by
      rw [← shape, byteCount_append] at atMost
      omega
    refine ⟨[], ?_⟩
    rw [← shape, byteCount_eq_zero_iff.mp noBytes, List.append_nil,
      List.append_nil]

/-! ## What a slice is -/

/-- Characters begin and the text ends behind the bytes of its beginnings, and nowhere else. -/
theorem isValid_ofList_iff {text : List Char} {place : Nat} :
    String.Pos.Raw.IsValid (String.ofList text) ⟨place⟩ ↔
      ∃ early late, text = early ++ late ∧ place = byteCount early := by
  rw [String.Pos.Raw.isValid_ofList]
  constructor
  · rintro ⟨count, placeEq⟩
    refine
      ⟨text.take count, text.drop count, (List.take_append_drop ..).symm, ?_⟩
    exact placeEq.trans (Utf8.length_encode _).symm
  · rintro ⟨early, late, rfl, rfl⟩
    refine ⟨early.length, ?_⟩
    rw [List.take_left]
    exact Utf8.length_encode early

/-- Between two parts of a text the part in the middle is sliced. -/
theorem slice?_append (front part back : List Char) :
    slice? (front ++ part ++ back)
        ⟨byteCount front, byteCount (front ++ part)⟩ =
      some part := by
  have ordered : byteCount front ≤ byteCount (front ++ part) := by
    rw [byteCount_append]
    exact Nat.le_add_right _ _
  have beginsWhole :
      String.Pos.Raw.IsValid (String.ofList (front ++ part ++ back))
        ⟨byteCount front⟩ :=
    isValid_ofList_iff.mpr
      ⟨front, part ++ back, List.append_assoc front part back, rfl⟩
  have endsWhole :
      String.Pos.Raw.IsValid (String.ofList (front ++ part ++ back))
        ⟨byteCount (front ++ part)⟩ :=
    isValid_ofList_iff.mpr ⟨front ++ part, back, rfl, rfl⟩
  rw [slice?, if_pos ⟨ordered, beginsWhole, endsWhole⟩, byteCount_append,
    byteCount_eq_utf8Len, byteCount_eq_utf8Len, String.extract_of_valid,
    String.toList_ofList]

/-- A slice is a part of the text between the bytes of what stands on either side of it. -/
theorem slice?_eq_some_iff
    {text part : List Char}
    {range : ByteRange} :
    slice? text range = some part ↔
      ∃ front back,
        text = front ++ part ++ back ∧
          range = ⟨byteCount front, byteCount (front ++ part)⟩ := by
  constructor
  · intro sliced
    obtain ⟨first, last⟩ := range
    have inside :
        first ≤ last ∧
          String.Pos.Raw.IsValid (String.ofList text) ⟨first⟩ ∧
            String.Pos.Raw.IsValid (String.ofList text) ⟨last⟩ := by
      by_contra outside
      rw [slice?, if_neg outside] at sliced
      cases sliced
    obtain ⟨ordered, beginsWhole, endsWhole⟩ := inside
    obtain ⟨front, late, textEq, rfl⟩ := isValid_ofList_iff.mp beginsWhole
    obtain ⟨early, back, rfl, rfl⟩ := isValid_ofList_iff.mp endsWhole
    obtain ⟨middle, rfl⟩ :=
      exists_append_of_byteCount_le ⟨late, textEq.symm⟩ ⟨back, rfl⟩ ordered
    rw [slice?_append] at sliced
    obtain rfl := Option.some.inj sliced
    exact ⟨front, back, rfl, rfl⟩
  · rintro ⟨front, back, rfl, rfl⟩
    exact slice?_append front part back

/-- A slice that goes on to the end is what the text ends with. -/
theorem slice?_to_end_eq_some_iff
    {text late : List Char}
    {place : Nat} :
    slice? text ⟨place, byteCount text⟩ = some late ↔
      ∃ early, text = early ++ late ∧ place = byteCount early := by
  rw [slice?_eq_some_iff]
  constructor
  · rintro ⟨early, back, textEq, rangeEq⟩
    obtain ⟨rfl, lastEq⟩ := ByteRange.mk.inj rangeEq
    have noBytes : byteCount back = 0 := by
      rw [textEq, byteCount_append (early ++ late)] at lastEq
      omega
    rw [byteCount_eq_zero_iff.mp noBytes, List.append_nil] at textEq
    exact ⟨early, textEq, rfl⟩
  · rintro ⟨early, rfl, rfl⟩
    exact ⟨early, [], (List.append_nil _).symm, rfl⟩

end MTConnect.Text
