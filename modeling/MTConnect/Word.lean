namespace MTConnect.Word

/-!
# Bounds of 64-bit words

Sequence numbers, instance identifiers, times and counts are words of 64 bits
on the wire. Inside the library they are natural numbers, so that arithmetic
needs no side conditions; this module names the bounds and the few places
where a word wraps or is read as a signed number.
-/

/-- The largest word. -/
def top : Nat := 0xFFFFFFFFFFFFFFFF

/-- The largest signed word. -/
def signedTop : Nat := 0x7FFFFFFFFFFFFFFF

/-- How many words there are. -/
def count : Nat := 0x10000000000000000

/-- Reduce a number to the word with the same low 64 bits. -/
def wrap (value : Nat) : Nat :=
  value % count

/-- Read a word as a signed number in two's complement. -/
def toSigned (value : Nat) : Int :=
  if value ≤ signedTop then (value : Int) else (value : Int) - (count : Int)

/-- A word in the signed range keeps its value when read as signed. -/
theorem toSigned_of_le_signedTop
    {value : Nat}
    (bounded : value ≤ signedTop) :
    toSigned value = (value : Int) := by
  simp [toSigned, bounded]

end MTConnect.Word
