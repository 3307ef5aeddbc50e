namespace MTConnect.Decimal

/-!
# Powers of two and ten

Exact arithmetic on doubles multiplies by powers of these two bases only.
-/

/-- A power of two. -/
def twoTo (exponent : Nat) : Nat :=
  Nat.pow 2 exponent

/-- A power of ten. -/
def tenTo (exponent : Nat) : Nat :=
  Nat.pow 10 exponent

end MTConnect.Decimal
