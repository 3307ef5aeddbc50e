namespace MTConnect

/-!
# The window of retained observations

The observations that an agent still holds have consecutive sequence numbers.
The window names the first of them, the last one assigned, and the one that
comes next. Subtractions stop at zero, as they do for a client that computes
with words and clamps.
-/

/-- The sequence numbers that a document covers. -/
structure Window where
  first : Nat
  last : Nat
  next : Nat
  deriving Repr, DecidableEq, Inhabited

namespace Window

/-- The window between the first retained and the next number. -/
def between (first next : Nat) : Window where
  first := first
  last := next - 1
  next := next

/-- Whether nothing is retained. -/
def isEmpty (window : Window) : Bool :=
  decide (window.next ≤ window.first)

/-- How many observations are retained. -/
def size (window : Window) : Nat :=
  window.next - window.first

/-- Whether a number belongs to a retained observation. -/
def contains (window : Window) (sequence : Nat) : Bool :=
  decide (window.first ≤ sequence ∧ sequence < window.next)

/-- Whether reading may go on from a number: a retained one, or the next. -/
def accepts (window : Window) (sequence : Nat) : Bool :=
  decide (window.first ≤ sequence ∧ sequence ≤ window.next)

end Window

end MTConnect
