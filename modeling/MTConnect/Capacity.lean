namespace MTConnect

/-!
# Capacities

Every bounded store holds at least one thing, whatever capacity was asked for.
-/

/-- A capacity that was asked for, raised to one. -/
def raisedCapacity (asked : Nat) : Nat :=
  max asked 1

/-- A raised capacity is positive. -/
theorem raisedCapacity_pos (asked : Nat) : 0 < raisedCapacity asked :=
  Nat.le_max_right asked 1

/-- A positive capacity is left as it is. -/
theorem raisedCapacity_of_pos
    {asked : Nat}
    (positive : 0 < asked) :
    raisedCapacity asked = asked :=
  Nat.max_eq_left positive

end MTConnect
