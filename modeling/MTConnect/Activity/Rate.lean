namespace MTConnect

/-!
# Rates

A rate is a count together with a smoothed speed of counting. A new reading
of the count moves the speed towards the speed since the previous reading, by
a fraction called the smoothing factor.
-/

/-- A count and its smoothed change per second. -/
structure Rate where
  count : Nat
  perSecond : Float
  deriving Repr, Inhabited

namespace Rate

/-- Nothing counted yet. -/
def zero : Rate := ⟨0, 0.0⟩

/--
Take in a new reading of the count after some seconds.

Without time between the readings nothing is known and the rate stays as it
is. A count never decreases.
-/
def update (rate : Rate) (count : Nat) (seconds smoothing : Float) : Rate :=
  if seconds ≤ 0.0 then
    rate
  else
    let speed := (count - rate.count).toUInt64.toFloat / seconds
    { count := max rate.count count
      perSecond := smoothing * speed + (1.0 - smoothing) * rate.perSecond }

end Rate

end MTConnect
