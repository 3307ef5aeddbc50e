import MTConnect.Word

namespace MTConnect

/-!
# Points in time

Times are milliseconds since the Unix epoch, as adapters report them and as
documents show them.
-/

/-- Milliseconds since the Unix epoch. -/
structure Timestamp where
  millis : Nat
  deriving Repr, DecidableEq, Inhabited

namespace Timestamp

/-- The Unix epoch itself. -/
def epoch : Timestamp := ⟨0⟩

/-- A time given in seconds. -/
def ofSeconds (seconds : Nat) : Timestamp :=
  ⟨Word.wrap (seconds * 1000)⟩

/-- A time given as a duration since the epoch, in seconds and nanoseconds. -/
def ofDuration (seconds nanoseconds : Nat) : Timestamp :=
  ⟨Word.wrap (seconds * 1000 + nanoseconds / 1000000)⟩

/-- The whole seconds since the epoch. -/
def seconds (time : Timestamp) : Nat :=
  time.millis / 1000

/-- The milliseconds from an earlier time; none have passed since a later one. -/
def since (time earlier : Timestamp) : Nat :=
  time.millis - earlier.millis

/-- Move on by a number of milliseconds; the clock wraps like a word. -/
def advance (time : Timestamp) (millis : Nat) : Timestamp :=
  ⟨Word.wrap (time.millis + millis)⟩

end Timestamp

end MTConnect
