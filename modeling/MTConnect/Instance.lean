import MTConnect.Fault
import MTConnect.Signal
import MTConnect.Timestamp

namespace MTConnect

/-!
# The identity of an agent's history

Sequence numbers mean something only within one history. The instance
identifier names the history; it changes whenever the history is thrown away,
so that a client that presents an old identifier is told so instead of being
served numbers that mean something else.
-/

/-- The identifier of the current history, and when that history began. -/
structure AgentInstance where
  id : Signal Nat
  started : Timestamp
  deriving Repr, DecidableEq

namespace AgentInstance

/-- The identity of a history that begins now: the time in seconds, at least one. -/
def starting (now : Timestamp) : AgentInstance where
  id := { value := max now.seconds 1 }
  started := now

/--
The identity of a new history: the time in seconds, or the old identifier plus
one if the clock has not moved past it.
-/
def renew (identity : AgentInstance) (now : Timestamp) : AgentInstance where
  id := identity.id.publish (max now.seconds (identity.id.value + 1))
  started := now

/-- Refuse any identifier but the current one. -/
def check (identity : AgentInstance) (presented : Nat) : Except Fault Unit :=
  if presented = identity.id.value then
    .ok ()
  else
    .error (.instanceMismatch presented identity.id.value)

/-- A new history never has the identifier of the one before. -/
theorem value_lt_renew (identity : AgentInstance) (now : Timestamp) :
    identity.id.value < (identity.renew now).id.value := by
  simp only [renew, Signal.value_publish]
  omega

end AgentInstance

end MTConnect
