namespace MTConnect

/-!
# Watched values

A signal holds a value together with the number of times it was published.
A watcher remembers the revision that it saw last; the value has changed for
it exactly when the signal has moved on. Publishing an equal value counts as
a change.
-/

/-- A value that watchers can wait on. -/
structure Signal (α : Type) where
  value : α
  revision : Nat := 0
  deriving Repr, DecidableEq

namespace Signal

/-- Replace the value and wake every watcher. -/
def publish
    {α : Type}
    (signal : Signal α)
    (value : α) :
    Signal α where
  value := value
  revision := signal.revision + 1

/-- Whether a watcher that last saw `seen` has something new to look at. -/
def changedSince
    {α : Type}
    (signal : Signal α)
    (seen : Nat) :
    Bool :=
  signal.revision != seen

/-- Publishing shows the new value. -/
@[simp] theorem value_publish
    {α : Type}
    (signal : Signal α)
    (value : α) :
    (signal.publish value).value = value :=
  rfl

/-- A watcher that has just looked sees no change. -/
@[simp] theorem changedSince_revision
    {α : Type}
    (signal : Signal α) :
    signal.changedSince signal.revision = false := by
  simp [changedSince]

end Signal

end MTConnect
