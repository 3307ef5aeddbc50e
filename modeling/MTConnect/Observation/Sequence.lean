import MTConnect.Fault
import MTConnect.Word

namespace MTConnect

/-!
# Sequence numbers

Observations receive consecutive numbers, starting from one. Numbers are
words; the largest word is never handed out, so the number after the last one
is always a word. A counter that is used up stays as it is.
-/

/-- A source of sequence numbers. -/
structure SequenceCounter where
  /-- The number that is handed out next. -/
  next : Nat := 1
  deriving Repr, DecidableEq, Inhabited

namespace SequenceCounter

/-- Hand out a number. -/
def take (counter : SequenceCounter) : Except Fault (Nat × SequenceCounter) :=
  if counter.next < Word.top then
    .ok (counter.next, { next := counter.next + 1 })
  else
    .error .sequenceExhausted

/-- Start from one again; only a new history may. -/
def restart (_ : SequenceCounter) : SequenceCounter :=
  {}

end SequenceCounter

end MTConnect
