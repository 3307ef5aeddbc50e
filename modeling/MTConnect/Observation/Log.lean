import MTConnect.Capacity
import MTConnect.Observation.Filter
import MTConnect.Observation.Sequence
import MTConnect.Observation.Window
import MTConnect.Queue
import MTConnect.Signal

namespace MTConnect

/-!
# The observation log

The log numbers observations as they arrive and retains the newest of them,
up to its capacity. Two checkpoints stand beside the retained ones: `latest`
holds the newest observation of every data item over the whole history, and
`evicted` the newest of those that are no longer retained. The first answers
what holds now; the second, overlaid with the retained observations up to a
point, answers what held at that point.
-/

/-- A bounded, numbered log of observations. -/
structure ObservationLog where
  capacity : Nat
  /-- The source of the numbers. -/
  counter : SequenceCounter
  /-- The number of the oldest retained observation, or the next if there is none. -/
  first : Nat
  /-- The retained observations, oldest first. -/
  retained : Queue Observation
  /-- The newest observation of each data item. -/
  latest : SortedMap ItemKey Observation
  /-- The newest evicted observation of each data item. -/
  evicted : SortedMap ItemKey Observation
  /-- The next number, for those who wait for observations. -/
  appended : Signal Nat
  capacity_pos : 0 < capacity

/-- Part of the log, and where reading goes on after it. -/
structure Page where
  observations : List Observation
  endSequence : Nat
  window : Window
  deriving Repr, DecidableEq

/-- The newest observation of each data item at some point. -/
structure Snapshot where
  observations : List Observation
  window : Window
  deriving Repr, DecidableEq

namespace ObservationLog

/-- An empty log whose first observation receives a given number. -/
def startingAt (capacity next : Nat) : ObservationLog where
  capacity := raisedCapacity capacity
  counter := { next := next }
  first := next
  retained := .empty
  latest := .empty
  evicted := .empty
  appended := { value := next }
  capacity_pos := raisedCapacity_pos capacity

/-- An empty log that counts from one. -/
def empty (capacity : Nat) : ObservationLog :=
  startingAt capacity 1

/-- The number that the next observation receives. -/
def next (log : ObservationLog) : Nat :=
  log.counter.next

/-- How many observations are retained. -/
def size (log : ObservationLog) : Nat :=
  log.retained.size

/-- The window of the retained observations. -/
def window (log : ObservationLog) : Window :=
  Window.between log.first log.next

/-- Let the oldest observation go if the log holds more than its capacity. -/
def trim (log : ObservationLog) : ObservationLog :=
  if log.capacity < log.retained.size then
    match log.retained.pop? with
    | none => log
    | some (oldest, rest) =>
        { log with
          retained := rest
          evicted := log.evicted.insert oldest.key oldest }
  else
    log

/-- Put an observation at the end of the log. -/
def record (log : ObservationLog) (observation : Observation) : ObservationLog :=
  { log with
    retained := log.retained.push observation
    latest := log.latest.insert observation.key observation }

/-- Set the first number from the oldest retained observation. -/
def settle (log : ObservationLog) : ObservationLog :=
  { log with
    first :=
      match log.retained.oldest? with
      | some oldest => oldest.sequence
      | none => log.next }

/-- Publish the next number, which wakes those who wait for observations. -/
def announce (log : ObservationLog) : ObservationLog :=
  { log with appended := log.appended.publish log.next }

/-- Number a reading and enter it into the log; nobody is told yet. -/
def enter (log : ObservationLog) (reading : Reading) : Except Fault (Nat × ObservationLog) :=
  match log.counter.take with
  | .error fault => .error fault
  | .ok (sequence, counter) =>
      let numbered := { log with counter := counter }
      .ok
        (sequence, (numbered.record (reading.numbered sequence)).trim.settle)

/--
Number a reading and log it. The log is locked while the reading is entered and
free again when that is announced; others may find it in between.
-/
def append (log : ObservationLog) (reading : Reading) : Except Fault (Nat × ObservationLog) :=
  match log.enter reading with
  | .error fault => .error fault
  | .ok (sequence, entered) => .ok (sequence, entered.announce)

/-- Forget all history and count from one again; nobody is told yet. -/
def renew (log : ObservationLog) : ObservationLog :=
  { startingAt log.capacity log.counter.restart.next with
    appended := log.appended }

/-- Forget all history and announce it. -/
def reset (log : ObservationLog) : ObservationLog :=
  log.renew.announce

/-- The fault of reading from a number outside the window. -/
def outOfRange (log : ObservationLog) (requested : Nat) : Fault :=
  .outOfRange requested log.window.first log.window.next

/-- The observations with numbers from `start` to `stop`, by their place in the log. -/
def slice (log : ObservationLog) (start stop : Nat) : List Observation :=
  (log.retained.toList.drop (start - log.first)).take (stop + 1 - start)

/-- The last members of a list. -/
def lastOf
    {α : Type}
    (count : Nat)
    (list : List α) :
    List α :=
  list.drop (list.length - count)

/--
The first `count` observations of a filter, or the last ones when `count` is
negative, with numbers from `start` on and at most `stop`.

The page ends after the last observation it holds if the count was used up,
else after the last one that was looked at.
-/
def range
    (log : ObservationLog)
    (start : Nat)
    (stop? : Option Nat)
    (count : Int)
    (filter : ObservationFilter) :
    Except Fault Page :=
  let window := log.window
  if !window.accepts start then
    .error (log.outOfRange start)
  else
    let last := (stop?.map (min · window.last)).getD window.last
    if last < start ∨ count = 0 ∨ window.isEmpty = true then
      .ok { observations := [], endSequence := start, window := window }
    else
      let found := (log.slice start last).filter fun observation =>
        filter.admits observation
      if 0 < count then
        let taken := found.take count.natAbs
        let endSequence :=
          match taken.getLast? with
          | some final =>
              if taken.length = count.natAbs then final.sequence + 1 else last + 1
          | none => last + 1
        .ok { observations := taken, endSequence := endSequence, window := window }
      else
        .ok
          { observations := lastOf count.natAbs found
            endSequence := last + 1
            window := window }

/-- The newest observation of each data item, if the filter admits it. -/
def now (log : ObservationLog) (filter : ObservationFilter) : Snapshot where
  observations := log.latest.values.filter fun observation =>
    filter.admits observation
  window := log.window

/-- Store observations by their keys, one after the other. -/
def overlay
    (state : SortedMap ItemKey Observation)
    (observations : List Observation) :
    SortedMap ItemKey Observation :=
  observations.foldl
    (fun soFar observation => soFar.insert observation.key observation)
    state

/-- The newest admitted observation of each data item up to a number in the window. -/
def asOf (log : ObservationLog) (point : Nat) (filter : ObservationFilter) : Except Fault Snapshot :=
  let window := log.window
  if !window.accepts point then
    .error (log.outOfRange point)
  else
    let before := log.evicted.filter fun _ observation =>
      filter.admits observation
    let since := (log.retained.toList.takeWhile fun observation =>
      decide (observation.sequence ≤ point)).filter fun observation =>
        filter.admits observation
    .ok
      { observations := (overlay before since).values
        window := { window with last := min point window.last } }

end ObservationLog

end MTConnect
