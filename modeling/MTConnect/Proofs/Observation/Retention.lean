import MTConnect.Proofs.Observation.Index

namespace MTConnect

/-!
# What the log keeps of its history

The log is compared with the history of what was offered to it. It retains the
last entries of the history, as many as fit; one checkpoint indexes the whole
history and the other one the entries that are no longer retained. Appending
and resetting keep it so, hence every run of them does.
-/

/-- What can happen to a log. -/
inductive LogChange where
  | append (reading : Reading)
  | reset
  deriving Repr, DecidableEq, Inhabited

namespace History

/-- The entries that a log of some capacity retains. -/
def kept (history : History) (capacity : Nat) : List Observation :=
  history.entries.drop (history.entries.length - capacity)

/-- The entries that a log of some capacity has let go. -/
def gone (history : History) (capacity : Nat) : List Observation :=
  history.entries.take (history.entries.length - capacity)

/-- Go on after a change; a reset begins a history that counts from one. -/
def apply (history : History) : LogChange → History
  | .append reading => history.offer reading
  | .reset => beginningAt 1

/-- Go on after changes, one after the other. -/
def applyAll (history : History) (changes : List LogChange) : History :=
  changes.foldl apply history

/-- What is kept follows what is gone. -/
theorem gone_append_kept (history : History) (capacity : Nat) :
    history.gone capacity ++ history.kept capacity = history.entries :=
  List.take_append_drop _ _

/-- What is gone has the numbers below those of what is kept. -/
theorem gone_eq_before (history : History) (capacity : Nat) :
    history.gone capacity =
      history.before
        (history.origin + (history.entries.length - capacity)) :=
  history.take_eq_before _

/-- While there is room, nothing goes. -/
theorem gone_extend_of_lt
    {history : History}
    {capacity : Nat}
    (room : history.entries.length < capacity)
    (reading : Reading) :
    (history.extend reading).gone capacity = history.gone capacity := by
  have small : history.entries.length + 1 - capacity = 0 := by omega
  have smaller : history.entries.length - capacity = 0 := by omega
  simp [gone, small, smaller]

/-- While there is room, a reading joins what is kept. -/
theorem kept_extend_of_lt
    {history : History}
    {capacity : Nat}
    (room : history.entries.length < capacity)
    (reading : Reading) :
    (history.extend reading).kept capacity =
      history.kept capacity ++ [reading.numbered history.next] := by
  have small : history.entries.length + 1 - capacity = 0 := by omega
  have smaller : history.entries.length - capacity = 0 := by omega
  simp [kept, small, smaller]

/-- Without room, the oldest of what was kept goes and a reading joins the others. -/
theorem extend_of_le
    {history : History}
    {capacity : Nat}
    {oldest : Observation}
    {rest : List Observation}
    (full : capacity ≤ history.entries.length)
    (shape : history.kept capacity = oldest :: rest)
    (reading : Reading) :
    (history.extend reading).gone capacity =
        history.gone capacity ++ [oldest] ∧
      (history.extend reading).kept capacity =
        rest ++ [reading.numbered history.next] := by
  have split :
      (history.extend reading).entries =
        (history.gone capacity ++ [oldest]) ++
          (rest ++ [reading.numbered history.next]) := by
    rw [entries_extend, ← history.gone_append_kept capacity, shape]
    simp
  have place :
      (history.extend reading).entries.length - capacity =
        (history.gone capacity ++ [oldest]).length := by
    simp only [entries_extend, gone, List.length_append, List.length_take,
      List.length_singleton]
    omega
  constructor
  · rw [gone, place, split, List.take_left]
  · rw [kept, place, split, List.drop_left]

end History

namespace ObservationLog

/-- Log a reading unless the numbers are used up. -/
def offer (log : ObservationLog) (reading : Reading) : ObservationLog :=
  match log.append reading with
  | .error _ => log
  | .ok (_, after) => after

/-- Log readings, one after the other. -/
def offerAll (log : ObservationLog) (readings : List Reading) : ObservationLog :=
  readings.foldl offer log

/-- Go on after a change. -/
def apply (log : ObservationLog) : LogChange → ObservationLog
  | .append reading => log.offer reading
  | .reset => log.reset

/-- Go on after changes, one after the other. -/
def applyAll (log : ObservationLog) (changes : List LogChange) : ObservationLog :=
  changes.foldl apply log

/-- The log and its checkpoints are what a history says they are. -/
structure Represents (log : ObservationLog) (history : History) : Prop where
  next_eq : log.next = history.next
  next_le : log.next ≤ Word.top
  first_eq :
    log.first =
      history.origin + (history.entries.length - log.capacity)
  retained_eq : log.retained.toList = history.kept log.capacity
  latest : Indexes log.latest history.entries
  evicted : Indexes log.evicted (history.gone log.capacity)
  appended_eq : log.appended.value = log.next

/-- A log that has not been written to represents a history without entries. -/
theorem represents_startingAt
    (capacity : Nat)
    {next : Nat}
    (isWord : next ≤ Word.top) :
    (startingAt capacity next).Represents (.beginningAt next) where
  next_eq := rfl
  next_le := isWord
  first_eq := by simp [startingAt, History.beginningAt]
  retained_eq := by simp [startingAt, History.kept, History.beginningAt]
  latest := Indexes.empty
  evicted := by
    simpa [startingAt, History.gone, History.beginningAt] using
      Indexes.empty
  appended_eq := rfl

/-- All that trimming can do: nothing, or move the oldest observation to its checkpoint. -/
theorem trim_cases (log : ObservationLog) :
    (log.size ≤ log.capacity ∧ log.trim = log) ∨
      ∃ oldest rest,
        log.capacity < log.size ∧
          log.retained.toList = oldest :: rest.toList ∧
          log.trim =
            { log with
              retained := rest
              evicted := log.evicted.insert oldest.key oldest } := by
  by_cases full : log.capacity < log.retained.size
  · right
    have viewNe : log.retained.toList ≠ [] := by
      intro viewNil
      rw [Queue.size_eq_length, viewNil] at full
      exact Nat.not_lt_zero _ full
    obtain ⟨oldest, rest, popped⟩ := Queue.exists_pop? viewNe
    refine ⟨oldest, rest, full, Queue.toList_pop? popped, ?_⟩
    simp [trim, full, popped]
  · left
    exact ⟨Nat.not_lt.mp full, by simp [trim, full]⟩

/-- Trimming touches the retained observations and their checkpoint only. -/
theorem trim_frame (log : ObservationLog) :
    log.trim.capacity = log.capacity ∧
      log.trim.counter = log.counter ∧
      log.trim.latest = log.latest ∧
      log.trim.appended = log.appended := by
  rcases log.trim_cases with ⟨_, unchanged⟩ | ⟨oldest, rest, _, _, moved⟩
  · simp [unchanged]
  · simp [moved]

/-- Trimming after a reading was added brings back what has to be kept. -/
theorem trim_extend
    {log : ObservationLog}
    {history : History}
    {reading : Reading}
    (retained :
      log.retained.toList =
        history.kept log.capacity ++ [reading.numbered history.next])
    (evicted : Indexes log.evicted (history.gone log.capacity)) :
    log.trim.retained.toList =
        (history.extend reading).kept log.capacity ∧
      Indexes log.trim.evicted
        ((history.extend reading).gone log.capacity) := by
  have positive := log.capacity_pos
  have size :
      log.size =
        history.entries.length -
          (history.entries.length - log.capacity) + 1 := by
    simp [ObservationLog.size, Queue.size_eq_length, retained, History.kept]
  rcases log.trim_cases with ⟨small, unchanged⟩ | ⟨oldest, rest, large, shape, moved⟩
  · have room : history.entries.length < log.capacity := by omega
    rw [unchanged, retained, History.kept_extend_of_lt room,
      History.gone_extend_of_lt room]
    exact ⟨rfl, evicted⟩
  · have full : log.capacity ≤ history.entries.length := by omega
    cases keptShape : history.kept log.capacity with
    | nil =>
        have keptLength := congrArg List.length keptShape
        simp only [History.kept, List.length_drop, List.length_nil] at keptLength
        omega
    | cons first others =>
        obtain ⟨goneEq, keptEq⟩ := History.extend_of_le full keptShape reading
        rw [retained, keptShape, List.cons_append, List.cons.injEq] at shape
        obtain ⟨rfl, restEq⟩ := shape
        have later :
            ∀ other ∈ history.gone log.capacity,
              other.sequence < first.sequence := by
          intro other member
          have ascending := history.ascending
          rw [← history.gone_append_kept log.capacity, keptShape] at ascending
          exact (List.pairwise_append.mp ascending).2.2
            other member first (by simp)
        rw [moved, goneEq, keptEq]
        exact ⟨restEq.symm, evicted.insert later⟩

/--
With a number left a reading is recorded under it, and the oldest goes if there is no
room.
-/
theorem append_of_lt
    {log : ObservationLog}
    (below : log.next < Word.top)
    (reading : Reading) :
    log.append reading =
      .ok (log.next,
        (({ log with counter := { next := log.next + 1 } } :
            ObservationLog).record
          (reading.numbered log.next)).trim.settle.announce) := by
  have taken : log.counter.next < Word.top := below
  simp [append, enter, SequenceCounter.take, taken, next]

theorem append_of_le
    {log : ObservationLog}
    (exhausted : Word.top ≤ log.next)
    (reading : Reading) :
    log.append reading = .error .sequenceExhausted := by
  have notBelow : ¬ log.counter.next < Word.top := Nat.not_lt.mpr exhausted
  simp [append, enter, SequenceCounter.take, notBelow]

namespace Represents

/-- What is retained begins with the first number. -/
theorem first_of_settle
    {log : ObservationLog}
    {history : History}
    (retained : log.retained.toList = history.kept log.capacity)
    (occupied : history.entries ≠ []) :
    log.settle.first =
      history.origin + (history.entries.length - log.capacity) := by
  have positive := log.capacity_pos
  have lengthPos := List.length_pos_iff.mpr occupied
  have inside :
      history.entries.length - log.capacity < history.entries.length := by
    omega
  have oldestFound :
      log.retained.oldest? =
        some history.entries[history.entries.length - log.capacity] := by
    rw [Queue.oldest?_eq_head?, retained, History.kept, List.head?_drop]
    exact List.getElem?_eq_getElem inside
  simp only [settle, oldestFound]
  exact History.sequence_of_getElem? (List.getElem?_eq_getElem inside)

/-- A log with numbers left logs a reading under the next one. -/
theorem append
    {log : ObservationLog}
    {history : History}
    (represents : log.Represents history)
    (below : log.next < Word.top)
    (reading : Reading) :
    ∃ after,
      log.append reading = .ok (log.next, after) ∧
        after.Represents (history.extend reading) ∧
        after.capacity = log.capacity := by
  refine ⟨_, append_of_lt below reading, ?_⟩
  generalize recordedEq :
    ({ log with counter := { next := log.next + 1 } } :
      ObservationLog).record (reading.numbered log.next) = recorded
  have capacityEq : recorded.capacity = log.capacity := by
    rw [← recordedEq]
    rfl
  have nextEq : recorded.next = log.next + 1 := by
    rw [← recordedEq]
    rfl
  have latest :
      Indexes recorded.latest (history.extend reading).entries := by
    rw [← recordedEq, represents.next_eq]
    exact represents.latest.insert fun other member =>
      History.sequence_lt_of_mem member
  have retained :
      recorded.retained.toList =
        history.kept recorded.capacity ++ [reading.numbered history.next] := by
    rw [capacityEq, ← recordedEq, ← represents.retained_eq,
      represents.next_eq]
    exact Queue.toList_push _ _
  have evicted :
      Indexes recorded.evicted (history.gone recorded.capacity) := by
    rw [capacityEq, ← recordedEq]
    exact represents.evicted
  obtain ⟨trimmedRetained, trimmedEvicted⟩ := trim_extend retained evicted
  obtain ⟨sameCapacity, sameCounter, sameLatest, _⟩ := recorded.trim_frame
  have trimmedNext : recorded.trim.next = log.next + 1 := by
    rw [← nextEq]
    exact congrArg SequenceCounter.next sameCounter
  rw [← sameCapacity] at trimmedRetained trimmedEvicted
  refine ⟨?_, sameCapacity.trans capacityEq⟩
  exact
    { next_eq := by
        rw [History.next_extend, ← represents.next_eq]
        exact trimmedNext
      next_le := by
        have settledNext :
            recorded.trim.settle.announce.next = log.next + 1 := trimmedNext
        omega
      first_eq := first_of_settle trimmedRetained (by simp)
      retained_eq := trimmedRetained
      latest := by
        rw [← sameLatest] at latest
        exact latest
      evicted := trimmedEvicted
      appended_eq := rfl }

/-- Offering a reading to a log is offering it to the history. -/
theorem offer
    {log : ObservationLog}
    {history : History}
    (represents : log.Represents history)
    (reading : Reading) :
    (log.offer reading).Represents (history.offer reading) := by
  by_cases below : log.next < Word.top
  · obtain ⟨after, appended, extended, _⟩ := represents.append below reading
    rw [represents.next_eq] at below
    simpa [ObservationLog.offer, appended, History.offer, below] using extended
  · have exhausted := append_of_le (Nat.not_lt.mp below) reading
    rw [represents.next_eq] at below
    simpa [ObservationLog.offer, exhausted, History.offer, below] using represents

/-- A reset log represents a history that begins with one. -/
theorem reset (log : ObservationLog) :
    log.reset.Represents (.beginningAt 1) :=
  { represents_startingAt log.capacity (by decide : 1 ≤ Word.top) with
    appended_eq := rfl }

/-- Each change keeps the log what the history says. -/
theorem apply
    {log : ObservationLog}
    {history : History}
    (represents : log.Represents history)
    (change : LogChange) :
    (log.apply change).Represents (history.apply change) := by
  cases change with
  | append reading => exact represents.offer reading
  | reset => exact reset log

/-- Every run of changes keeps the log what the history says. -/
theorem applyAll
    {log : ObservationLog}
    {history : History}
    (represents : log.Represents history)
    (changes : List LogChange) :
    (log.applyAll changes).Represents (history.applyAll changes) := by
  induction changes generalizing log history with
  | nil => exact represents
  | cons change rest inductionHypothesis =>
      exact inductionHypothesis (represents.apply change)

/-- Readings keep the log and the history together. -/
theorem offerAll
    {log : ObservationLog}
    {history : History}
    (represents : log.Represents history)
    (readings : List Reading) :
    (log.offerAll readings).Represents (history.offerAll readings) := by
  induction readings generalizing log history with
  | nil => exact represents
  | cons reading rest inductionHypothesis =>
      exact inductionHypothesis (represents.offer reading)

/-- As much of the history is retained as there is room for. -/
theorem size_eq
    {log : ObservationLog}
    {history : History}
    (represents : log.Represents history) :
    log.size = min history.entries.length log.capacity := by
  rw [size, Queue.size_eq_length, represents.retained_eq, History.kept,
    List.length_drop]
  omega

/-- The window is as wide as what is retained. -/
theorem first_add_size
    {log : ObservationLog}
    {history : History}
    (represents : log.Represents history) :
    log.first + log.size = log.next := by
  have positive := log.capacity_pos
  rw [represents.size_eq, represents.first_eq, represents.next_eq,
    History.next]
  omega

/-- The place of a retained observation tells its number. -/
theorem sequence_of_getElem?
    {log : ObservationLog}
    {history : History}
    (represents : log.Represents history)
    {place : Nat}
    {observation : Observation}
    (found : log.retained.toList[place]? = some observation) :
    observation.sequence = log.first + place := by
  rw [represents.retained_eq, History.kept, List.getElem?_drop] at found
  rw [represents.first_eq, History.sequence_of_getElem? found, Nat.add_assoc]

end Represents

theorem capacity_offer (log : ObservationLog) (reading : Reading) :
    (log.offer reading).capacity = log.capacity := by
  by_cases below : log.next < Word.top
  · simp only [offer, append_of_lt below]
    exact (trim_frame _).1
  · simp [offer, append_of_le (Nat.not_lt.mp below)]

/-- Changes leave the capacity alone. -/
theorem capacity_applyAll (log : ObservationLog) (changes : List LogChange) :
    (log.applyAll changes).capacity = log.capacity := by
  induction changes generalizing log with
  | nil => rfl
  | cons change rest inductionHypothesis =>
      have oneStep : (log.apply change).capacity = log.capacity := by
        cases change with
        | append reading => exact log.capacity_offer reading
        | reset => exact raisedCapacity_of_pos log.capacity_pos
      exact (inductionHypothesis (log.apply change)).trans oneStep

/--
What a log of a given capacity promises about the history of what was logged
since it was created or last reset.
-/
structure Faithful
    (log : ObservationLog)
    (capacity : Nat)
    (history : History) : Prop where
  capacity_eq : log.capacity = raisedCapacity capacity
  next_eq : log.next = history.next
  contiguous :
    ∀ place observation,
      log.retained.toList[place]? = some observation →
      observation.sequence = log.first + place
  first_add_size : log.first + log.size = log.next
  size_eq :
    log.size = min history.entries.length (raisedCapacity capacity)
  retained_suffix : log.retained.toList <:+ history.entries
  latest_iff :
    ∀ key observation,
      log.latest.find? key = some observation ↔
        observation.key = key ∧ IsNewest observation history.entries
  evicted_iff :
    ∀ key observation,
      log.evicted.find? key = some observation ↔
        observation.key = key ∧
          IsNewest observation (history.before log.first)
  watched_eq : log.appended.value = log.next
  /-- As long as there are numbers, the next one is handed out. -/
  append_ok :
    ∀ reading,
      log.next ≠ Word.top →
      ∃ after,
        log.append reading = .ok (log.next, after) ∧
          after.next = log.next + 1
  append_error_iff :
    ∀ reading fault,
      log.append reading = .error fault ↔
        log.next = Word.top ∧ fault = .sequenceExhausted
  /-- A reading that fails leaves everything as it was. -/
  offer_exhausted :
    ∀ reading, log.next = Word.top → log.offer reading = log
  /-- Apart from the revision that watchers compare, a reset log is a new one. -/
  reset_eq :
    { log.reset with appended := (startingAt capacity 1).appended } =
      startingAt capacity 1
  watched_reset : log.reset.appended.value = 1

namespace Represents

/-- A log that represents a history is faithful to it. -/
theorem faithful
    {log : ObservationLog}
    {history : History}
    {capacity : Nat}
    (represents : log.Represents history)
    (capacityEq : log.capacity = raisedCapacity capacity) :
    log.Faithful capacity history where
  capacity_eq := capacityEq
  next_eq := represents.next_eq
  contiguous := fun _ _ found => represents.sequence_of_getElem? found
  first_add_size := represents.first_add_size
  size_eq := capacityEq ▸ represents.size_eq
  retained_suffix := by
    rw [represents.retained_eq]
    exact List.drop_suffix _ _
  latest_iff := represents.latest
  evicted_iff := by
    have evicted := represents.evicted
    rw [History.gone_eq_before, ← represents.first_eq] at evicted
    exact evicted
  watched_eq := represents.appended_eq
  append_ok := by
    intro reading notTop
    have below : log.next < Word.top :=
      Nat.lt_of_le_of_ne represents.next_le notTop
    obtain ⟨after, appended, extended, _⟩ := represents.append below reading
    refine ⟨after, appended, ?_⟩
    rw [extended.next_eq, History.next_extend, represents.next_eq]
  append_error_iff := by
    intro reading fault
    by_cases below : log.next < Word.top
    · have notTop : log.next ≠ Word.top := Nat.ne_of_lt below
      simp [append_of_lt below, notTop]
    · have top : log.next = Word.top :=
        Nat.le_antisymm represents.next_le (Nat.not_lt.mp below)
      rw [append_of_le (Nat.not_lt.mp below)]
      constructor
      · intro failed
        exact ⟨top, (Except.error.inj failed).symm⟩
      · rintro ⟨_, rfl⟩
        rfl
  offer_exhausted := by
    intro reading top
    simp [ObservationLog.offer, append_of_le (Nat.le_of_eq top.symm)]
  reset_eq := by
    have raised : raisedCapacity log.capacity = raisedCapacity capacity := by
      rw [raisedCapacity_of_pos log.capacity_pos, capacityEq]
    simp [ObservationLog.reset, renew, announce, startingAt, raised,
      SequenceCounter.restart]
  watched_reset := rfl

end Represents

/-- Whatever is appended and however often the log is reset, it keeps its promises. -/
theorem faithful_applyAll
    (capacity start : Nat)
    (isWord : start ≤ Word.top)
    (changes : List LogChange) :
    ((startingAt capacity start).applyAll changes).Faithful capacity
      ((History.beginningAt start).applyAll changes) := by
  have represents :=
    (represents_startingAt capacity isWord).applyAll changes
  exact represents.faithful
    (capacity_applyAll (startingAt capacity start) changes)

/-- One number is left: a reading is logged, the next fails, and a reset helps. -/
theorem faithful_last_number :
    Word.top - 1 ≤ Word.top ∧
      ((startingAt 0 (Word.top - 1)).applyAll
          [.append default, .append default, .reset, .append default]).Faithful 0
        ((History.beginningAt (Word.top - 1)).applyAll
          [.append default, .append default, .reset, .append default]) :=
  ⟨by decide,
    faithful_applyAll 0 (Word.top - 1) (by decide)
      [.append default, .append default, .reset, .append default]⟩

end ObservationLog

end MTConnect
