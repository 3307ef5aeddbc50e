import MTConnect.Proofs.Observation.Ranges

namespace MTConnect

/-!
# The log in words

Numbers of the library have no bound, and their differences stop at zero. On
words a sum can overflow and a difference underflow, and a stretch of places can
lie outside the log. This module carries out appending and reading with a guard
before every such operation, going through the observations one by one. No guard
ever fails: what is computed in words is what the log computes, in every run and
for every request.
-/

namespace Word

/-- Why a computation in words breaks off. -/
inductive Breakdown where
  | overflow
  | underflow
  | outOfBounds
  deriving Repr, DecidableEq, Inhabited

/-- A computation in words. -/
abbrev Guarded (α : Type) := Except Breakdown α

/-- Add two words. -/
def sum (left right : Nat) : Guarded Nat :=
  if left + right ≤ top then .ok (left + right) else .error .overflow

/-- Subtract a word from another. -/
def difference (left right : Nat) : Guarded Nat :=
  if right ≤ left then .ok (left - right) else .error .underflow

/-- The members of a list from one place to another, both included. -/
def stretch
    {α : Type}
    (list : List α)
    (start stop : Nat) :
    Guarded (List α) :=
  if start ≤ stop ∧ stop < list.length then
    .ok ((list.drop start).take (stop + 1 - start))
  else
    .error .outOfBounds

/-- The signed numbers of 64 bits. -/
def IsSigned (value : Int) : Prop :=
  -(signedTop : Int) - 1 ≤ value ∧ value ≤ (signedTop : Int)

/-- The magnitude of a signed number as a word. -/
def magnitude (value : Int) : Guarded Nat :=
  if value.natAbs ≤ top then .ok value.natAbs else .error .overflow

theorem sum_eq_ok
    {left right : Nat}
    (fits : left + right ≤ top) :
    sum left right = .ok (left + right) :=
  if_pos fits

theorem difference_eq_ok
    {left right : Nat}
    (ordered : right ≤ left) :
    difference left right = .ok (left - right) :=
  if_pos ordered

/-- Ordered places inside a list are within its bounds. -/
theorem stretch_eq_ok
    {α : Type}
    {list : List α}
    {start stop : Nat}
    (ordered : start ≤ stop)
    (inside : stop < list.length) :
    stretch list start stop =
      .ok ((list.drop start).take (stop + 1 - start)) :=
  if_pos ⟨ordered, inside⟩

/-- Every signed number has a magnitude, the least one included. -/
theorem magnitude_eq_ok
    {value : Int}
    (signed : IsSigned value) :
    magnitude value = .ok value.natAbs := by
  obtain ⟨above, below⟩ := signed
  unfold signedTop at above below
  refine if_pos ?_
  unfold top
  omega

end Word

namespace ObservationLog

/--
Go through observations, collecting those that a filter admits, until there are
`limit` of them; the one that made up the limit is told.
-/
def gather
    (filter : ObservationFilter)
    (limit : Nat) :
    List Observation → List Observation → List Observation × Option Observation
  | [], found => (found, none)
  | observation :: rest, found =>
      if filter.admits observation then
        let more := found ++ [observation]
        if more.length = limit then
          (more, some observation)
        else
          gather filter limit rest more
      else
        gather filter limit rest found

/-- What is gathered are the first admitted ones; the last of them made up the limit. -/
theorem gather_eq
    (filter : ObservationFilter)
    {limit : Nat}
    (scanned : List Observation)
    {found : List Observation}
    (room : found.length < limit) :
    gather filter limit scanned found =
      let taken :=
        found ++
          (scanned.filter fun observation =>
            filter.admits observation).take (limit - found.length)
      (taken, if taken.length = limit then taken.getLast? else none) := by
  induction scanned generalizing found with
  | nil =>
      simp [gather, Nat.ne_of_lt room]
  | cons observation rest inductionHypothesis =>
      cases admitted : filter.admits observation with
      | false =>
          simpa [gather, admitted] using inductionHypothesis room
      | true =>
          have lengthEq :
              (found ++ [observation]).length = found.length + 1 :=
            List.length_append
          obtain ⟨left, leftEq⟩ : ∃ left, limit - found.length = left + 1 :=
            ⟨limit - found.length - 1, by omega⟩
          have takenEq :
              found ++
                  (((observation :: rest).filter fun observation =>
                    filter.admits observation).take
                      (limit - found.length)) =
                (found ++ [observation]) ++
                  ((rest.filter fun observation =>
                    filter.admits observation).take
                      (limit - (found ++ [observation]).length)) := by
            have lessEq :
                limit - (found ++ [observation]).length = left := by
              omega
            rw [lessEq, leftEq, List.filter_cons_of_pos admitted,
              List.take_succ_cons, List.append_assoc]
            rfl
          by_cases full : (found ++ [observation]).length = limit
          · have nothingLeft :
                limit - (found ++ [observation]).length = 0 := by
              omega
            rw [takenEq, nothingLeft, List.take_zero, List.append_nil]
            simp only [gather, admitted, full, if_true,
              List.getLast?_concat]
          · have roomLeft : (found ++ [observation]).length < limit := by
              omega
            rw [takenEq]
            simpa only [gather, admitted, full, if_true, if_false] using
              inductionHypothesis roomLeft

/-- Gathering one by one up to a limit takes the first ones that the filter admits. -/
theorem gather_nil_eq
    (filter : ObservationFilter)
    {limit : Nat}
    (positive : 0 < limit)
    (scanned : List Observation) :
    gather filter limit scanned [] =
      let taken :=
        (scanned.filter fun observation =>
          filter.admits observation).take limit
      (taken, if taken.length = limit then taken.getLast? else none) :=
  gather_eq filter scanned positive

/-- Going backwards gathers the last ones. -/
theorem gather_reverse
    (filter : ObservationFilter)
    {limit : Nat}
    (positive : 0 < limit)
    (scanned : List Observation) :
    (gather filter limit scanned.reverse []).1.reverse =
      lastOf limit
        (scanned.filter fun observation => filter.admits observation) := by
  rw [gather_nil_eq filter positive, List.filter_reverse,
    List.take_reverse, List.reverse_reverse]
  rfl

/-- Number a reading and log it, in words. -/
def appendInWords
    (log : ObservationLog)
    (reading : Reading) :
    Word.Guarded (Except Fault (Nat × ObservationLog)) :=
  match log.counter.take with
  | .error fault => pure (.error fault)
  | .ok (sequence, counter) => do
      let numbered := { log with counter := counter }
      let trimmed := (numbered.record (reading.numbered sequence)).trim
      let after ← Word.sum sequence 1
      let first :=
        match trimmed.retained.oldest? with
        | some oldest => oldest.sequence
        | none => after
      pure
        (.ok
          (sequence,
            { trimmed with
              first := first
              appended := trimmed.appended.publish after }))

/-- Where reading goes on, in words: after the one that made up the limit, if there is one. -/
def endInWords (final? : Option Observation) (afterLast : Nat) : Word.Guarded Nat :=
  match final? with
  | some final => Word.sum final.sequence 1
  | none => pure afterLast

/-- Read a range, in words and one observation after the other. -/
def rangeInWords
    (log : ObservationLog)
    (start : Nat)
    (stop? : Option Nat)
    (count : Int)
    (filter : ObservationFilter) :
    Word.Guarded (Except Fault Page) :=
  let window := log.window
  if !window.accepts start then
    pure (.error (log.outOfRange start))
  else
    let last := (stop?.map (min · window.last)).getD window.last
    if last < start ∨ count = 0 ∨ window.isEmpty = true then
      pure
        (.ok { observations := [], endSequence := start, window := window })
    else do
      let startPlace ← Word.difference start window.first
      let stopPlace ← Word.difference last window.first
      let limit ← Word.magnitude count
      let scanned ← Word.stretch log.retained.toList startPlace stopPlace
      let afterLast ← Word.sum last 1
      if 0 < count then do
        let gathered := gather filter limit scanned []
        let endSequence ← endInWords gathered.2 afterLast
        pure
          (.ok
            { observations := gathered.1
              endSequence := endSequence
              window := window })
      else
        pure
          (.ok
            { observations := (gather filter limit scanned.reverse []).1.reverse
              endSequence := afterLast
              window := window })

/-- Go on after a change, in words. -/
def applyInWords (log : ObservationLog) : LogChange → Word.Guarded ObservationLog
  | .append reading => do
      match ← log.appendInWords reading with
      | .error _ => pure log
      | .ok (_, after) => pure after
  | .reset => pure log.reset

/-- Go on after changes, one after the other, in words. -/
def applyAllInWords
    (log : ObservationLog)
    (changes : List LogChange) :
    Word.Guarded ObservationLog :=
  changes.foldlM applyInWords log

/-- Both what is set under the lock and what is announced come from the same next number. -/
theorem announce_settle_eq
    (log : ObservationLog)
    {next : Nat}
    (nextEq : log.next = next) :
    log.settle.announce =
      { log with
        first :=
          match log.retained.oldest? with
          | some oldest => oldest.sequence
          | none => next
        appended := log.appended.publish next } := by
  subst nextEq
  rfl

/-- The number after the one that is handed out is a word. -/
theorem appendInWords_eq (log : ObservationLog) (reading : Reading) :
    log.appendInWords reading = .ok (log.append reading) := by
  by_cases below : log.next < Word.top
  · have taken :
        log.counter.take = .ok (log.next, { next := log.next + 1 }) :=
      if_pos below
    rw [append_of_lt below]
    have fits : log.next + 1 ≤ Word.top := below
    simp only [appendInWords, taken, Word.sum_eq_ok fits, bind, Except.bind,
      pure, Except.pure]
    generalize recordedEq :
      ({ log with counter := { next := log.next + 1 } } :
        ObservationLog).record (reading.numbered log.next) = recorded
    have recordedNext : recorded.next = log.next + 1 := recordedEq ▸ rfl
    have nextEq : recorded.trim.next = log.next + 1 := by
      obtain ⟨_, sameCounter, _⟩ := recorded.trim_frame
      exact (congrArg SequenceCounter.next sameCounter).trans recordedNext
    exact
      congrArg
        (fun settled => Except.ok (Except.ok (log.next, settled)))
        (recorded.trim.announce_settle_eq nextEq).symm
  · have exhausted : log.counter.take = .error .sequenceExhausted :=
      if_neg below
    rw [append_of_le (Nat.not_lt.mp below)]
    simp only [appendInWords, exhausted]
    rfl

/-- In words a change does to a log what it does on numbers. -/
theorem applyInWords_eq (log : ObservationLog) (change : LogChange) :
    log.applyInWords change = .ok (log.apply change) := by
  cases change with
  | append reading =>
      simp only [applyInWords, appendInWords_eq, apply, offer, bind,
        Except.bind, pure, Except.pure]
      cases log.append reading with
      | error fault => rfl
      | ok appended => rfl
  | reset => rfl

/-- No run breaks off. -/
theorem applyAllInWords_eq (log : ObservationLog) (changes : List LogChange) :
    log.applyAllInWords changes = .ok (log.applyAll changes) := by
  induction changes generalizing log with
  | nil => rfl
  | cons change rest inductionHypothesis =>
      unfold applyAllInWords at inductionHypothesis ⊢
      rw [List.foldlM_cons, applyInWords_eq]
      exact inductionHypothesis (log.apply change)

variable
  {log : ObservationLog}
  {history : History}
  {start : Nat}
  {stop? : Option Nat}
  {count : Int}

/-- The numbers and places of a range that looks at something stay within their bounds. -/
structure WithinBounds (log : ObservationLog) (start last : Nat) : Prop where
  first_le_start : log.window.first ≤ start
  first_le_last : log.window.first ≤ last
  places_ordered : start - log.window.first ≤ last - log.window.first
  place_lt : last - log.window.first < log.size
  after_le : last + 1 ≤ Word.top

/-- The stretch of places that is looked at is the slice of the numbers asked for. -/
theorem WithinBounds.stretch_eq_slice
    {last : Nat}
    (bounds : log.WithinBounds start last)
    (ordered : start ≤ last) :
    Word.stretch log.retained.toList
        (start - log.window.first) (last - log.window.first) =
      .ok (log.slice start last) := by
  have inside :
      last - log.window.first < log.retained.toList.length := by
    have place := bounds.place_lt
    rwa [size, Queue.size_eq_length] at place
  have lengthEq :
      last - log.window.first + 1 - (start - log.window.first) =
        last + 1 - start := by
    have retained := bounds.first_le_start
    omega
  rw [Word.stretch_eq_ok bounds.places_ordered inside, lengthEq]
  rfl

namespace Represents

/-- What a range of a sound log looks at stays within its bounds. -/
theorem withinBounds
    (represents : log.Represents history)
    (accepted : log.window.accepts start = true)
    (looks : log.Looks start stop? count) :
    log.WithinBounds start (log.lastRead stop?) := by
  obtain ⟨retained, _⟩ := (log.accepts_iff start).mp accepted
  have ordered : start ≤ log.lastRead stop? := looks.1
  have below : log.lastRead stop? < log.next := looks.lastRead_lt
  have isWord : log.next ≤ Word.top := represents.next_le
  have sizeEq : log.first + log.size = log.next := represents.first_add_size
  exact
    { first_le_start := retained
      first_le_last := Nat.le_trans retained ordered
      places_ordered := Nat.sub_le_sub_right ordered log.first
      place_lt := by
        change log.lastRead stop? - log.first < log.size
        omega
      after_le := Nat.le_trans below isWord }

/-- The number after a retained observation is a word. -/
theorem succ_le_top
    (represents : log.Represents history)
    {observation : Observation}
    (member : observation ∈ log.retained.toList) :
    observation.sequence + 1 ≤ Word.top :=
  Nat.le_trans (represents.bounds_of_retained member).2 represents.next_le

/-- Where a forward page ends is a word. -/
theorem endInWords_eq
    (represents : log.Represents history)
    {taken : List Observation}
    (retained : ∀ observation ∈ taken, observation ∈ log.retained.toList)
    {limit : Nat}
    (positive : 0 < limit)
    (last : Nat) :
    endInWords (if taken.length = limit then taken.getLast? else none)
        (last + 1) =
      .ok (endAfter taken limit last) := by
  rcases endAfter_cases positive last with
    ⟨full, final, isLast, endEq⟩ | ⟨notFull, endEq⟩
  · have member := retained final (List.mem_of_getLast? isLast)
    rw [if_pos full, isLast, endEq]
    exact Word.sum_eq_ok (represents.succ_le_top member)
  · rw [if_neg notFull, endEq]
    rfl

/-- In words a range is answered as on numbers, whatever its signed count is. -/
theorem rangeInWords_eq
    (represents : log.Represents history)
    (start : Nat)
    (stop? : Option Nat)
    {count : Int}
    (signed : Word.IsSigned count)
    (filter : ObservationFilter) :
    log.rangeInWords start stop? count filter =
      .ok (log.range start stop? count filter) := by
  by_cases accepted : log.window.accepts start = true
  · by_cases looks : log.Looks start stop? count
    · have bounds := represents.withinBounds accepted looks
      have limitPos : 0 < count.natAbs := Int.natAbs_pos.mpr looks.2.1
      rw [range_of_looks accepted looks]
      simp only [rangeInWords, accepted, lastRead_eq, looks.something,
        Bool.not_true, Bool.false_eq_true, if_false, bind, Except.bind, pure,
        Except.pure, Word.difference_eq_ok bounds.first_le_start,
        Word.difference_eq_ok bounds.first_le_last,
        Word.magnitude_eq_ok signed, bounds.stretch_eq_slice looks.1,
        Word.sum_eq_ok bounds.after_le]
      rcases Int.lt_or_gt_of_ne looks.2.1 with negative | positive
      · have notPositive : ¬ 0 < count :=
          Int.not_lt.mpr (Int.le_of_lt negative)
        simp only [notPositive, if_false, counted_of_neg negative,
          gather_reverse filter limitPos]
      · simp only [positive, if_true, counted_of_pos positive,
          gather_nil_eq filter limitPos]
        rw [represents.endInWords_eq ?_ limitPos]
        intro observation member
        exact
          mem_retained_of_slice
            (List.mem_filter.mp (List.mem_of_mem_take member)).1
    · rw [range_of_unread accepted looks]
      rw [not_looks_iff] at looks
      simp only [rangeInWords, accepted, lastRead_eq, looks, Bool.not_true,
        Bool.false_eq_true, if_false, if_true]
      rfl
  · have refused : log.window.accepts start = false :=
      Bool.eq_false_iff.mpr accepted
    rw [range_of_refused refused]
    simp only [rangeInWords, refused, Bool.not_false, if_true]
    rfl

end Represents

/-- In words a log does what it does on numbers, and no operation leaves its bounds. -/
structure Unbroken (log : ObservationLog) : Prop where
  append_eq :
    ∀ reading,
      log.appendInWords reading = .ok (log.append reading)
  range_eq :
    ∀ start stop? count filter,
      Word.IsSigned count →
      log.rangeInWords start stop? count filter =
        .ok (log.range start stop? count filter)
  /-- The number after one that is handed out is a word. -/
  appended_le :
    ∀ reading sequence after,
      log.append reading = .ok (sequence, after) →
      sequence + 1 ≤ Word.top
  retained_le :
    ∀ observation ∈ log.retained.toList,
      observation.sequence + 1 ≤ Word.top
  withinBounds :
    ∀ start stop? count,
      log.window.accepts start = true →
      log.Looks start stop? count →
      log.WithinBounds start (log.lastRead stop?)
  next_le : log.window.next ≤ Word.top
  /-- Looking back to a number computes nothing that could leave the window. -/
  asOf_le :
    ∀ point filter snapshot,
      log.asOf point filter = .ok snapshot →
      snapshot.window.last ≤ log.window.last

/-- A snapshot as of a number ends no later than the window. -/
theorem last_le_of_asOf
    {point : Nat}
    {filter : ObservationFilter}
    {snapshot : Snapshot}
    (found : log.asOf point filter = .ok snapshot) :
    snapshot.window.last ≤ log.window.last := by
  unfold asOf at found
  dsimp only at found
  split at found
  next => cases found
  next =>
    rw [← Except.ok.inj found]
    exact Nat.min_le_right _ _

/-- No operation of a sound log leaves its bounds. -/
theorem Represents.unbroken (represents : log.Represents history) :
    log.Unbroken where
  append_eq := log.appendInWords_eq
  range_eq := by
    intro start stop? count filter signed
    exact represents.rangeInWords_eq start stop? signed filter
  appended_le := by
    intro reading sequence after appended
    by_cases below : log.next < Word.top
    · rw [append_of_lt below] at appended
      obtain ⟨sequenceEq, _⟩ := Prod.mk.inj (Except.ok.inj appended)
      rw [← sequenceEq]
      exact below
    · rw [append_of_le (Nat.not_lt.mp below)] at appended
      cases appended
  retained_le := fun _ member => represents.succ_le_top member
  withinBounds := fun _ _ _ accepted looks =>
    represents.withinBounds accepted looks
  next_le := represents.next_le
  asOf_le := fun _ _ _ found => last_le_of_asOf found

/-- Wherever the numbers begin, no run breaks off, and no request to what it leaves does. -/
theorem words_suffice
    (capacity origin : Nat)
    (isWord : origin ≤ Word.top)
    (changes : List LogChange) :
    (startingAt capacity origin).applyAllInWords changes =
        .ok ((startingAt capacity origin).applyAll changes) ∧
      ((startingAt capacity origin).applyAll changes).Unbroken :=
  ⟨applyAllInWords_eq _ changes,
    ((represents_startingAt capacity isWord).applyAll changes).unbroken⟩

/-- The numbers begin with the last one that is handed out. -/
theorem words_suffice_at_top :
    Word.top - 1 ≤ Word.top ∧
      (startingAt 1 (Word.top - 1)).applyAllInWords
          [.append default, .append default] =
        .ok
          ((startingAt 1 (Word.top - 1)).applyAll
            [.append default, .append default]) ∧
      ((startingAt 1 (Word.top - 1)).applyAll
        [.append default, .append default]).Unbroken :=
  ⟨by decide,
    words_suffice 1 (Word.top - 1) (by decide)
      [.append default, .append default]⟩

-- The window of an empty log that begins with zero has a last number, but no place.
example :
    Word.stretch (startingAt 1 0).retained.toList 0 0 = .error .outOfBounds ∧
      (startingAt 1 0).rangeInWords 0 none 1 .all =
        .ok
          (.ok
            { observations := []
              endSequence := 0
              window := { first := 0, last := 0, next := 0 } }) :=
  ⟨rfl, rfl⟩

end ObservationLog

end MTConnect
