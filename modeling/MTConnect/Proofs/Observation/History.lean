import MTConnect.Observation.Filter
import MTConnect.Observation.Sequence

namespace MTConnect

/-!
# Histories of observations

A history is everything that was logged since the numbers began, in order and
without a bound. The log retains only its end; the history is what the log,
its checkpoints and everything read from them are measured against.

The numbers of a history are consecutive. That makes places and numbers
interchangeable: cutting a history at a place is the same as choosing its
entries by their numbers.
-/

/-- Everything that was logged since the numbers began. -/
structure History where
  /-- The number of the first entry. -/
  origin : Nat := 1
  entries : List Observation := []
  numbered :
    entries.map Observation.sequence =
      List.range' origin entries.length := by rfl

/-- An observation that no other one of its data item follows. -/
structure IsNewest
    (observation : Observation)
    (observations : List Observation) : Prop where
  member : observation ∈ observations
  newest :
    ∀ other ∈ observations,
      other.key = observation.key →
      other.sequence ≤ observation.sequence

namespace History

/-- The history in which nothing has been logged yet. -/
def beginningAt (origin : Nat) : History where
  origin := origin

/-- The number that the next entry receives. -/
def next (history : History) : Nat :=
  history.origin + history.entries.length

/-- Add a reading at the end. -/
def extend (history : History) (reading : Reading) : History where
  origin := history.origin
  entries := history.entries ++ [reading.numbered history.next]
  numbered := by
    rw [List.map_append, history.numbered, List.length_append,
      List.length_singleton, List.range'_1_concat]
    rfl

/-- Add a reading unless the numbers are used up. -/
def offer (history : History) (reading : Reading) : History :=
  if history.next < Word.top then history.extend reading else history

/-- Add readings, one after the other. -/
def offerAll (history : History) (readings : List Reading) : History :=
  readings.foldl offer history

/-- The entries with numbers below a bound. -/
def before (history : History) (bound : Nat) : List Observation :=
  history.entries.filter fun observation =>
    decide (observation.sequence < bound)

/-- The entries with numbers up to a point. -/
def upTo (history : History) (point : Nat) : List Observation :=
  history.before (point + 1)

/-- The entries that a filter admits, with numbers from `start` on and below `stop`. -/
def between
    (history : History)
    (filter : ObservationFilter)
    (start stop : Nat) :
    List Observation :=
  history.entries.filter fun observation =>
    filter.admits observation &&
      decide (start ≤ observation.sequence ∧ observation.sequence < stop)

end History

namespace History

/-- The numbers of the entries lie between the origin and the next number. -/
theorem bounds_of_mem
    {history : History}
    {observation : Observation}
    (member : observation ∈ history.entries) :
    history.origin ≤ observation.sequence ∧
      observation.sequence < history.next := by
  have inNumbers :
      observation.sequence ∈
        List.range' history.origin history.entries.length :=
    history.numbered ▸ List.mem_map_of_mem member
  exact List.mem_range'_1.mp inNumbers

/-- The number of an entry is told by its place. -/
theorem sequence_of_getElem?
    {history : History}
    {place : Nat}
    {observation : Observation}
    (found : history.entries[place]? = some observation) :
    observation.sequence = history.origin + place := by
  have numberAt :
      (history.entries.map Observation.sequence)[place]? =
        some observation.sequence := by
    simp [found]
  rw [history.numbered] at numberAt
  obtain ⟨_, same⟩ := List.getElem?_eq_some_iff.mp numberAt
  simpa using same.symm

/-- The entries stand in the order of their numbers, and no number comes twice. -/
theorem ascending (history : History) :
    history.entries.Pairwise fun earlier later =>
      earlier.sequence < later.sequence := by
  have numbersAscending :
      (history.entries.map Observation.sequence).Pairwise (· < ·) := by
    rw [history.numbered]
    exact List.pairwise_lt_range'
  exact List.pairwise_map.mp numbersAscending

/-- The entries of the first places have the small numbers. -/
theorem sequence_lt_of_mem_take
    {history : History}
    {place : Nat}
    {observation : Observation}
    (member : observation ∈ history.entries.take place) :
    observation.sequence < history.origin + place := by
  obtain ⟨index, found⟩ := List.mem_iff_getElem?.mp member
  rw [List.getElem?_take] at found
  split at found
  next inside =>
    have := sequence_of_getElem? found
    omega
  next => simp at found

/-- The entries of the later places have the large numbers. -/
theorem le_sequence_of_mem_drop
    {history : History}
    {place : Nat}
    {observation : Observation}
    (member : observation ∈ history.entries.drop place) :
    history.origin + place ≤ observation.sequence := by
  obtain ⟨index, found⟩ := List.mem_iff_getElem?.mp member
  rw [List.getElem?_drop] at found
  have := sequence_of_getElem? found
  omega

/-- Cutting off the end at a place leaves the entries below its number. -/
theorem take_eq_before (history : History) (place : Nat) :
    history.entries.take place = history.before (history.origin + place) := by
  symm
  unfold before
  calc
    _ = (history.entries.take place ++ history.entries.drop place).filter _ := by
      rw [List.take_append_drop]
    _ = history.entries.take place ++ [] := by
      rw [List.filter_append, List.filter_eq_self.mpr,
        List.filter_eq_nil_iff.mpr]
      · intro observation member
        simpa using le_sequence_of_mem_drop member
      · intro observation member
        simpa using sequence_lt_of_mem_take member
    _ = history.entries.take place := List.append_nil _

/-- Cutting off the beginning at a place leaves the entries from its number on. -/
theorem drop_eq_filter (history : History) (place : Nat) :
    history.entries.drop place =
      history.entries.filter fun observation =>
        decide (history.origin + place ≤ observation.sequence) := by
  symm
  calc
    _ = (history.entries.take place ++ history.entries.drop place).filter _ := by
      rw [List.take_append_drop]
    _ = [] ++ history.entries.drop place := by
      rw [List.filter_append, List.filter_eq_nil_iff.mpr,
        List.filter_eq_self.mpr]
      · intro observation member
        simpa using le_sequence_of_mem_drop member
      · intro observation member
        simpa using sequence_lt_of_mem_take member
    _ = history.entries.drop place := List.nil_append _

@[simp] theorem entries_extend (history : History) (reading : Reading) :
    (history.extend reading).entries =
      history.entries ++ [reading.numbered history.next] :=
  rfl

@[simp] theorem origin_extend (history : History) (reading : Reading) :
    (history.extend reading).origin = history.origin :=
  rfl

@[simp] theorem next_extend (history : History) (reading : Reading) :
    (history.extend reading).next = history.next + 1 := by
  simp [next, Nat.add_assoc]

/-- Every entry is older than a reading that is added. -/
theorem sequence_lt_of_mem
    {history : History}
    {reading : Reading}
    {observation : Observation}
    (member : observation ∈ history.entries) :
    observation.sequence < (reading.numbered history.next).sequence :=
  (bounds_of_mem member).2

/-- Adding a reading leaves what was chosen below the next number. -/
theorem between_extend
    {history : History}
    {stop : Nat}
    (reached : stop ≤ history.next)
    (filter : ObservationFilter)
    (start : Nat)
    (reading : Reading) :
    (history.extend reading).between filter start stop =
      history.between filter start stop := by
  have outside : ¬ (reading.numbered history.next).sequence < stop :=
    Nat.not_lt.mpr reached
  simp [between, outside]

theorem next_le_offer (history : History) (reading : Reading) :
    history.next ≤ (history.offer reading).next := by
  unfold offer
  split
  · simp
  · exact Nat.le_refl _

theorem next_le_offerAll (history : History) (readings : List Reading) :
    history.next ≤ (history.offerAll readings).next := by
  induction readings generalizing history with
  | nil => exact Nat.le_refl _
  | cons reading rest inductionHypothesis =>
      exact Nat.le_trans (history.next_le_offer reading)
        (inductionHypothesis (history.offer reading))

/-- What was chosen below the next number stays, whatever is logged later. -/
theorem between_offerAll
    {history : History}
    {stop : Nat}
    (reached : stop ≤ history.next)
    (filter : ObservationFilter)
    (start : Nat)
    (readings : List Reading) :
    (history.offerAll readings).between filter start stop =
      history.between filter start stop := by
  induction readings generalizing history with
  | nil => rfl
  | cons reading rest inductionHypothesis =>
      have oneStep :
          (history.offer reading).between filter start stop =
            history.between filter start stop := by
        unfold offer
        split
        · exact between_extend reached filter start reading
        · rfl
      have stillReached : stop ≤ (history.offer reading).next :=
        Nat.le_trans reached (history.next_le_offer reading)
      exact (inductionHypothesis stillReached).trans oneStep

/-- What is chosen stands in the order of the numbers. -/
theorem between_ascending
    (history : History)
    (filter : ObservationFilter)
    (start stop : Nat) :
    (history.between filter start stop).Pairwise fun earlier later =>
      earlier.sequence < later.sequence :=
  history.ascending.filter _

/-- Nothing lies between a number and itself. -/
@[simp] theorem between_self
    (history : History)
    (filter : ObservationFilter)
    (start : Nat) :
    history.between filter start start = [] := by
  rw [between, List.filter_eq_nil_iff]
  intro observation _
  simp

/-- A number splits the entries into those below it and the others. -/
theorem exists_split (history : History) (middle : Nat) :
    ∃ earlier later,
      history.entries = earlier ++ later ∧
        (∀ observation ∈ earlier, observation.sequence < middle) ∧
        ∀ observation ∈ later, middle ≤ observation.sequence := by
  refine
    ⟨history.entries.take (middle - history.origin),
      history.entries.drop (middle - history.origin),
      (List.take_append_drop _ _).symm, ?_, ?_⟩
  · intro observation member
    have fromOrigin := (bounds_of_mem (List.mem_of_mem_take member)).1
    have := sequence_lt_of_mem_take member
    omega
  · intro observation member
    have := le_sequence_of_mem_drop member
    omega

/-- The history of the entries from a place on. -/
def skip (history : History) (place : Nat) : History where
  origin := history.origin + place
  entries := history.entries.drop place
  numbered := by
    rw [List.map_drop, history.numbered, List.drop_range', List.length_drop,
      Nat.mul_one]

@[simp] theorem entries_skip (history : History) (place : Nat) :
    (history.skip place).entries = history.entries.drop place :=
  rfl

@[simp] theorem origin_skip (history : History) (place : Nat) :
    (history.skip place).origin = history.origin + place :=
  rfl

/-- Neighbouring stretches of a history join without a gap. -/
theorem between_append_between
    (history : History)
    (filter : ObservationFilter)
    {start middle stop : Nat}
    (startLe : start ≤ middle)
    (leStop : middle ≤ stop) :
    history.between filter start middle ++
        history.between filter middle stop =
      history.between filter start stop := by
  obtain ⟨earlier, later, split, early, late⟩ := history.exists_split middle
  simp only [between, split, List.filter_append]
  -- Below the middle only the first stretch counts, from there on only the second.
  have secondEmpty :
      (earlier.filter fun observation =>
        filter.admits observation &&
          decide (middle ≤ observation.sequence ∧
            observation.sequence < stop)) = [] := by
    rw [List.filter_eq_nil_iff]
    intro observation member
    have := early observation member
    simp only [Bool.and_eq_true, decide_eq_true_eq]
    omega
  have firstEmpty :
      (later.filter fun observation =>
        filter.admits observation &&
          decide (start ≤ observation.sequence ∧
            observation.sequence < middle)) = [] := by
    rw [List.filter_eq_nil_iff]
    intro observation member
    have := late observation member
    simp only [Bool.and_eq_true, decide_eq_true_eq]
    omega
  rw [secondEmpty, firstEmpty, List.append_nil, List.nil_append]
  congr 1
  · apply List.filter_congr
    intro observation member
    have := early observation member
    congr 1
    apply decide_eq_decide.mpr
    omega
  · apply List.filter_congr
    intro observation member
    have := late observation member
    congr 1
    apply decide_eq_decide.mpr
    omega

/-- A number belongs to one entry at most. -/
theorem eq_of_sequence
    {history : History}
    {first second : Observation}
    (firstMember : first ∈ history.entries)
    (secondMember : second ∈ history.entries)
    (same : first.sequence = second.sequence) :
    first = second := by
  obtain ⟨firstPlace, firstFound⟩ := List.mem_iff_getElem?.mp firstMember
  obtain ⟨secondPlace, secondFound⟩ := List.mem_iff_getElem?.mp secondMember
  have firstNumber := sequence_of_getElem? firstFound
  have secondNumber := sequence_of_getElem? secondFound
  have samePlace : firstPlace = secondPlace := by omega
  rw [samePlace, secondFound] at firstFound
  exact (Option.some.inj firstFound).symm

/-- Readings leave the origin alone. -/
theorem origin_offerAll (history : History) (readings : List Reading) :
    (history.offerAll readings).origin = history.origin := by
  induction readings generalizing history with
  | nil => rfl
  | cons reading rest inductionHypothesis =>
      refine (inductionHypothesis (history.offer reading)).trans ?_
      unfold offer
      split <;> rfl

/-- What was logged stays logged. -/
theorem entries_prefix_offerAll (history : History) (readings : List Reading) :
    history.entries <+: (history.offerAll readings).entries := by
  induction readings generalizing history with
  | nil => exact List.prefix_refl _
  | cons reading rest inductionHypothesis =>
      refine List.IsPrefix.trans ?_ (inductionHypothesis (history.offer reading))
      unfold offer
      split
      next => exact List.prefix_append _ _
      next => exact List.prefix_refl _

end History

end MTConnect
