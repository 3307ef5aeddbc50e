import MTConnect.Proofs.Observation.Retention

namespace MTConnect

/-!
# Reading from the log as reading from its history

A page that is read forwards holds the entries of the history between its
starting point and the point where reading goes on, and all of them that the
filter admits; it ends short of the next number only if it is full. A snapshot
as of a number is the same as going through the whole history up to that
number, although most of that history may be gone.
-/

/-- A page holds what a history has between its start and its end. -/
structure Page.Covers
    (page : Page)
    (history : History)
    (filter : ObservationFilter)
    (start count : Nat) : Prop where
  observations_eq :
    page.observations = history.between filter start page.endSequence
  length_le : page.observations.length ≤ count
  start_le : start ≤ page.endSequence
  end_le : page.endSequence ≤ history.next
  advances : start < history.next → start < page.endSequence
  /-- A page that is not full has reached the end. -/
  complete :
    page.observations.length < count →
    page.endSequence = history.next

/-- Among ascending observations those up to the last one of a beginning are the beginning. -/
theorem filter_le_last_of_ascending
    {earlier later : List Observation}
    {final : Observation}
    (ascending :
      (earlier ++ later).Pairwise fun before after =>
        before.sequence < after.sequence)
    (last : earlier.getLast? = some final) :
    ((earlier ++ later).filter fun observation =>
      decide (observation.sequence < final.sequence + 1)) = earlier := by
  obtain ⟨front, rfl⟩ := List.getLast?_eq_some_iff.mp last
  obtain ⟨earlierAscending, _, cross⟩ := List.pairwise_append.mp ascending
  obtain ⟨_, _, frontBelow⟩ := List.pairwise_append.mp earlierAscending
  rw [List.filter_append, List.filter_eq_self.mpr, List.filter_eq_nil_iff.mpr,
    List.append_nil]
  · intro observation member
    have := cross final (by simp) observation member
    simp only [decide_eq_true_eq]
    omega
  · intro observation member
    rcases List.mem_append.mp member with inFront | isFinal
    · have := frontBelow observation inFront final (by simp)
      simp only [decide_eq_true_eq]
      omega
    · simp [List.mem_singleton.mp isFinal]

/-- Among ascending observations those up to a number come first. -/
theorem takeWhile_eq_filter_of_ascending
    {observations : List Observation}
    (ascending :
      observations.Pairwise fun before after =>
        before.sequence < after.sequence)
    (point : Nat) :
    (observations.takeWhile fun observation =>
        decide (observation.sequence ≤ point)) =
      observations.filter fun observation =>
        decide (observation.sequence ≤ point) := by
  induction observations with
  | nil => rfl
  | cons first rest inductionHypothesis =>
      obtain ⟨firstBelow, restAscending⟩ := List.pairwise_cons.mp ascending
      by_cases inside : first.sequence ≤ point
      · simp [inside, inductionHypothesis restAscending]
      · have restOutside :
            (rest.filter fun observation =>
              decide (observation.sequence ≤ point)) = [] := by
          rw [List.filter_eq_nil_iff]
          intro observation member
          have := firstBelow observation member
          simp only [decide_eq_true_eq]
          omega
        simp [inside, restOutside]

namespace History

/-- Choosing below a smaller bound can be done in two turns. -/
theorem filter_between
    (history : History)
    (filter : ObservationFilter)
    {start middle stop : Nat}
    (leStop : middle ≤ stop) :
    ((history.between filter start stop).filter fun observation =>
        decide (observation.sequence < middle)) =
      history.between filter start middle := by
  rw [between, between, List.filter_filter]
  apply List.filter_congr
  intro observation _
  rw [Bool.eq_iff_iff]
  simp only [Bool.and_eq_true, decide_eq_true_eq]
  constructor
  · rintro ⟨below, admitted, fromStart, _⟩
    exact ⟨admitted, fromStart, below⟩
  · rintro ⟨admitted, fromStart, below⟩
    exact ⟨below, admitted, fromStart, Nat.lt_of_lt_of_le below leStop⟩

end History

namespace ObservationFilter

/-- Whether a data item passes the dimensions that do not look at categories. -/
def selects (filter : ObservationFilter) (key : ItemKey) : Bool :=
  allows filter.devices key.device && allows filter.items key

/-- Without a restriction of categories the data item decides. -/
theorem admits_eq_selects
    {filter : ObservationFilter}
    (anyCategory : filter.categories = none)
    (observation : Observation) :
    filter.admits observation = filter.selects observation.key := by
  rw [admits, anyCategory]
  exact Bool.and_true _

end ObservationFilter

/--
What is shown are the newest of some observations, one for each selected data
item, in the order of the data items.
-/
structure Replays
    (shown : List Observation)
    (filter : ObservationFilter)
    (observations : List Observation) : Prop where
  ascending :
    shown.Pairwise fun earlier later =>
      compare earlier.key later.key = .lt
  mem_iff :
    ∀ observation,
      observation ∈ shown ↔
        filter.selects observation.key = true ∧
          IsNewest observation observations

namespace Page.Covers

variable {history : History} {filter : ObservationFilter} {start count : Nat}

/-- The page at the next number: nothing is there to be read. -/
theorem at_end
    (window : Window)
    (atEnd : start = history.next) :
    Page.Covers
      { observations := [], endSequence := start, window := window }
      history filter start count where
  observations_eq := (history.between_self filter start).symm
  length_le := Nat.zero_le _
  start_le := Nat.le_refl _
  end_le := Nat.le_of_eq atEnd
  advances := fun below => absurd atEnd (Nat.ne_of_lt below)
  complete := fun _ => atEnd

/-- The page that the count cuts off: it ends after its last observation. -/
theorem of_full
    (window : Window)
    {final : Observation}
    (last :
      ((history.between filter start history.next).take count).getLast? =
        some final)
    (full :
      ((history.between filter start history.next).take count).length =
        count) :
    Page.Covers
      { observations :=
          (history.between filter start history.next).take count
        endSequence := final.sequence + 1
        window := window }
      history filter start count := by
  have finalMember : final ∈ history.between filter start history.next :=
    List.mem_of_mem_take (List.mem_of_getLast? last)
  obtain ⟨inEntries, chosen⟩ := List.mem_filter.mp finalMember
  simp only [Bool.and_eq_true, decide_eq_true_eq] at chosen
  obtain ⟨_, fromStart, belowNext⟩ := chosen
  refine
    { observations_eq := ?_
      length_le := Nat.le_of_eq full
      start_le := Nat.le_succ_of_le fromStart
      end_le := belowNext
      advances := fun _ => Nat.lt_succ_of_le fromStart
      complete := fun short => absurd full (Nat.ne_of_lt short) }
  have ascending := history.between_ascending filter start history.next
  rw [← List.take_append_drop count
    (history.between filter start history.next)] at ascending
  have cut := filter_le_last_of_ascending ascending last
  rw [List.take_append_drop] at cut
  exact cut.symm.trans (history.filter_between filter belowNext)

/-- The page that the count does not cut off: it reaches the next number. -/
theorem of_short
    (window : Window)
    (startLe : start ≤ history.next)
    (short :
      (history.between filter start history.next).length ≤ count) :
    Page.Covers
      { observations := history.between filter start history.next
        endSequence := history.next
        window := window }
      history filter start count where
  observations_eq := rfl
  length_le := short
  start_le := startLe
  end_le := Nat.le_refl _
  advances := id
  complete := fun _ => rfl

/-- The page of a count: cut off if the count is used up, else up to the next number. -/
theorem of_count
    (window : Window)
    (startLe : start ≤ history.next)
    (positive : 0 < count) :
    Page.Covers
      { observations :=
          (history.between filter start history.next).take count
        endSequence :=
          match
            ((history.between filter start history.next).take
              count).getLast? with
          | some final =>
              if ((history.between filter start history.next).take
                  count).length = count then
                final.sequence + 1
              else
                history.next
          | none => history.next
        window := window }
      history filter start count := by
  cases last :
      ((history.between filter start history.next).take count).getLast? with
  | none =>
      have foundNil : history.between filter start history.next = [] := by
        rcases
          List.take_eq_nil_iff.mp (List.getLast?_eq_none_iff.mp last) with
          noCount | foundNil
        · exact absurd noCount (Nat.ne_of_gt positive)
        · exact foundNil
      have nothing :
          (history.between filter start history.next).length ≤ count := by
        simp [foundNil]
      simpa [foundNil] using of_short window startLe nothing
  | some final =>
      by_cases full :
          ((history.between filter start history.next).take count).length =
            count
      · simpa only [full, if_true] using of_full window last full
      · have shorter :
            (history.between filter start history.next).length ≤ count := by
          rw [List.length_take] at full
          omega
        simp only [if_neg full]
        rw [List.take_of_length_le shorter]
        exact of_short window startLe shorter

end Page.Covers

namespace ObservationLog

theorem accepts_iff
    (log : ObservationLog)
    (sequence : Nat) :
    log.window.accepts sequence = true ↔
      log.first ≤ sequence ∧ sequence ≤ log.next := by
  rw [Window.accepts, decide_eq_true_eq]
  exact Iff.rfl

theorem isEmpty_window_iff (log : ObservationLog) :
    log.window.isEmpty = true ↔ log.next ≤ log.first := by
  rw [Window.isEmpty, decide_eq_true_eq]
  exact Iff.rfl

theorem last_window (log : ObservationLog) :
    log.window.last = log.next - 1 :=
  rfl

/-- A range from outside the window is refused. -/
theorem range_of_refused
    {log : ObservationLog}
    {start : Nat}
    (refused : log.window.accepts start = false)
    (stop? : Option Nat)
    (count : Int)
    (filter : ObservationFilter) :
    log.range start stop? count filter = .error (log.outOfRange start) := by
  simp [range, refused]

theorem asOf_of_refused
    {log : ObservationLog}
    {point : Nat}
    (refused : log.window.accepts point = false)
    (filter : ObservationFilter) :
    log.asOf point filter = .error (log.outOfRange point) := by
  simp [asOf, refused]

namespace Represents

variable {log : ObservationLog} {history : History}

/-- A slice of the log is what the history has with the same numbers. -/
theorem filter_slice_eq_between
    (represents : log.Represents history)
    {start stop : Nat}
    (retained : log.first ≤ start)
    (ordered : start ≤ stop)
    (filter : ObservationFilter) :
    ((log.slice start stop).filter fun observation =>
        filter.admits observation) =
      history.between filter start (stop + 1) := by
  have firstEq := represents.first_eq
  have place :
      log.slice start stop =
        (history.skip (start - history.origin)).before (stop + 1) := by
    have bound :
        stop + 1 =
          (history.skip (start - history.origin)).origin +
            (stop + 1 - start) := by
      rw [History.origin_skip]
      omega
    have skipped :
        history.entries.length - log.capacity + (start - log.first) =
          start - history.origin := by
      omega
    rw [slice, represents.retained_eq, History.kept, List.drop_drop, skipped]
    have taken :=
      (history.skip (start - history.origin)).take_eq_before
        (stop + 1 - start)
    rw [← bound] at taken
    exact taken
  have fromStart : history.origin + (start - history.origin) = start := by
    omega
  rw [place, History.before, History.entries_skip, History.drop_eq_filter,
    fromStart, List.filter_filter, List.filter_filter, History.between]
  apply List.filter_congr
  intro observation _
  rw [Bool.eq_iff_iff]
  simp only [Bool.and_eq_true, decide_eq_true_eq]
  constructor
  · rintro ⟨⟨admitted, below⟩, above⟩
    exact ⟨admitted, above, below⟩
  · rintro ⟨admitted, above, below⟩
    exact ⟨⟨admitted, below⟩, above⟩

/-- Reading forwards from an accepted number gives a page of the history. -/
theorem range_forward
    (represents : log.Represents history)
    {start : Nat}
    {count : Int}
    (accepted : log.window.accepts start = true)
    (positive : 0 < count)
    (filter : ObservationFilter) :
    ∃ page,
      log.range start none count filter = .ok page ∧
        page.window = log.window ∧
        page.Covers history filter start count.natAbs := by
  obtain ⟨retained, reached⟩ := (log.accepts_iff start).mp accepted
  have nextEq := represents.next_eq
  by_cases atEnd : log.next ≤ start
  · have nothing :
        log.window.last < start ∨ count = 0 ∨ log.window.isEmpty = true := by
      rw [isEmpty_window_iff, last_window]
      omega
    have startEq : start = history.next := by omega
    refine ⟨_, ?_, rfl, .at_end log.window startEq⟩
    simp [range, accepted, nothing]
  · have something :
        ¬ (log.window.last < start ∨ count = 0 ∨
          log.window.isEmpty = true) := by
      rw [isEmpty_window_iff, last_window]
      omega
    have lastEq : log.window.last + 1 = history.next := by
      rw [last_window]
      omega
    have startLe : start ≤ log.window.last := by
      rw [last_window]
      omega
    have found :=
      represents.filter_slice_eq_between retained startLe filter
    rw [lastEq] at found
    have countPos : 0 < count.natAbs := by omega
    simp only [range, accepted, Option.map_none, Option.getD_none, something,
      positive, found, lastEq, Bool.not_true, Bool.false_eq_true, if_false,
      if_true]
    exact ⟨_, rfl, rfl, .of_count log.window (by omega) countPos⟩

/-- The overlay of a snapshot indexes what a history has up to a number. -/
theorem indexes_overlay
    (represents : log.Represents history)
    {point : Nat}
    (retained : log.first ≤ point)
    {filter : ObservationFilter}
    (anyCategory : filter.categories = none) :
    Indexes
      (overlay
        (log.evicted.filter fun _ observation => filter.admits observation)
        ((log.retained.toList.takeWhile fun observation =>
            decide (observation.sequence ≤ point)).filter fun observation =>
          filter.admits observation))
      ((history.upTo point).filter fun observation =>
        filter.admits observation) := by
  have byKey (left right : Observation) (sameKey : left.key = right.key) :
      filter.admits left = filter.admits right := by
    rw [ObservationFilter.admits_eq_selects anyCategory,
      ObservationFilter.admits_eq_selects anyCategory, sameKey]
  have ascending := history.ascending
  rw [← history.gone_append_kept log.capacity] at ascending
  obtain ⟨_, keptAscending, _⟩ := List.pairwise_append.mp ascending
  have goneUpTo :
      ((history.gone log.capacity).filter fun observation =>
        decide (observation.sequence < point + 1)) =
          history.gone log.capacity := by
    rw [List.filter_eq_self]
    intro observation member
    have below := History.sequence_lt_of_mem_take member
    rw [← represents.first_eq] at below
    simp only [decide_eq_true_eq]
    omega
  -- What is gone and what is retained up to the number make up the whole.
  have whole :
      history.upTo point =
        history.gone log.capacity ++
          (history.kept log.capacity).filter fun observation =>
            decide (observation.sequence ≤ point) := by
    rw [History.upTo, History.before, ← history.gone_append_kept log.capacity,
      List.filter_append, goneUpTo]
    simp only [Nat.lt_succ_iff]
  rw [represents.retained_eq, takeWhile_eq_filter_of_ascending keptAscending,
    whole, List.filter_append]
  refine Indexes.overlay (represents.evicted.filter byKey) ?_
  rw [← List.filter_append, ← whole]
  exact (history.ascending.filter _).filter _

/-- A snapshot as of an accepted number replays the history up to it. -/
theorem asOf_replays
    (represents : log.Represents history)
    {point : Nat}
    (accepted : log.window.accepts point = true)
    {filter : ObservationFilter}
    (anyCategory : filter.categories = none) :
    ∃ snapshot,
      log.asOf point filter = .ok snapshot ∧
        snapshot.window =
          { log.window with last := min point log.window.last } ∧
        Replays snapshot.observations filter (history.upTo point) := by
  have retained := ((log.accepts_iff point).mp accepted).1
  have indexes := represents.indexes_overlay retained anyCategory
  have notRefused : ¬ (!log.window.accepts point) = true := by
    simp [accepted]
  refine ⟨_, if_neg notRefused, rfl, indexes.values_ascending, ?_⟩
  intro observation
  rw [indexes.mem_values_iff, IsNewest.filter_iff]
  · rw [ObservationFilter.admits_eq_selects anyCategory]
  · intro left right sameKey
    rw [ObservationFilter.admits_eq_selects anyCategory,
      ObservationFilter.admits_eq_selects anyCategory, sameKey]

/-- What holds now replays the whole history. -/
theorem now_replays
    (represents : log.Represents history)
    {filter : ObservationFilter}
    (anyCategory : filter.categories = none) :
    Replays (log.now filter).observations filter history.entries where
  ascending := represents.latest.values_ascending.filter _
  mem_iff := by
    intro observation
    rw [now, List.mem_filter, represents.latest.mem_values_iff,
      ObservationFilter.admits_eq_selects anyCategory, and_comm]

end Represents

end ObservationLog

end MTConnect
