import MTConnect.Proofs.Observation.Ranges

namespace MTConnect

/-!
# Two views of what holds now

What holds now is read from the checkpoint of newest observations, or it is
put together as of the next number from the checkpoint of evicted ones and the
retained ones. The first way filters what is newest; the second filters first
and takes the newest of what is left. Devices and data items choose whole data
items, so that this is the same. Categories do not: when a data item changed its
category, the second way still shows an older observation in the place of the
newest one that the filter does not admit.
-/

namespace ObservationLog

/-- The observations that the log still has: checkpointed when they were evicted, or retained. -/
def remembered (log : ObservationLog) : List Observation :=
  log.evicted.values ++ log.retained.toList

/-- What the log has of a data item is admitted only if its newest observation is. -/
def NoneSuperseded
    (log : ObservationLog)
    (history : History)
    (filter : ObservationFilter) : Prop :=
  ∀ observation ∈ log.remembered,
    filter.admits observation = true →
    ∀ newest,
      IsNewest newest history.entries →
      newest.key = observation.key →
      filter.admits newest = true

end ObservationLog

/-- Each data item of a history has been logged under one category only. -/
def History.OneCategory (history : History) : Prop :=
  ∀ left ∈ history.entries,
    ∀ right ∈ history.entries,
      left.key = right.key → left.category = right.category

/-- How a snapshot as of the next number stands to what is newest. -/
structure Snapshot.Reconstructs
    (snapshot : Snapshot)
    (log : ObservationLog)
    (history : History)
    (filter : ObservationFilter) : Prop where
  window_eq : snapshot.window = (log.now filter).window
  /-- The checkpoint shows the newest observations that the filter admits. -/
  now_iff :
    ∀ observation,
      observation ∈ (log.now filter).observations ↔
        filter.admits observation = true ∧
          IsNewest observation history.entries
  /-- The snapshot shows the newest of the observations that the filter admits. -/
  shown_iff :
    ∀ observation,
      observation ∈ snapshot.observations ↔
        IsNewest observation
          (log.remembered.filter fun remembered => filter.admits remembered)
  now_subset : (log.now filter).observations ⊆ snapshot.observations
  agree_iff :
    snapshot.observations = (log.now filter).observations ↔
      log.NoneSuperseded history filter
  agree_of_anyCategory :
    filter.categories = none →
    snapshot.observations = (log.now filter).observations
  agree_of_oneCategory :
    history.OneCategory →
    snapshot.observations = (log.now filter).observations

/-- A data item of a history has one newest entry. -/
theorem History.eq_of_isNewest
    {history : History}
    {first second : Observation}
    (firstNewest : IsNewest first history.entries)
    (secondNewest : IsNewest second history.entries)
    (sameKey : first.key = second.key) :
    first = second := by
  have notAfter :=
    secondNewest.newest first firstNewest.member sameKey
  have notBefore :=
    firstNewest.newest second secondNewest.member sameKey.symm
  exact
    History.eq_of_sequence firstNewest.member secondNewest.member
      (Nat.le_antisymm notAfter notBefore)

namespace ObservationLog

/-- Where what is shown is what is newest, nothing is superseded. -/
theorem noneSuperseded_of_newest
    {log : ObservationLog}
    {history : History}
    {filter : ObservationFilter}
    (shownNewest :
      ∀ observation,
        IsNewest observation
            (log.remembered.filter fun remembered =>
              filter.admits remembered) →
          filter.admits observation = true ∧
            IsNewest observation history.entries) :
    log.NoneSuperseded history filter := by
  intro observation inRemembered admitted newest isNewest sameKey
  obtain ⟨shown, isShown, shownKey⟩ :=
    IsNewest.exists_of_key
      ⟨observation, List.mem_filter.mpr ⟨inRemembered, admitted⟩, rfl⟩
  obtain ⟨shownAdmitted, shownIsNewest⟩ := shownNewest shown isShown
  have same : shown = newest :=
    History.eq_of_isNewest shownIsNewest isNewest
      (shownKey.trans sameKey.symm)
  exact same ▸ shownAdmitted

namespace Represents

variable
  {log : ObservationLog}
  {history : History}
  {filter : ObservationFilter}

theorem mem_gone_of_evicted
    (represents : log.Represents history)
    {observation : Observation}
    (member : observation ∈ log.evicted.values) :
    observation ∈ history.gone log.capacity :=
  (represents.evicted.mem_values_iff.mp member).member

/-- What the log remembers has been logged. -/
theorem entries_of_remembered
    (represents : log.Represents history)
    {observation : Observation}
    (member : observation ∈ log.remembered) :
    observation ∈ history.entries := by
  rcases List.mem_append.mp member with isEvicted | isRetained
  · exact List.mem_of_mem_take (represents.mem_gone_of_evicted isEvicted)
  · exact represents.mem_entries_of_retained isRetained

/-- The log has the newest observation of each data item, whether it is evicted or not. -/
theorem remembered_of_isNewest
    (represents : log.Represents history)
    {observation : Observation}
    (newest : IsNewest observation history.entries) :
    observation ∈ log.remembered := by
  have split := history.gone_append_kept log.capacity
  have member := newest.member
  rw [← split, List.mem_append] at member
  refine List.mem_append.mpr ?_
  rcases member with isGone | isKept
  · refine .inl (represents.evicted.mem_values_iff.mpr ⟨isGone, ?_⟩)
    intro other otherGone sameKey
    have inEntries : other ∈ history.entries := by
      rw [← split]
      exact List.mem_append_left _ otherGone
    exact newest.newest other inEntries sameKey
  · exact .inr (represents.retained_eq ▸ isKept)

theorem mem_now_iff
    (represents : log.Represents history)
    {observation : Observation} :
    observation ∈ (log.now filter).observations ↔
      filter.admits observation = true ∧
        IsNewest observation history.entries := by
  rw [now, List.mem_filter, represents.latest.mem_values_iff, and_comm]

/-- What is put together as of the next number indexes what the log has. -/
theorem indexes_remembered
    (represents : log.Represents history)
    (filter : ObservationFilter) :
    Indexes
      (overlay
        (log.evicted.filter fun _ observation => filter.admits observation)
        ((log.retained.toList.takeWhile fun observation =>
            decide (observation.sequence ≤ log.next)).filter fun observation =>
          filter.admits observation))
      (log.remembered.filter fun observation =>
        filter.admits observation) := by
  have wholly :
      (log.retained.toList.takeWhile fun observation =>
          decide (observation.sequence ≤ log.next)) =
        log.retained.toList := by
    rw [takeWhile_eq_filter_of_ascending represents.retained_ascending,
      List.filter_eq_self]
    intro observation member
    exact decide_eq_true
      (Nat.le_of_lt (represents.bounds_of_retained member).2)
  rw [wholly, remembered, List.filter_append]
  -- The checkpoint is listed by its keys, but all its numbers come before the retained ones.
  refine
    (represents.evicted.filter_values _).overlay_later ?_
      (represents.retained_ascending.filter _)
  intro other otherMember observation member
  have isGone :=
    represents.mem_gone_of_evicted (List.mem_filter.mp otherMember).1
  have before := History.sequence_lt_of_mem_take isGone
  rw [← represents.first_eq] at before
  have retained :=
    represents.bounds_of_retained (List.mem_filter.mp member).1
  exact Nat.lt_of_lt_of_le before retained.1

/-- An admitted newest observation is the newest of what is admitted. -/
theorem newest_remembered
    (represents : log.Represents history)
    {observation : Observation}
    (admitted : filter.admits observation = true)
    (newest : IsNewest observation history.entries) :
    IsNewest observation
      (log.remembered.filter fun remembered =>
        filter.admits remembered) where
  member :=
    List.mem_filter.mpr ⟨represents.remembered_of_isNewest newest, admitted⟩
  newest := by
    intro other member sameKey
    exact
      newest.newest other
        (represents.entries_of_remembered (List.mem_filter.mp member).1)
        sameKey

/-- Where nothing is superseded, the newest of what is admitted is the newest there is. -/
theorem newest_of_noneSuperseded
    (represents : log.Represents history)
    (noneSuperseded : log.NoneSuperseded history filter)
    {observation : Observation}
    (shown :
      IsNewest observation
        (log.remembered.filter fun remembered =>
          filter.admits remembered)) :
    filter.admits observation = true ∧
      IsNewest observation history.entries := by
  obtain ⟨inRemembered, admitted⟩ := List.mem_filter.mp shown.member
  have inEntries := represents.entries_of_remembered inRemembered
  obtain ⟨newest, isNewest, sameKey⟩ :=
    IsNewest.exists_of_key ⟨observation, inEntries, rfl⟩
  -- The newest observation of the data item is admitted as well, so it is the one shown.
  have newestAdmitted :=
    noneSuperseded observation inRemembered admitted newest isNewest sameKey
  have notAfter :=
    shown.newest newest
      (represents.newest_remembered newestAdmitted isNewest).member sameKey
  have notBefore := isNewest.newest observation inEntries sameKey.symm
  have same : newest = observation :=
    History.eq_of_sequence isNewest.member inEntries
      (Nat.le_antisymm notAfter notBefore)
  exact ⟨admitted, same ▸ isNewest⟩

/-- A filter that admits the same of each data item supersedes nothing. -/
theorem noneSuperseded_of_sameAdmitted
    (represents : log.Represents history)
    (sameAdmitted :
      ∀ left ∈ history.entries,
        ∀ right ∈ history.entries,
          left.key = right.key →
          filter.admits left = filter.admits right) :
    log.NoneSuperseded history filter := by
  intro observation inRemembered admitted newest isNewest sameKey
  have inEntries := represents.entries_of_remembered inRemembered
  exact
    (sameAdmitted newest isNewest.member observation inEntries sameKey).trans
      admitted

/-- Two views of the same are the same if nothing is superseded, and only then. -/
theorem values_eq_now_iff
    (represents : log.Represents history)
    {map : SortedMap ItemKey Observation}
    (indexes :
      Indexes map
        (log.remembered.filter fun observation =>
          filter.admits observation)) :
    map.values = (log.now filter).observations ↔
      log.NoneSuperseded history filter := by
  constructor
  · intro same
    refine noneSuperseded_of_newest ?_
    intro observation shown
    rw [← represents.mem_now_iff, ← same]
    exact indexes.mem_values_iff.mpr shown
  · intro noneSuperseded
    refine
      eq_of_keys_ascending indexes.values_ascending
        (represents.latest.values_ascending.filter _) ?_
    intro observation
    rw [indexes.mem_values_iff]
    constructor
    · intro shown
      exact
        represents.mem_now_iff.mpr
          (represents.newest_of_noneSuperseded noneSuperseded shown)
    · intro member
      obtain ⟨admitted, newest⟩ := represents.mem_now_iff.mp member
      exact represents.newest_remembered admitted newest

/-- The snapshot as of the next number shows the newest of what the filter admits. -/
theorem asOf_next
    (represents : log.Represents history)
    (filter : ObservationFilter) :
    ∃ snapshot,
      log.asOf log.next filter = .ok snapshot ∧
        snapshot.Reconstructs log history filter := by
  have indexes := represents.indexes_remembered filter
  have agree_iff := represents.values_eq_now_iff indexes
  have notRefused : ¬ (!log.window.accepts log.next) = true := by
    simp [represents.accepts_next]
  refine
    ⟨_, if_neg notRefused,
      { window_eq := ?_
        now_iff := fun _ => represents.mem_now_iff
        shown_iff := fun _ => indexes.mem_values_iff
        now_subset := ?_
        agree_iff := agree_iff
        agree_of_anyCategory := ?_
        agree_of_oneCategory := ?_ }⟩
  · have lastEq : min log.next log.window.last = log.window.last :=
      Nat.min_eq_right (Nat.sub_le _ _)
    change { log.window with last := min log.next log.window.last } = log.window
    rw [lastEq]
  · intro observation member
    obtain ⟨admitted, newest⟩ := represents.mem_now_iff.mp member
    exact
      indexes.mem_values_iff.mpr
        (represents.newest_remembered admitted newest)
  · intro anyCategory
    refine agree_iff.mpr (represents.noneSuperseded_of_sameAdmitted ?_)
    intro left _ right _ sameKey
    rw [ObservationFilter.admits_eq_selects anyCategory,
      ObservationFilter.admits_eq_selects anyCategory, sameKey]
  · intro oneCategory
    refine agree_iff.mpr (represents.noneSuperseded_of_sameAdmitted ?_)
    intro left inLeft right inRight sameKey
    have sameDevice : left.device = right.device :=
      congrArg ItemKey.device sameKey
    have sameCategory := oneCategory left inLeft right inRight sameKey
    rw [ObservationFilter.admits, ObservationFilter.admits, sameDevice,
      sameKey, sameCategory]

end Represents

/--
Whatever is appended and however often the log is reset, the snapshot as of the
next number is what holds now unless an admitted observation is superseded by
one that is not admitted.
-/
theorem views_agree_iff
    (capacity origin : Nat)
    (isWord : origin ≤ Word.top)
    (changes : List LogChange)
    (filter : ObservationFilter) :
    let log := (startingAt capacity origin).applyAll changes
    let history := (History.beginningAt origin).applyAll changes
    ∃ snapshot,
      log.asOf log.next filter = .ok snapshot ∧
        snapshot.Reconstructs log history filter :=
  ((represents_startingAt capacity isWord).applyAll changes).asOf_next filter

/-- A sample of a data item, and then an event. -/
def recategorized : List LogChange :=
  [.append { device := "d", item := "x", category := .sample },
    .append { device := "d", item := "x", category := .event }]

/-- A log in which a data item changed its category, as of its newest number. -/
theorem views_agree_iff_recategorized :
    1 ≤ Word.top ∧
      ∃ snapshot,
        ((startingAt 4 1).applyAll recategorized).asOf 3
            (.ofCategory .all .sample) = .ok snapshot ∧
          snapshot.Reconstructs
            ((startingAt 4 1).applyAll recategorized)
            ((History.beginningAt 1).applyAll recategorized)
            (.ofCategory .all .sample) :=
  ⟨by decide,
    views_agree_iff 4 1 (by decide) recategorized (.ofCategory .all .sample)⟩

/-- Among the samples nothing holds now, but as of the next number the old one does. -/
theorem superseded_sample_shown :
    let log := (startingAt 4 1).applyAll recategorized
    let samples := ObservationFilter.ofCategory .all .sample
    log.now samples =
        { observations := []
          window := { first := 1, last := 2, next := 3 } } ∧
      log.asOf log.next samples =
        .ok
          { observations :=
              [Reading.numbered
                { device := "d", item := "x", category := .sample } 1]
            window := { first := 1, last := 2, next := 3 } } :=
  ⟨rfl, rfl⟩

end ObservationLog

end MTConnect
