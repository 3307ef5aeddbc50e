import MTConnect.Proofs.Observation.Reading

namespace MTConnect

/-!
# What a range reads

A range asks for the observations between two numbers, and for so many of the
first or of the last ones. Its page is exactly that: it is cut out of the
retained observations, it says where reading goes on, and it is refused only
when its start lies outside the window. The log finds the observations by their
places; the numbers that they are asked for by come from the history that the
log represents.
-/

/-- The members that a count asks for: the first ones, or the last ones if it is negative. -/
def counted
    {α : Type}
    (count : Int)
    (list : List α) :
    List α :=
  if 0 ≤ count then
    list.take count.natAbs
  else
    ObservationLog.lastOf count.natAbs list

@[simp] theorem counted_zero
    {α : Type}
    (list : List α) :
    counted 0 list = [] :=
  rfl

theorem counted_of_pos
    {α : Type}
    {count : Int}
    (positive : 0 < count)
    (list : List α) :
    counted count list = list.take count.natAbs :=
  if_pos (Int.le_of_lt positive)

theorem counted_of_neg
    {α : Type}
    {count : Int}
    (negative : count < 0)
    (list : List α) :
    counted count list = ObservationLog.lastOf count.natAbs list :=
  if_neg (Int.not_le.mpr negative)

/-- What is asked for stays in order. -/
theorem counted_sublist
    {α : Type}
    (count : Int)
    (list : List α) :
    (counted count list).Sublist list := by
  unfold counted
  split
  next => exact List.take_sublist _ _
  next => exact List.drop_sublist _ _

namespace ObservationLog

/-- The retained observations that a filter admits, from one number to another. -/
def matching
    (log : ObservationLog)
    (filter : ObservationFilter)
    (start stop : Nat) :
    List Observation :=
  log.retained.toList.filter fun observation =>
    filter.admits observation &&
      decide (start ≤ observation.sequence ∧ observation.sequence ≤ stop)

/-- The last number that a range looks at: the one that was given, but none after the newest. -/
def lastRead (log : ObservationLog) (stop? : Option Nat) : Nat :=
  min (stop?.getD log.window.last) log.window.last

/-- Whether a range looks at any observation. -/
def Looks (log : ObservationLog) (start : Nat) (stop? : Option Nat) (count : Int) : Prop :=
  start ≤ log.lastRead stop? ∧ count ≠ 0 ∧ log.first < log.next

end ObservationLog

/-- A page holds what a range asks for, and says where reading goes on. -/
structure Page.Answers
    (page : Page)
    (log : ObservationLog)
    (start : Nat)
    (stop? : Option Nat)
    (count : Int)
    (filter : ObservationFilter) : Prop where
  observations_eq :
    page.observations =
      counted count (log.matching filter start (log.lastRead stop?))
  ascending :
    page.observations.Pairwise fun earlier later =>
      earlier.sequence < later.sequence
  window_eq : page.window = log.window
  /-- Where nothing is looked at, reading goes on where it was to begin. -/
  end_unread :
    ¬ log.Looks start stop? count →
    page.endSequence = start
  /-- Forwards, a count that is used up ends the page after its last observation. -/
  end_full :
    log.Looks start stop? count →
    0 < count →
    page.observations.length = count.natAbs →
    ∃ final,
      page.observations.getLast? = some final ∧
        page.endSequence = final.sequence + 1
  /-- Otherwise the page ends after the last number that was looked at. -/
  end_scanned :
    log.Looks start stop? count →
    ¬ (0 < count ∧ page.observations.length = count.natAbs) →
    page.endSequence = log.lastRead stop? + 1
  in_window :
    ∀ observation ∈ page.observations,
      page.window.contains observation.sequence = true
  end_le : page.endSequence ≤ page.window.next

/-- A log answers every range exactly, or says that its start lies outside the window. -/
structure ObservationLog.ReadsExactly (log : ObservationLog) : Prop where
  error_iff :
    ∀ start stop? count filter fault,
      log.range start stop? count filter = .error fault ↔
        (start < log.window.first ∨ log.window.next < start) ∧
          fault = .outOfRange start log.window.first log.window.next
  answered :
    ∀ start stop? count filter,
      log.window.first ≤ start →
      start ≤ log.window.next →
      ∃ page,
        log.range start stop? count filter = .ok page ∧
          page.Answers log start stop? count filter

namespace ObservationLog

variable
  {log : ObservationLog}
  {history : History}
  {start : Nat}
  {stop? : Option Nat}
  {count : Int}
  {filter : ObservationFilter}

theorem lastRead_eq (log : ObservationLog) (stop? : Option Nat) :
    (stop?.map (min · log.window.last)).getD log.window.last =
      log.lastRead stop? := by
  cases stop? with
  | none => exact (Nat.min_self _).symm
  | some stop => rfl

theorem lastRead_le (log : ObservationLog) (stop? : Option Nat) :
    log.lastRead stop? ≤ log.window.last :=
  Nat.min_le_right _ _

/-- What a range looks at ends below the next number. -/
theorem Looks.lastRead_lt
    (looks : log.Looks start stop? count) :
    log.lastRead stop? < log.next := by
  have occupied := looks.2.2
  have last := log.lastRead_le stop?
  rw [last_window] at last
  omega

theorem not_looks_iff :
    ¬ log.Looks start stop? count ↔
      log.lastRead stop? < start ∨
        count = 0 ∨ log.window.isEmpty = true := by
  rw [isEmpty_window_iff, Looks]
  omega

theorem Looks.something
    (looks : log.Looks start stop? count) :
    ¬ (log.lastRead stop? < start ∨
      count = 0 ∨ log.window.isEmpty = true) := by
  rw [← not_looks_iff]
  exact not_not_intro looks

/-- A slice is cut out of what is retained. -/
theorem mem_retained_of_slice
    {stop : Nat}
    {observation : Observation}
    (member : observation ∈ log.slice start stop) :
    observation ∈ log.retained.toList :=
  List.mem_of_mem_drop (List.mem_of_mem_take member)

/-- A range that looks at nothing gives an empty page. -/
theorem range_of_unread
    (accepted : log.window.accepts start = true)
    (unread : ¬ log.Looks start stop? count)
    (filter : ObservationFilter) :
    log.range start stop? count filter =
      .ok
        { observations := []
          endSequence := start
          window := log.window } := by
  rw [not_looks_iff] at unread
  simp only [range, accepted, lastRead_eq, unread, Bool.not_true,
    Bool.false_eq_true, if_false, if_true]

/-- Where a page ends that is read forwards from some observations. -/
def endAfter (taken : List Observation) (limit last : Nat) : Nat :=
  match taken.getLast? with
  | some final => if taken.length = limit then final.sequence + 1 else last + 1
  | none => last + 1

/-- What a range answers that looks at something. -/
theorem range_of_looks
    (accepted : log.window.accepts start = true)
    (looks : log.Looks start stop? count)
    (filter : ObservationFilter) :
    log.range start stop? count filter =
      .ok
        { observations :=
            counted count
              ((log.slice start (log.lastRead stop?)).filter
                fun observation => filter.admits observation)
          endSequence :=
            if 0 < count then
              endAfter
                (counted count
                  ((log.slice start (log.lastRead stop?)).filter
                    fun observation => filter.admits observation))
                count.natAbs (log.lastRead stop?)
            else
              log.lastRead stop? + 1
          window := log.window } := by
  simp only [range, accepted, lastRead_eq, looks.something, Bool.not_true,
    Bool.false_eq_true, if_false]
  rcases Int.lt_or_gt_of_ne looks.2.1 with negative | positive
  · have notPositive : ¬ 0 < count := Int.not_lt.mpr (Int.le_of_lt negative)
    simp only [notPositive, if_false, counted_of_neg negative]
  · simp only [positive, if_true, counted_of_pos positive]
    rfl

/-- A page holds retained observations only, whichever way it is read. -/
theorem mem_retained_of_range
    {page : Page}
    (read : log.range start stop? count filter = .ok page)
    {observation : Observation}
    (member : observation ∈ page.observations) :
    observation ∈ log.retained.toList := by
  cases accepted : log.window.accepts start with
  | false =>
      rw [range_of_refused accepted] at read
      cases read
  | true =>
      by_cases looks : log.Looks start stop? count
      · rw [range_of_looks accepted looks] at read
        rw [← Except.ok.inj read] at member
        have found := (counted_sublist count _).subset member
        exact mem_retained_of_slice (List.mem_filter.mp found).1
      · rw [range_of_unread accepted looks] at read
        rw [← Except.ok.inj read] at member
        cases member

/-- The end of a page that is read forwards, by whether its count was used up. -/
theorem endAfter_cases
    {taken : List Observation}
    {limit : Nat}
    (positive : 0 < limit)
    (last : Nat) :
    (taken.length = limit ∧
        ∃ final,
          taken.getLast? = some final ∧
            endAfter taken limit last = final.sequence + 1) ∨
      (taken.length ≠ limit ∧ endAfter taken limit last = last + 1) := by
  unfold endAfter
  cases lastOne : taken.getLast? with
  | none =>
      right
      rw [List.getLast?_eq_none_iff.mp lastOne]
      exact ⟨Nat.ne_of_lt positive, rfl⟩
  | some final =>
      by_cases full : taken.length = limit
      · left
        exact ⟨full, final, rfl, if_pos full⟩
      · right
        exact ⟨full, if_neg full⟩

namespace Represents

theorem first_le_next (represents : log.Represents history) :
    log.first ≤ log.next := by
  rw [← represents.first_add_size]
  exact Nat.le_add_right _ _

/-- Reading may always begin with the first retained observation. -/
theorem accepts_first (represents : log.Represents history) :
    log.window.accepts log.window.first = true :=
  (log.accepts_iff log.first).mpr ⟨Nat.le_refl _, represents.first_le_next⟩

/-- It may also wait for the next one. -/
theorem accepts_next (represents : log.Represents history) :
    log.window.accepts log.next = true :=
  (log.accepts_iff log.next).mpr ⟨represents.first_le_next, Nat.le_refl _⟩

/-- What is retained has a number in the window. -/
theorem bounds_of_retained
    (represents : log.Represents history)
    {observation : Observation}
    (member : observation ∈ log.retained.toList) :
    log.first ≤ observation.sequence ∧ observation.sequence < log.next := by
  obtain ⟨place, found⟩ := List.mem_iff_getElem?.mp member
  have sequenceEq := represents.sequence_of_getElem? found
  obtain ⟨inside, _⟩ := List.getElem?_eq_some_iff.mp found
  have sizeEq := represents.first_add_size
  rw [size, Queue.size_eq_length] at sizeEq
  omega

theorem retained_ascending (represents : log.Represents history) :
    log.retained.toList.Pairwise fun earlier later =>
      earlier.sequence < later.sequence := by
  rw [represents.retained_eq]
  exact history.ascending.sublist (List.drop_sublist _ _)

theorem mem_entries_of_retained
    (represents : log.Represents history)
    {observation : Observation}
    (member : observation ∈ log.retained.toList) :
    observation ∈ history.entries := by
  rw [represents.retained_eq] at member
  exact List.mem_of_mem_drop member

/-- From a retained number on, what matches is what the history has. -/
theorem matching_eq_between
    (represents : log.Represents history)
    (retained : log.first ≤ start)
    (filter : ObservationFilter)
    (stop : Nat) :
    log.matching filter start stop =
      history.between filter start (stop + 1) := by
  have goneBefore :
      ((history.gone log.capacity).filter fun observation =>
        filter.admits observation &&
          decide (start ≤ observation.sequence ∧
            observation.sequence < stop + 1)) = [] := by
    rw [List.filter_eq_nil_iff]
    intro observation member
    have below := History.sequence_lt_of_mem_take member
    rw [← represents.first_eq] at below
    simp only [Bool.and_eq_true, decide_eq_true_eq]
    omega
  rw [History.between, ← history.gone_append_kept log.capacity,
    List.filter_append, goneBefore, List.nil_append, matching,
    represents.retained_eq]
  simp only [Nat.lt_succ_iff]

/-- From the first retained number to the newest, whatever the filter admits matches. -/
theorem matching_whole
    (represents : log.Represents history)
    (filter : ObservationFilter) :
    log.matching filter log.window.first (log.lastRead none) =
      log.retained.toList.filter fun observation =>
        filter.admits observation := by
  apply List.filter_congr
  intro observation member
  obtain ⟨fromFirst, belowNext⟩ := represents.bounds_of_retained member
  have upToLast : observation.sequence ≤ log.lastRead none := by
    rw [← log.lastRead_eq none]
    exact Nat.le_sub_one_of_lt belowNext
  have inside :
      decide
          (log.window.first ≤ observation.sequence ∧
            observation.sequence ≤ log.lastRead none) =
        true :=
    decide_eq_true ⟨fromFirst, upToLast⟩
  rw [inside, Bool.and_true]

/-- The places that a range looks at are those of the numbers that it asks for. -/
theorem filter_slice_eq_matching
    (represents : log.Represents history)
    (retained : log.first ≤ start)
    (looks : log.Looks start stop? count)
    (filter : ObservationFilter) :
    ((log.slice start (log.lastRead stop?)).filter fun observation =>
        filter.admits observation) =
      log.matching filter start (log.lastRead stop?) := by
  rw [represents.matching_eq_between retained]
  exact represents.filter_slice_eq_between retained looks.1 filter

/-- Where nothing is looked at, nothing is asked for. -/
theorem counted_matching_of_unread
    (represents : log.Represents history)
    (unread : ¬ log.Looks start stop? count)
    (filter : ObservationFilter) :
    counted count (log.matching filter start (log.lastRead stop?)) = [] := by
  by_cases zero : count = 0
  · rw [zero, counted_zero]
  · have nothing :
        log.matching filter start (log.lastRead stop?) = [] := by
      rw [matching, List.filter_eq_nil_iff]
      intro observation member
      have bounds := represents.bounds_of_retained member
      have beyond :
          log.lastRead stop? < start ∨ log.next ≤ log.first := by
        rcases not_looks_iff.mp unread with beyond | isZero | isEmpty
        · exact .inl beyond
        · exact absurd isZero zero
        · exact .inr (log.isEmpty_window_iff.mp isEmpty)
      simp only [Bool.and_eq_true, decide_eq_true_eq]
      omega
    rw [nothing]
    exact List.sublist_nil.mp (counted_sublist count [])

/-- What a page holds is in the window and not after the last number asked for. -/
theorem mem_of_counted_matching
    (represents : log.Represents history)
    {stop : Nat}
    {observation : Observation}
    (member : observation ∈ counted count (log.matching filter start stop)) :
    log.window.contains observation.sequence = true ∧
      observation.sequence ≤ stop := by
  obtain ⟨inRetained, chosen⟩ :=
    List.mem_filter.mp ((counted_sublist count _).subset member)
  simp only [Bool.and_eq_true, decide_eq_true_eq] at chosen
  obtain ⟨_, _, upTo⟩ := chosen
  exact
    ⟨decide_eq_true (represents.bounds_of_retained inRetained), upTo⟩

/-- A page is in order. -/
theorem counted_matching_ascending
    (represents : log.Represents history)
    (count : Int)
    (filter : ObservationFilter)
    (start stop : Nat) :
    (counted count (log.matching filter start stop)).Pairwise
      fun earlier later => earlier.sequence < later.sequence :=
  (represents.retained_ascending.filter _).sublist (counted_sublist count _)

/--
A range that looks at nothing is answered with an empty page that ends at its start.
-/
theorem answers_of_unread
    (represents : log.Represents history)
    (accepted : log.window.accepts start = true)
    (unread : ¬ log.Looks start stop? count)
    (filter : ObservationFilter) :
    Page.Answers
      { observations := [], endSequence := start, window := log.window }
      log start stop? count filter where
  observations_eq := (represents.counted_matching_of_unread unread filter).symm
  ascending := List.Pairwise.nil
  window_eq := rfl
  end_unread := fun _ => rfl
  end_full := fun looks => absurd looks unread
  end_scanned := fun looks => absurd looks unread
  in_window := by
    intro observation member
    cases member
  end_le := ((log.accepts_iff start).mp accepted).2

/-- A range that looks at something is answered with what it asks for. -/
theorem answers_of_looks
    (represents : log.Represents history)
    (looks : log.Looks start stop? count)
    (filter : ObservationFilter) :
    Page.Answers
      { observations :=
          counted count (log.matching filter start (log.lastRead stop?))
        endSequence :=
          if 0 < count then
            endAfter
              (counted count (log.matching filter start (log.lastRead stop?)))
              count.natAbs (log.lastRead stop?)
          else
            log.lastRead stop? + 1
        window := log.window }
      log start stop? count filter := by
  have below := looks.lastRead_lt
  have inPage
      {observation : Observation}
      (member :
        observation ∈
          counted count (log.matching filter start (log.lastRead stop?))) :=
    represents.mem_of_counted_matching member
  refine
    { observations_eq := rfl
      ascending := represents.counted_matching_ascending _ _ _ _
      window_eq := rfl
      end_unread := fun unread => absurd looks unread
      end_full := ?_
      end_scanned := ?_
      in_window := fun _ member => (inPage member).1
      end_le := ?_ }
  · intro _ positive full
    rcases endAfter_cases (Int.natAbs_pos.mpr looks.2.1)
        (log.lastRead stop?) with
      ⟨_, final, isLast, endEq⟩ | ⟨notFull, _⟩
    · exact ⟨final, isLast, (if_pos positive).trans endEq⟩
    · exact absurd full notFull
  · intro _ notFull
    by_cases positive : 0 < count
    · rcases endAfter_cases (Int.natAbs_pos.mpr looks.2.1)
          (log.lastRead stop?) with
        ⟨full, _⟩ | ⟨_, endEq⟩
      · exact absurd ⟨positive, full⟩ notFull
      · exact (if_pos positive).trans endEq
    · exact if_neg positive
  · change _ ≤ log.next
    split
    next =>
      rcases endAfter_cases (Int.natAbs_pos.mpr looks.2.1)
          (log.lastRead stop?) with
        ⟨_, final, isLast, endEq⟩ | ⟨_, endEq⟩
      · have upTo := (inPage (List.mem_of_getLast? isLast)).2
        rw [endEq]
        exact Nat.lt_of_le_of_lt upTo below
      · rw [endEq]
        exact below
    next => exact below

/-- An accepted start is answered exactly. -/
theorem range_answers
    (represents : log.Represents history)
    (accepted : log.window.accepts start = true)
    (stop? : Option Nat)
    (count : Int)
    (filter : ObservationFilter) :
    ∃ page,
      log.range start stop? count filter = .ok page ∧
        page.Answers log start stop? count filter := by
  by_cases looks : log.Looks start stop? count
  · have retained := ((log.accepts_iff start).mp accepted).1
    refine ⟨_, ?_, represents.answers_of_looks looks filter⟩
    rw [range_of_looks accepted looks filter,
      represents.filter_slice_eq_matching retained looks filter]
  · exact
      ⟨_, range_of_unread accepted looks filter,
        represents.answers_of_unread accepted looks filter⟩

/-- A log that represents a history answers every range exactly. -/
theorem readsExactly (represents : log.Represents history) :
    log.ReadsExactly where
  error_iff := by
    intro start stop? count filter fault
    by_cases accepted : log.window.accepts start = true
    · obtain ⟨page, answered, _⟩ :=
        represents.range_answers accepted stop? count filter
      have inside := (log.accepts_iff start).mp accepted
      rw [answered]
      constructor
      · intro failed
        cases failed
      · rintro ⟨outside | outside, _⟩
        · exact absurd inside.1 (Nat.not_le.mpr outside)
        · exact absurd inside.2 (Nat.not_le.mpr outside)
    · have refused : log.window.accepts start = false :=
        Bool.eq_false_iff.mpr accepted
      have outside :
          start < log.window.first ∨ log.window.next < start := by
        rw [log.accepts_iff] at accepted
        change start < log.first ∨ log.next < start
        omega
      rw [range_of_refused refused]
      constructor
      · intro failed
        exact ⟨outside, (Except.error.inj failed).symm⟩
      · rintro ⟨_, rfl⟩
        rfl
  answered := by
    intro start stop? count filter retained reached
    exact
      represents.range_answers
        ((log.accepts_iff start).mpr ⟨retained, reached⟩) stop? count filter

end Represents

/-- Whatever is appended and however often the log is reset, it answers ranges exactly. -/
theorem ranges_exact
    (capacity origin : Nat)
    (isWord : origin ≤ Word.top)
    (changes : List LogChange) :
    ((startingAt capacity origin).applyAll changes).ReadsExactly :=
  ((represents_startingAt capacity isWord).applyAll changes).readsExactly

/-- The last numbers that there are, of which the first two are evicted. -/
theorem ranges_exact_at_top :
    Word.top - 3 ≤ Word.top ∧
      ((startingAt 1 (Word.top - 3)).applyAll
        [.append default, .append default, .append default,
          .append default]).ReadsExactly :=
  ⟨by decide,
    ranges_exact 1 (Word.top - 3) (by decide)
      [.append default, .append default, .append default, .append default]⟩

end ObservationLog

end MTConnect
