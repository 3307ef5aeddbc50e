import MTConnect.Proofs.Observation.Retention

namespace MTConnect

/-!
# The observations that a log accepts

A log that is offered readings accepts those that it has numbers for. What it
accepts is what its history gains, one observation for each number that is
handed out. As long as the numbers suffice, every reading is accepted, and the
newest observation of a data item is the last reading of it, if there is one.
-/

/-- The stored keys of the data item that a reading is of. -/
def Reading.key (reading : Reading) : ItemKey where
  device := reading.device
  item := reading.item

/-- The last of some readings that is of a data item. -/
def Reading.last? (key : ItemKey) (readings : List Reading) : Option Reading :=
  readings.reverse.find? fun reading => decide (reading.key = key)

theorem Reading.last?_append
    (key : ItemKey)
    (early late : List Reading) :
    last? key (early ++ late) = (last? key late).or (last? key early) := by
  unfold last?
  rw [List.reverse_append, List.find?_append]

theorem Reading.last?_eq_none
    {key : ItemKey}
    {readings : List Reading} :
    last? key readings = none ↔
      ∀ reading ∈ readings, reading.key ≠ key := by
  simp [last?]

/-- If some reading is of a data item, one is the last. -/
theorem Reading.exists_last?
    {key : ItemKey}
    {readings : List Reading}
    (reported : ∃ reading ∈ readings, reading.key = key) :
    ∃ reading, last? key readings = some reading := by
  obtain ⟨reading, member, sameKey⟩ := reported
  cases last : last? key readings with
  | none => exact absurd sameKey (last?_eq_none.mp last reading member)
  | some found => exact ⟨found, rfl⟩

theorem Reading.key_of_last?
    {key : ItemKey}
    {readings : List Reading}
    {reading : Reading}
    (last : last? key readings = some reading) :
    reading.key = key := by
  simpa using List.find?_some last

theorem Reading.mem_of_last?
    {key : ItemKey}
    {readings : List Reading}
    {reading : Reading}
    (last : last? key readings = some reading) :
    reading ∈ readings :=
  List.mem_reverse.mp (List.mem_of_find?_eq_some last)

/-- The last reading of a data item in some batches is the last one of a batch. -/
theorem Reading.exists_last?_of_flatMap
    {batches : List String}
    {readings : String → List Reading}
    {key : ItemKey}
    {reading : Reading}
    (last : last? key (batches.flatMap readings) = some reading) :
    ∃ batch ∈ batches, last? key (readings batch) = some reading := by
  induction batches with
  | nil => cases last
  | cons batch rest inductionHypothesis =>
      rw [List.flatMap_cons, last?_append] at last
      rcases Option.or_eq_some_iff.mp last with inRest | ⟨_, inFirst⟩
      · obtain ⟨later, member, found⟩ := inductionHypothesis inRest
        exact ⟨later, List.mem_cons_of_mem batch member, found⟩
      · exact ⟨batch, List.mem_cons_self, inFirst⟩

namespace ObservationLog

/-- What becomes of readings that are logged one after the other. -/
def accepted (log : ObservationLog) : List Reading → List Observation
  | [] => []
  | reading :: rest =>
      match log.append reading with
      | .error _ => log.accepted rest
      | .ok (sequence, after) =>
          reading.numbered sequence :: after.accepted rest

/-- What becomes of two runs of readings, one after the other. -/
theorem accepted_append
    (log : ObservationLog)
    (early late : List Reading) :
    log.accepted (early ++ late) =
      log.accepted early ++ (log.offerAll early).accepted late := by
  induction early generalizing log with
  | nil => rfl
  | cons reading rest inductionHypothesis =>
      have offered :
          log.offerAll (reading :: rest) = (log.offer reading).offerAll rest :=
        rfl
      rw [offered, List.cons_append]
      cases appended : log.append reading with
      | error fault =>
          simp only [accepted, offer, appended]
          exact inductionHypothesis log
      | ok outcome =>
          simp only [accepted, offer, appended, List.cons_append]
          rw [inductionHypothesis outcome.2]

/-- Once the numbers are used up nothing is accepted. -/
theorem accepted_of_exhausted
    {log : ObservationLog}
    (exhausted : Word.top ≤ log.next)
    (readings : List Reading) :
    log.accepted readings = [] := by
  induction readings with
  | nil => rfl
  | cons reading rest inductionHypothesis =>
      simp only [accepted, append_of_le exhausted, inductionHypothesis]

/-- Once the numbers are used up, readings change nothing. -/
theorem offerAll_of_exhausted
    {log : ObservationLog}
    (exhausted : Word.top ≤ log.next)
    (readings : List Reading) :
    log.offerAll readings = log := by
  induction readings with
  | nil => rfl
  | cons reading rest inductionHypothesis =>
      have refused : log.offer reading = log := by
        simp only [offer, append_of_le exhausted]
      have offered :
          log.offerAll (reading :: rest) = (log.offer reading).offerAll rest :=
        rfl
      rw [offered, refused, inductionHypothesis]

namespace Represents

variable {log : ObservationLog} {history : History}

/-- What a log accepts is added to the history. -/
theorem entries_offerAll
    (represents : log.Represents history)
    (readings : List Reading) :
    (history.offerAll readings).entries =
      history.entries ++ log.accepted readings := by
  induction readings generalizing log history with
  | nil => simp [accepted, History.offerAll]
  | cons reading rest inductionHypothesis =>
      have offered :
          history.offerAll (reading :: rest) =
            (history.offer reading).offerAll rest :=
        rfl
      rw [offered]
      by_cases below : log.next < Word.top
      · obtain ⟨after, appended, extended, _⟩ := represents.append below reading
        rw [represents.next_eq] at below
        simp only [accepted, appended, History.offer, below, if_true]
        rw [inductionHypothesis extended, History.entries_extend,
          represents.next_eq, List.append_assoc]
        rfl
      · have exhausted := append_of_le (Nat.not_lt.mp below) reading
        rw [represents.next_eq] at below
        simp only [accepted, exhausted, History.offer, below, if_false]
        exact inductionHypothesis represents

/-- Every number that is handed out goes to one accepted observation. -/
theorem next_offerAll
    (represents : log.Represents history)
    (readings : List Reading) :
    (log.offerAll readings).next =
      log.next + (log.accepted readings).length := by
  rw [(represents.offerAll readings).next_eq, represents.next_eq,
    History.next, History.next, represents.entries_offerAll readings,
    List.length_append, History.origin_offerAll, Nat.add_assoc]

end Represents

variable {log : ObservationLog}

/-- The numbers that are left are enough for some readings. -/
def HasNumbersFor (log : ObservationLog) (readings : List Reading) : Prop :=
  log.next + readings.length ≤ Word.top

instance (log : ObservationLog) (readings : List Reading) :
    Decidable (log.HasNumbersFor readings) :=
  inferInstanceAs (Decidable (log.next + readings.length ≤ Word.top))

theorem next_offer_of_lt
    (below : log.next < Word.top)
    (reading : Reading) :
    (log.offer reading).next = log.next + 1 := by
  simp only [offer, append_of_lt below]
  exact congrArg SequenceCounter.next (trim_frame _).2.1

theorem latest_offer_of_lt
    (below : log.next < Word.top)
    (reading : Reading) :
    (log.offer reading).latest =
      log.latest.insert reading.key (reading.numbered log.next) := by
  simp only [offer, append_of_lt below]
  exact (trim_frame _).2.2.1

theorem accepted_cons_of_lt
    (below : log.next < Word.top)
    (reading : Reading)
    (rest : List Reading) :
    log.accepted (reading :: rest) =
      reading.numbered log.next :: (log.offer reading).accepted rest := by
  simp only [accepted, offer, append_of_lt below]

/-- Readings never take numbers back. -/
theorem le_next_offerAll (log : ObservationLog) (readings : List Reading) :
    log.next ≤ (log.offerAll readings).next := by
  induction readings generalizing log with
  | nil => exact Nat.le_refl _
  | cons reading rest inductionHypothesis =>
      have later := inductionHypothesis (log.offer reading)
      rcases Nat.lt_or_ge log.next Word.top with below | exhausted
      · rw [next_offer_of_lt below] at later
        exact Nat.le_of_succ_le later
      · exact Nat.le_of_eq (congrArg next (offerAll_of_exhausted exhausted _)).symm

/-- With a number left, something that is offered is accepted. -/
theorem lt_next_offerAll
    {readings : List Reading}
    (below : log.next < Word.top)
    (offered : readings ≠ []) :
    log.next < (log.offerAll readings).next := by
  cases readings with
  | nil => exact absurd rfl offered
  | cons reading rest =>
      have later := (log.offer reading).le_next_offerAll rest
      rw [next_offer_of_lt below] at later
      exact later

/-- Readings of other data items do not change which observation is the newest. -/
theorem latest_of_others
    {readings : List Reading}
    {key : ItemKey}
    (others : ∀ reading ∈ readings, reading.key ≠ key) :
    (log.offerAll readings).latest.find? key = log.latest.find? key := by
  induction readings generalizing log with
  | nil => rfl
  | cons first rest inductionHypothesis =>
      have restOthers : ∀ reading ∈ rest, reading.key ≠ key := by
        intro reading inRest
        exact others reading (List.mem_cons_of_mem first inRest)
      have restLeaves :
          ((log.offer first).offerAll rest).latest.find? key =
            (log.offer first).latest.find? key :=
        inductionHypothesis restOthers
      refine restLeaves.trans ?_
      by_cases below : log.next < Word.top
      · have differs : ¬ compare key first.key = .eq := by
          intro same
          exact others first List.mem_cons_self
            (Std.LawfulEqCmp.eq_of_compare same).symm
        rw [latest_offer_of_lt below, SortedMap.find?_insert, if_neg differs]
      · simp only [offer, append_of_le (Nat.not_lt.mp below)]

namespace HasNumbersFor

variable {early late : List Reading}

/-- Numbers for some readings leave one for the first. -/
theorem lt_top
    {reading : Reading}
    {rest : List Reading}
    (numbers : log.HasNumbersFor (reading :: rest)) :
    log.next < Word.top := by
  unfold HasNumbersFor at numbers
  rw [List.length_cons] at numbers
  omega

/-- Numbers for some readings leave numbers for the others after the first. -/
theorem offer
    {reading : Reading}
    {rest : List Reading}
    (numbers : log.HasNumbersFor (reading :: rest)) :
    (log.offer reading).HasNumbersFor rest := by
  have oneMore := next_offer_of_lt numbers.lt_top reading
  unfold HasNumbersFor at numbers ⊢
  rw [List.length_cons] at numbers
  omega

theorem left (numbers : log.HasNumbersFor (early ++ late)) :
    log.HasNumbersFor early := by
  unfold HasNumbersFor at numbers ⊢
  rw [List.length_append] at numbers
  omega

/-- Readings with numbers left use up one each. -/
theorem next_offerAll
    {readings : List Reading}
    (numbers : log.HasNumbersFor readings) :
    (log.offerAll readings).next = log.next + readings.length := by
  induction readings generalizing log with
  | nil => rfl
  | cons reading rest inductionHypothesis =>
      refine (inductionHypothesis numbers.offer).trans ?_
      rw [next_offer_of_lt numbers.lt_top, List.length_cons]
      omega

/-- The order of the readings does not matter. -/
theorem perm
    {readings others : List Reading}
    (numbers : log.HasNumbersFor readings)
    (rearranged : readings.Perm others) :
    log.HasNumbersFor others := by
  unfold HasNumbersFor at numbers ⊢
  rwa [← rearranged.length_eq]

/-- What is logged first leaves enough for what comes after it. -/
theorem offerAll (numbers : log.HasNumbersFor (early ++ late)) :
    (log.offerAll early).HasNumbersFor late := by
  unfold HasNumbersFor
  rw [numbers.left.next_offerAll]
  unfold HasNumbersFor at numbers
  rw [List.length_append] at numbers
  omega

/-- Each reading is accepted. -/
theorem mem_accepted
    {readings : List Reading}
    (numbers : log.HasNumbersFor readings)
    {reading : Reading}
    (member : reading ∈ readings) :
    ∃ sequence,
      log.next ≤ sequence ∧
        reading.numbered sequence ∈ log.accepted readings := by
  induction readings generalizing log with
  | nil => cases member
  | cons first rest inductionHypothesis =>
      have oneMore := next_offer_of_lt numbers.lt_top first
      have later := numbers.offer
      rw [accepted_cons_of_lt numbers.lt_top]
      rcases List.mem_cons.mp member with isFirst | inRest
      · subst isFirst
        exact ⟨log.next, Nat.le_refl _, List.mem_cons_self⟩
      · obtain ⟨sequence, above, inLater⟩ := inductionHypothesis later inRest
        exact ⟨sequence, by omega, List.mem_cons_of_mem _ inLater⟩

/-- The values of the readings are logged as they are. -/
theorem map_values_accepted
    {readings : List Reading}
    (numbers : log.HasNumbersFor readings) :
    (log.accepted readings).map Observation.values =
      readings.map Reading.values := by
  induction readings generalizing log with
  | nil => rfl
  | cons first rest inductionHypothesis =>
      rw [accepted_cons_of_lt numbers.lt_top, List.map_cons, List.map_cons,
        inductionHypothesis numbers.offer]
      rfl

/-- The newest observation of a data item is the last reading of it. -/
theorem exists_latest
    {readings : List Reading}
    (numbers : log.HasNumbersFor readings)
    {key : ItemKey}
    {reading : Reading}
    (last : Reading.last? key readings = some reading) :
    ∃ sequence,
      (log.offerAll readings).latest.find? key =
        some (reading.numbered sequence) := by
  induction readings generalizing log with
  | nil => cases last
  | cons first rest inductionHypothesis =>
      have later := numbers.offer
      rw [← List.singleton_append, Reading.last?_append] at last
      cases inRest : Reading.last? key rest with
      | some other =>
          rw [inRest] at last
          cases last
          exact inductionHypothesis later inRest
      | none =>
          rw [inRest, Option.none_or] at last
          have isFirst :=
            List.mem_singleton.mp (Reading.mem_of_last? last)
          have firstKey := Reading.key_of_last? last
          rw [isFirst] at firstKey ⊢
          refine ⟨log.next, ?_⟩
          have restLeaves :
              ((log.offer first).offerAll rest).latest.find? key =
                (log.offer first).latest.find? key :=
            latest_of_others (Reading.last?_eq_none.mp inRest)
          refine restLeaves.trans ?_
          rw [latest_offer_of_lt numbers.lt_top, firstKey,
            SortedMap.find?_insert, if_pos Std.ReflCmp.compare_self]

end HasNumbersFor

end ObservationLog

end MTConnect
