import MTConnect.Proofs.Adapter.Intake
import MTConnect.Proofs.Agent.Idling

namespace MTConnect

/-!
# Lines that are passed over

A line that is no record, or an observation without values, is rejected. A
record of a device or a data item that the catalog does not know is accepted
and dropped. Neither leaves a trace in the agent. Conversely a line is passed
over only if it stores no asset, and if it has nothing to log or finds the
sequence numbers used up; and only this last case, which ends the feed, is told
by a fault that is not about the text of the line. So the lines that are passed
over can be left out of a feed.
-/

/-- Why a line can be written to no agent. -/
inductive Unfit (line : List Char) : AdapterFault → Prop
  | noRecord
      (filled : (Text.trim line).isEmpty = false)
      (unread : AdapterRecord.read? (Text.trim line) = none) :
      Unfit line .malformed
  | noValue
      {device item : String}
      {values : Values}
      {timestamp? : Option Timestamp}
      (read :
        AdapterRecord.read? (Text.trim line) =
          some (.observation device item none values timestamp?))
      (valueless : values.isEmpty = true) :
      Unfit line (.agent (.invalidRequest (.noValue device item)))

namespace Catalog

/-- Whether a record is about a device or a data item that is not known. -/
def misses (catalog : Catalog) : AdapterRecord → Bool
  | .observation device item .. => !(catalog.resolve device item).isOk
  | .unavailable device (some item) _ => !(catalog.resolve device item).isOk
  | .unavailable device none _ => (catalog.device? device).isNone
  | .asset device .. => (catalog.device? device).isNone

/-- Whether a record is about an asset of a known device. -/
def stores (catalog : Catalog) : AdapterRecord → Bool
  | .asset device .. => (catalog.device? device).isSome
  | _ => false

/-- Whether a line is a record that stores an asset. -/
def lineStores (catalog : Catalog) (line : List Char) : Bool :=
  (AdapterRecord.read? (Text.trim line)).any catalog.stores

/-- Whether a line has nothing to write. -/
def idles (catalog : Catalog) (now : Timestamp) (line : List Char) : Bool :=
  !catalog.lineStores line && (catalog.lineReadings now line).isEmpty

/-- Whether a piece is a line that has something to write. -/
def heeds (catalog : Catalog) (now : Timestamp) (piece : List UInt8) : Bool :=
  (Text.Utf8.decode? piece).any fun line => !catalog.idles now line

/-- Under unknown keys nothing is logged. -/
theorem readings_of_unresolved
    {catalog : Catalog}
    {deviceKey itemKey : String}
    (unresolved : (catalog.resolve deviceKey itemKey).isOk = false)
    (values : Category → Values)
    (timestamp : Timestamp) :
    catalog.readings deviceKey itemKey values timestamp = [] := by
  unfold readings
  split
  next => rfl
  next address resolved =>
    rw [resolved] at unresolved
    cases unresolved

/-- A record of something unknown is logged as nothing. -/
theorem recordReadings_of_misses
    {catalog : Catalog}
    {record : AdapterRecord}
    (missed : catalog.misses record = true)
    (now : Timestamp) :
    catalog.recordReadings now record = [] := by
  unfold misses at missed
  cases record with
  | observation device item value? values timestamp? =>
      rw [Bool.not_eq_true'] at missed
      have nothing := readings_of_unresolved missed
      unfold recordReadings
      dsimp only
      split
      next => rfl
      next => exact nothing _ _
  | unavailable device item? timestamp? =>
      cases item? with
      | none =>
          have unknown := Option.isNone_iff_eq_none.mp missed
          simp only [recordReadings, deviceMarks, unknown]
      | some item =>
          rw [Bool.not_eq_true'] at missed
          exact readings_of_unresolved missed _ _
  | asset device id kind payload removed timestamp? =>
      have unknown := Option.isNone_iff_eq_none.mp missed
      simp only [recordReadings, assetReadings, unknown]

/-- A record that misses its device stores no asset. -/
theorem stores_of_misses
    {catalog : Catalog}
    {record : AdapterRecord}
    (missed : catalog.misses record = true) :
    catalog.stores record = false := by
  cases record with
  | observation => rfl
  | unavailable => rfl
  | asset device id kind payload removed timestamp? =>
      have unknown := Option.isNone_iff_eq_none.mp missed
      simp only [stores, unknown, Option.isSome_none]

/-- A line that is a record is not blank. -/
theorem isEmpty_trim_of_read
    {line : List Char}
    {record : AdapterRecord}
    (read : AdapterRecord.read? (Text.trim line) = some record) :
    (Text.trim line).isEmpty = false := by
  cases text : Text.trim line with
  | nil =>
      rw [text] at read
      cases read
  | cons first rest => rfl

/-- A line that is a record is logged as the record. -/
theorem lineReadings_of_record
    {line : List Char}
    {record : AdapterRecord}
    (read : AdapterRecord.read? (Text.trim line) = some record)
    (catalog : Catalog)
    (now : Timestamp) :
    catalog.lineReadings now line = catalog.recordReadings now record := by
  unfold lineReadings
  simp only [isEmpty_trim_of_read read, Bool.false_eq_true, if_false, read]

/-- A line that is no record is logged as nothing. -/
theorem lineReadings_of_unread
    {line : List Char}
    (unread : AdapterRecord.read? (Text.trim line) = none)
    (catalog : Catalog)
    (now : Timestamp) :
    catalog.lineReadings now line = [] := by
  unfold lineReadings
  dsimp only
  split
  next => rfl
  next => simp only [unread]

theorem idles_iff {catalog : Catalog} {now : Timestamp} {line : List Char} :
    catalog.idles now line = true ↔
      catalog.lineStores line = false ∧ catalog.lineReadings now line = [] := by
  rw [idles, Bool.and_eq_true, Bool.not_eq_true', List.isEmpty_iff]

/-- What is no record has nothing to write. -/
theorem idles_of_unread
    {line : List Char}
    (unread : AdapterRecord.read? (Text.trim line) = none)
    (catalog : Catalog)
    (now : Timestamp) :
    catalog.idles now line = true := by
  refine idles_iff.mpr ⟨?_, lineReadings_of_unread unread catalog now⟩
  rw [lineStores, unread, Option.any_none]

/-- A record that stores no asset and is logged as nothing makes its line idle. -/
theorem idles_of_record
    {catalog : Catalog}
    {now : Timestamp}
    {line : List Char}
    {record : AdapterRecord}
    (read : AdapterRecord.read? (Text.trim line) = some record)
    (noAsset : catalog.stores record = false)
    (nothing : catalog.recordReadings now record = []) :
    catalog.idles now line = true := by
  refine idles_iff.mpr ⟨?_, ?_⟩
  · rw [lineStores, read, Option.any_some, noAsset]
  · rw [lineReadings_of_record read, nothing]

end Catalog

namespace Agent

/-! ## Records -/

/-- The value of the short form is one of the values. -/
theorem recordValues_isEmpty
    (value? : Option String)
    (values : Values) :
    (recordValues value? values).isEmpty = true ↔
      value? = none ∧ values.isEmpty = true := by
  cases value? with
  | none => simp [recordValues]
  | some value =>
      have stored := SortedMap.find?_insert values valueKey valueKey value
      rw [if_pos Std.ReflCmp.compare_self] at stored
      constructor
      · intro empty
        have noEntries : (values.insert valueKey value).entries = [] :=
          List.isEmpty_iff.mp empty
        rw [SortedMap.find?, noEntries] at stored
        cases stored
      · rintro ⟨noValue, _⟩
        cases noValue

/-- Without values an observation changes nothing. -/
theorem applyRecord_of_valueless
    {values : Values}
    (valueless : values.isEmpty = true)
    (agent : Agent)
    (device item : String)
    (timestamp? : Option Timestamp) :
    agent.applyRecord (.observation device item none values timestamp?) =
        (.error (.invalidRequest (.noValue device item)), agent) ∧
      agent.catalog.recordReadings agent.clock
          (.observation device item none values timestamp?) =
        [] := by
  have empty := (recordValues_isEmpty none values).mpr ⟨rfl, valueless⟩
  unfold applyRecord Catalog.recordReadings
  simp only [empty, if_true, and_self]

/-- Any other record stores an asset or does nothing but log. -/
theorem applyRecord_onlyLogs
    {agent : Agent}
    {record : AdapterRecord}
    (noAsset : agent.catalog.stores record = false)
    (valued :
      ∀ device item values timestamp?,
        record = .observation device item none values timestamp? →
        values.isEmpty = false) :
    agent.OnlyLogs
      (agent.catalog.recordReadings agent.clock record)
      (agent.applyRecord record) := by
  cases record with
  | observation device item value? values timestamp? =>
      have filled : ¬ (recordValues value? values).isEmpty = true := by
        rw [recordValues_isEmpty]
        rintro ⟨rfl, valueless⟩
        rw [valued device item values timestamp? rfl] at valueless
        cases valueless
      unfold applyRecord Catalog.recordReadings
      simp only [if_neg filled]
      exact (agent.append_onlyLogs device item _ _ _).map fun _ => ()
  | unavailable device item? timestamp? =>
      cases item? with
      | none =>
          exact (agent.markDeviceUnavailable_onlyLogs device _).map fun _ => ()
      | some item =>
          exact (agent.append_onlyLogs device item _ _ _).map fun _ => ()
  | asset device id kind payload removed timestamp? =>
      have unknown : agent.catalog.device? device = none := by
        simpa [Catalog.stores] using noAsset
      unfold applyRecord Catalog.recordReadings Catalog.assetReadings
        upsertAsset
      simp only [unknown]
      exact .nothing agent ()

/-! ## Lines -/

/-- What it takes for a line to be passed over, and that it leaves no trace then. -/
structure PassesOver (agent : Agent) (line : List Char) : Prop where
  /-- The faults that do not end a feed are those of unfit lines. -/
  rejected_iff :
    ∀ fault,
      (agent.takeLine line).1 = .error fault ∧ fault.isFatal = false ↔
        Unfit line fault
  rejected :
    ∀ fault, Unfit line fault → (agent.takeLine line).2 = agent
  /-- A record of something unknown is dropped unless it is rejected. -/
  dropped :
    ∀ record,
      AdapterRecord.read? (Text.trim line) = some record →
      agent.catalog.misses record = true →
      (∃ fault, Unfit line fault) ∨
        agent.takeLine line = (.ok (some record.device), agent)
  idles :
    (∃ fault, Unfit line fault) ∨
        (∃ record,
          AdapterRecord.read? (Text.trim line) = some record ∧
            agent.catalog.misses record = true) →
      agent.catalog.idles agent.clock line = true
  /-- These are the lines that leave no trace. -/
  unchanged_iff :
    (agent.takeLine line).2 = agent ↔
      agent.catalog.lineStores line = false ∧
        (agent.catalog.lineReadings agent.clock line = [] ∨
          Word.top ≤ agent.log.next)

/-- A feed does the same to an agent without the pieces that have nothing to write. -/
structure HeedsOnly (agent : Agent) (pieces : List (List UInt8)) : Prop where
  fault_eq :
    (Feed.takeAll { agent := agent }
        (pieces.filter (agent.catalog.heeds agent.clock))).1 =
      (Feed.takeAll { agent := agent } pieces).1
  agent_eq :
    (Feed.takeAll { agent := agent }
        (pieces.filter (agent.catalog.heeds agent.clock))).2.agent =
      (Feed.takeAll { agent := agent } pieces).2.agent

/-- A line that is a record is taken as the record is applied. -/
theorem takeLine_of_record
    {agent : Agent}
    {line : List Char}
    {record : AdapterRecord}
    (read : AdapterRecord.read? (Text.trim line) = some record) :
    agent.takeLine line =
      (match (agent.applyRecord record).1 with
        | .error fault => .error (.agent fault)
        | .ok () => .ok (some record.device),
        (agent.applyRecord record).2) := by
  unfold takeLine
  simp only [Catalog.isEmpty_trim_of_read read, Bool.false_eq_true, if_false,
    read]
  split <;> next outcome => rw [outcome]

/-- A line that is no record leaves no trace. -/
theorem takeLine_of_unread
    {agent : Agent}
    {line : List Char}
    (unread : AdapterRecord.read? (Text.trim line) = none) :
    agent.takeLine line =
      (if (Text.trim line).isEmpty then .ok none else .error .malformed,
        agent) := by
  unfold takeLine
  dsimp only
  split
  next => rfl
  next => simp only [unread]

/-- An unfit line is rejected with its fault, and the agent stays as it is. -/
theorem takeLine_of_unfit
    {line : List Char}
    {fault : AdapterFault}
    (unfit : Unfit line fault)
    (agent : Agent) :
    agent.takeLine line = (.error fault, agent) := by
  cases unfit with
  | noRecord filled unread =>
      rw [takeLine_of_unread unread, filled]
      rfl
  | noValue read valueless =>
      rw [takeLine_of_record read,
        (applyRecord_of_valueless valueless agent _ _ _).1]

/-- An unfit line is idle. -/
theorem idles_of_unfit
    {line : List Char}
    {fault : AdapterFault}
    (unfit : Unfit line fault)
    (agent : Agent) :
    agent.catalog.idles agent.clock line = true := by
  cases unfit with
  | noRecord filled unread => exact Catalog.idles_of_unread unread _ _
  | noValue read valueless =>
      exact
        Catalog.idles_of_record read rfl
          (applyRecord_of_valueless valueless agent _ _ _).2

/-- A record that stores no asset is unfit, or it does nothing but log. -/
theorem unfit_or_onlyLogs
    {agent : Agent}
    {line : List Char}
    {record : AdapterRecord}
    (read : AdapterRecord.read? (Text.trim line) = some record)
    (noAsset : agent.catalog.stores record = false) :
    (∃ fault, Unfit line fault) ∨
      agent.OnlyLogs
        (agent.catalog.recordReadings agent.clock record)
        (agent.applyRecord record) := by
  by_cases unfit : ∃ fault, Unfit line fault
  · exact Or.inl unfit
  · refine Or.inr (applyRecord_onlyLogs noAsset ?_)
    rintro device item values timestamp? rfl
    rw [← Bool.not_eq_true]
    intro valueless
    exact unfit ⟨_, .noValue read valueless⟩

/--
A record that stores an asset changes the agent, and fails only for want of numbers.
-/
theorem applyRecord_of_stores
    {agent : Agent}
    {record : AdapterRecord}
    (storesAsset : agent.catalog.stores record = true) :
    (agent.applyRecord record).2 ≠ agent ∧
      ∀ fault,
        (agent.applyRecord record).1 = .error fault →
        fault = .sequenceExhausted := by
  cases record with
  | observation => cases storesAsset
  | unavailable => cases storesAsset
  | asset device id kind payload removed timestamp? =>
      obtain ⟨found, known⟩ := Option.isSome_iff_exists.mp storesAsset
      obtain ⟨changed, faults⟩ :=
        upsertAsset_of_known known id kind payload removed
          (timestamp?.getD agent.clock)
      refine ⟨changed, ?_⟩
      intro fault failed
      apply faults fault
      cases outcome :
          (agent.upsertAsset device id kind payload removed
            (timestamp?.getD agent.clock)).1 with
      | error original =>
          simp only [applyRecord, withoutResult, AdapterRecord.timestamp?,
            outcome] at failed
          exact congrArg _ (Except.error.inj failed)
      | ok stored =>
          simp only [applyRecord, withoutResult, AdapterRecord.timestamp?,
            outcome] at failed
          cases failed

/-- The faults of lines that are not unfit end the feed. -/
theorem unfit_of_takeLine_error
    {agent : Agent}
    {line : List Char}
    {fault : AdapterFault}
    (failed : (agent.takeLine line).1 = .error fault)
    (mild : fault.isFatal = false) :
    Unfit line fault := by
  cases read : AdapterRecord.read? (Text.trim line) with
  | none =>
      rw [takeLine_of_unread read] at failed
      cases blank : (Text.trim line).isEmpty with
      | true =>
          rw [blank] at failed
          cases failed
      | false =>
          rw [blank] at failed
          cases failed
          exact .noRecord blank read
  | some record =>
      -- An agent's fault that is left over is the exhaustion of the numbers.
      have onlyUnfit
          (exhausted :
            ∀ cause,
              (agent.applyRecord record).1 = .error cause →
              cause = .sequenceExhausted) :
          Unfit line fault := by
        rw [takeLine_of_record read] at failed
        cases outcome : (agent.applyRecord record).1 with
        | error cause =>
            rw [outcome, exhausted cause outcome] at failed
            cases failed
            cases mild
        | ok result =>
            rw [outcome] at failed
            cases failed
      cases storesAsset : agent.catalog.stores record with
      | true => exact onlyUnfit (applyRecord_of_stores storesAsset).2
      | false =>
          rcases unfit_or_onlyLogs read storesAsset with ⟨cause, unfit⟩ | logs
          · rw [takeLine_of_unfit unfit] at failed
            cases failed
            exact unfit
          · exact
              onlyUnfit fun cause failure => (logs.fault_eq cause failure).1

/-- A line that has nothing to write does not fail fatally, and leaves no trace. -/
theorem takeLine_of_idles
    {agent : Agent}
    {line : List Char}
    (idles : agent.catalog.idles agent.clock line = true) :
    (agent.takeLine line).2 = agent ∧
      ∀ fault,
        (agent.takeLine line).1 = .error fault →
        fault.isFatal = false := by
  obtain ⟨noAsset, nothing⟩ := Catalog.idles_iff.mp idles
  cases read : AdapterRecord.read? (Text.trim line) with
  | none =>
      rw [takeLine_of_unread read]
      refine ⟨rfl, ?_⟩
      intro fault failed
      split at failed
      next => cases failed
      next =>
        cases failed
        rfl
  | some record =>
      rw [Catalog.lineReadings_of_record read] at nothing
      rw [Catalog.lineStores, read, Option.any_some] at noAsset
      rcases unfit_or_onlyLogs read noAsset with ⟨cause, unfit⟩ | logs
      · rw [takeLine_of_unfit unfit]
        refine ⟨rfl, ?_⟩
        rintro _ ⟨⟩
        cases unfit <;> rfl
      · rw [takeLine_of_record read]
        refine ⟨logs.unchanged (Or.inl nothing), ?_⟩
        intro fault failed
        dsimp only at failed
        split at failed
        next cause outcome =>
          exact absurd nothing (logs.fault_eq cause outcome).2
        next => cases failed

/--
A line leaves an agent as it is if it stores no asset and nothing of it can be logged.
-/
theorem takeLine_unchanged_iff (agent : Agent) (line : List Char) :
    (agent.takeLine line).2 = agent ↔
      agent.catalog.lineStores line = false ∧
        (agent.catalog.lineReadings agent.clock line = [] ∨
          Word.top ≤ agent.log.next) := by
  constructor
  · intro same
    constructor
    · rw [← Bool.not_eq_true]
      intro storesAsset
      obtain ⟨record, read, storesIt⟩ :=
        (Option.any_eq_true _ _).mp storesAsset
      rw [takeLine_of_record read] at same
      exact (applyRecord_of_stores storesIt).1 same
    · -- Otherwise the next sequence number would have grown.
      by_contra busy
      obtain ⟨offered, below⟩ := not_or.mp busy
      have grown :=
        ObservationLog.lt_next_offerAll (Nat.not_le.mp below) offered
      rw [← (agent.takeLine_took line).wrote.log_eq, same] at grown
      exact Nat.lt_irrefl _ grown
  · rintro ⟨noAsset, nothing | exhausted⟩
    · exact
        (takeLine_of_idles (Catalog.idles_iff.mpr ⟨noAsset, nothing⟩)).1
    · cases read : AdapterRecord.read? (Text.trim line) with
      | none => rw [takeLine_of_unread read]
      | some record =>
          rw [Catalog.lineStores, read, Option.any_some] at noAsset
          rcases unfit_or_onlyLogs read noAsset with ⟨cause, unfit⟩ | logs
          · rw [takeLine_of_unfit unfit]
          · rw [takeLine_of_record read]
            exact logs.unchanged (Or.inr exhausted)

/-- What is rejected or dropped has nothing to write, and so it changes nothing. -/
theorem passesOver (agent : Agent) (line : List Char) :
    agent.PassesOver line where
  rejected_iff := by
    intro fault
    constructor
    · rintro ⟨failed, mild⟩
      exact unfit_of_takeLine_error failed mild
    · intro unfit
      rw [takeLine_of_unfit unfit]
      cases unfit <;> exact ⟨rfl, rfl⟩
  rejected := by
    intro fault unfit
    rw [takeLine_of_unfit unfit]
  dropped := by
    intro record read missed
    have nothing := Catalog.recordReadings_of_misses missed agent.clock
    have noAsset := Catalog.stores_of_misses missed
    rcases unfit_or_onlyLogs read noAsset with unfit | logs
    · exact Or.inl unfit
    · right
      rw [takeLine_of_record read, logs.unchanged (Or.inl nothing)]
      cases outcome : (agent.applyRecord record).1 with
      | error cause => exact absurd nothing (logs.fault_eq cause outcome).2
      | ok result => rfl
  idles := by
    rintro (⟨fault, unfit⟩ | ⟨record, read, missed⟩)
    · exact idles_of_unfit unfit agent
    · exact
        Catalog.idles_of_record read (Catalog.stores_of_misses missed)
          (Catalog.recordReadings_of_misses missed agent.clock)
  unchanged_iff := agent.takeLine_unchanged_iff line

end Agent

namespace Feed

/-! ## Feeds -/

/-- What a feed has reported on so far does not change what a piece does. -/
theorem takeBytes_congr
    {feed other : Feed}
    (same : other.agent = feed.agent)
    (piece : List UInt8) :
    (other.takeBytes piece).1 = (feed.takeBytes piece).1 ∧
      (other.takeBytes piece).2.agent = (feed.takeBytes piece).2.agent := by
  unfold takeBytes
  rw [same]
  split
  next => exact ⟨rfl, same⟩
  next => split <;> exact ⟨rfl, rfl⟩

/-- A piece that has nothing to write ends no feed and leaves the agent alone. -/
theorem takeBytes_of_unheeded
    {feed : Feed}
    {piece : List UInt8}
    (unheeded :
      feed.agent.catalog.heeds feed.agent.clock piece = false) :
    (feed.takeBytes piece).1 = none ∧
      (feed.takeBytes piece).2.agent = feed.agent := by
  unfold Catalog.heeds at unheeded
  unfold takeBytes
  cases decoded : Text.Utf8.decode? piece with
  | none => exact ⟨rfl, rfl⟩
  | some line =>
      rw [decoded, Option.any_some, Bool.not_eq_false'] at unheeded
      obtain ⟨sameAgent, mild⟩ := Agent.takeLine_of_idles unheeded
      dsimp only
      cases outcome : feed.agent.takeLine line with
      | mk answer after =>
          rw [outcome] at sameAgent mild
          cases answer with
          | ok device? => cases device? <;> exact ⟨rfl, sameAgent⟩
          | error fault =>
              refine ⟨?_, sameAgent⟩
              dsimp only
              rw [mild fault rfl]
              rfl

/-- No piece changes the devices or the clock. -/
theorem takeBytes_keeps
    (feed : Feed)
    (piece : List UInt8) :
    (feed.takeBytes piece).2.agent.catalog = feed.agent.catalog ∧
      (feed.takeBytes piece).2.agent.clock = feed.agent.clock := by
  unfold takeBytes
  split
  next => exact ⟨rfl, rfl⟩
  next line _ =>
    have took := feed.agent.takeLine_took line
    split <;> next outcome =>
      rw [outcome] at took
      exact ⟨took.wrote.catalog_eq, took.clock_eq⟩

/-- A feed without the pieces that it passes over does the same to the agent. -/
theorem takeAll_heeded
    {feed other : Feed}
    (same : other.agent = feed.agent)
    (pieces : List (List UInt8)) :
    (other.takeAll
          (pieces.filter
            (feed.agent.catalog.heeds feed.agent.clock))).1 =
        (feed.takeAll pieces).1 ∧
      (other.takeAll
          (pieces.filter
            (feed.agent.catalog.heeds feed.agent.clock))).2.agent =
        (feed.takeAll pieces).2.agent := by
  induction pieces generalizing feed other with
  | nil => exact ⟨rfl, same⟩
  | cons piece rest inductionHypothesis =>
      obtain ⟨sameCatalog, sameClock⟩ := feed.takeBytes_keeps piece
      rw [List.filter_cons]
      cases heeded : feed.agent.catalog.heeds feed.agent.clock piece with
      | false =>
          obtain ⟨noFault, sameAgent⟩ := takeBytes_of_unheeded heeded
          have later := inductionHypothesis (same.trans sameAgent.symm)
          rw [sameCatalog, sameClock] at later
          rw [takeAll]
          cases outcome : feed.takeBytes piece with
          | mk fault? after =>
              rw [outcome] at noFault later
              cases noFault
              exact later
      | true =>
          obtain ⟨sameFault, sameAgent⟩ := takeBytes_congr same piece
          have later := inductionHypothesis sameAgent
          rw [sameCatalog, sameClock] at later
          rw [if_pos rfl, takeAll, takeAll]
          cases outcome : feed.takeBytes piece with
          | mk fault? after =>
              cases otherOutcome : other.takeBytes piece with
              | mk otherFault? otherAfter =>
                  rw [outcome, otherOutcome] at sameFault sameAgent later
                  cases sameFault
                  cases fault? with
                  | none => exact later
                  | some fault => exact ⟨rfl, sameAgent⟩

end Feed

/-- A line that is rejected or dropped leaves no trace, neither alone nor in a feed. -/
theorem Agent.lines_passed_over (agent : Agent) :
    (∀ line, agent.PassesOver line) ∧ ∀ pieces, agent.HeedsOnly pieces := by
  refine ⟨agent.passesOver, ?_⟩
  intro pieces
  obtain ⟨sameFault, sameAgent⟩ :=
    Feed.takeAll_heeded (rfl : Feed.agent { agent := agent } = agent) pieces
  exact ⟨sameFault, sameAgent⟩

end MTConnect
