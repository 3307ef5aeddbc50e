import MTConnect.Agent.Writes
import MTConnect.Proofs.Activity.Counting
import MTConnect.Proofs.Observation.Acceptance

namespace MTConnect

/-!
# Commands and the readings that they report

Everything that changes an agent is a command: the writes, a reset, and what
happens to the clock. A command reports readings: those that it offers to the
log, in order. Each write comes down to offering its readings and counting
those that the log accepts, whatever else it does, so that the log of an agent
can be followed without looking at the shelf.
-/

namespace Catalog

/-- What the values of a data item are logged as; nothing if the keys are unknown. -/
def readings
    (catalog : Catalog)
    (deviceKey itemKey : String)
    (values : Category → Values)
    (timestamp : Timestamp) :
    List Reading :=
  match catalog.resolve deviceKey itemKey with
  | .error _ => []
  | .ok address =>
      [{ device := address.device
         item := address.item
         category := address.category
         timestamp := timestamp
         values := values address.category }]

/-- What marking a data item unavailable is logged as. -/
def markReadings
    (catalog : Catalog)
    (deviceKey itemKey : String)
    (timestamp : Timestamp) :
    List Reading :=
  catalog.readings deviceKey itemKey Category.unavailableValues timestamp

/-- What announcing an asset on a device is logged as. -/
def announceReadings
    (catalog : Catalog)
    (device : Device)
    (kind assetId : String)
    (timestamp : Timestamp) :
    List Reading :=
  match device.itemOfKind? kind with
  | none => []
  | some item =>
      catalog.readings device.uuid item.id
        (fun _ => .singleton valueKey assetId) timestamp

/-- What announcing a removed asset on its device is logged as. -/
def removalReadings
    (catalog : Catalog)
    (timestamp : Timestamp)
    (asset : Asset) :
    List Reading :=
  match catalog.device? asset.device with
  | none => []
  | some device =>
      catalog.announceReadings device Agent.assetRemovedKind asset.id timestamp

end Catalog

namespace Agent

/-- What an agent can be told to do. -/
inductive Command where
  | append (deviceKey itemKey : String) (values : Values) (timestamp : Timestamp)
  | markUnavailable (deviceKey itemKey : String) (timestamp : Timestamp)
  | markDeviceUnavailable (deviceKey : String) (timestamp : Timestamp)
  | upsertAsset
      (deviceKey assetId kind payload : String)
      (removed : Bool)
      (timestamp : Timestamp)
  | removeAsset (assetId : String) (timestamp : Timestamp)
  | removeAllAssets (kind? deviceKey? : Option String) (timestamp : Timestamp)
  | reset
  | setClock (now : Timestamp)
  | advanceClock (millis : Nat)
  | tick
  deriving Repr, DecidableEq, Inhabited

/-- Carry out a command. -/
def perform (agent : Agent) : Command → Agent
  | .append deviceKey itemKey values timestamp =>
      (agent.append deviceKey itemKey values timestamp).2
  | .markUnavailable deviceKey itemKey timestamp =>
      (agent.markUnavailable deviceKey itemKey timestamp).2
  | .markDeviceUnavailable deviceKey timestamp =>
      (agent.markDeviceUnavailable deviceKey timestamp).2
  | .upsertAsset deviceKey assetId kind payload removed timestamp =>
      (agent.upsertAsset deviceKey assetId kind payload removed timestamp).2
  | .removeAsset assetId timestamp => (agent.removeAsset assetId timestamp).2
  | .removeAllAssets kind? deviceKey? timestamp =>
      (agent.removeAllAssets kind? deviceKey? timestamp).2
  | .reset => agent.reset
  | .setClock now => agent.setClock now
  | .advanceClock millis => agent.advanceClock millis
  | .tick => agent.tick

/-- The readings that a bulk removal announces. -/
def removeAllReadings
    (agent : Agent)
    (kind? device? : Option String)
    (timestamp : Timestamp) :
    List Reading :=
  (agent.assets.removeAll kind? device? timestamp).1.flatMap
    (agent.catalog.removalReadings timestamp)

/-- The readings that a command offers to the log, in order. -/
def reports (agent : Agent) : Command → List Reading
  | .append deviceKey itemKey values timestamp =>
      agent.catalog.readings deviceKey itemKey (fun _ => values) timestamp
  | .markUnavailable deviceKey itemKey timestamp =>
      agent.catalog.markReadings deviceKey itemKey timestamp
  | .markDeviceUnavailable deviceKey timestamp =>
      match agent.catalog.device? deviceKey with
      | none => []
      | some device =>
          device.dataItems.flatMap fun item =>
            agent.catalog.markReadings device.uuid item.id timestamp
  | .upsertAsset deviceKey assetId _ _ removed timestamp =>
      match agent.catalog.device? deviceKey with
      | none => []
      | some device =>
          agent.catalog.announceReadings device
            (if removed then assetRemovedKind else assetChangedKind)
            assetId timestamp
  | .removeAsset assetId timestamp =>
      match agent.assets.remove assetId timestamp with
      | .error _ => []
      | .ok (tombstone, _) => agent.catalog.removalReadings timestamp tombstone
  | .removeAllAssets kind? deviceKey? timestamp =>
      match deviceKey? with
      | none => agent.removeAllReadings kind? none timestamp
      | some key =>
          match agent.catalog.device? key with
          | none => []
          | some device =>
              agent.removeAllReadings kind? (some device.uuid) timestamp
  | .reset => []
  | .setClock _ => []
  | .advanceClock _ => []
  | .tick => []

/--
What a write does to an agent as far as observations go: it offers readings to
the log, counts what the log accepts, and leaves catalog, identity and limits
alone.
-/
structure Wrote (agent : Agent) (readings : List Reading) (after : Agent) : Prop where
  log_eq : after.log = agent.log.offerAll readings
  catalog_eq : after.catalog = agent.catalog
  identity_eq : after.identity = agent.identity
  limits_eq : after.limits = agent.limits
  devices_eq :
    after.monitor.devices =
      (agent.monitor.countAll (agent.log.accepted readings)).devices

namespace Wrote

/-- What leaves the log alone and counts no observations offers nothing. -/
theorem nothing
    (agent : Agent)
    (clock : Timestamp)
    (assets : AssetShelf)
    {monitor : ActivityMonitor}
    (sameCounts : monitor.devices = agent.monitor.devices) :
    agent.Wrote []
      { agent with clock := clock, assets := assets, monitor := monitor } :=
  ⟨rfl, rfl, rfl, rfl, sameCounts⟩

theorem refl (agent : Agent) : agent.Wrote [] agent :=
  nothing agent agent.clock agent.assets rfl

/-- Writes that follow each other wrote what they wrote, one after the other. -/
theorem trans
    {first second third : Agent}
    {early late : List Reading}
    (firstSecond : first.Wrote early second)
    (secondThird : second.Wrote late third) :
    first.Wrote (early ++ late) third where
  log_eq := by
    rw [secondThird.log_eq, firstSecond.log_eq]
    simp [ObservationLog.offerAll]
  catalog_eq := secondThird.catalog_eq.trans firstSecond.catalog_eq
  identity_eq := secondThird.identity_eq.trans firstSecond.identity_eq
  limits_eq := secondThird.limits_eq.trans firstSecond.limits_eq
  devices_eq := by
    rw [secondThird.devices_eq, firstSecond.log_eq,
      ObservationLog.accepted_append, ActivityMonitor.countAll_append]
    exact ActivityMonitor.devices_countAll_congr firstSecond.devices_eq _

/-- Once the numbers are used up, readings that are not offered make no difference. -/
theorem more_of_exhausted
    {agent after : Agent}
    {readings : List Reading}
    (wrote : agent.Wrote readings after)
    (exhausted : Word.top ≤ after.log.next)
    (unoffered : List Reading) :
    agent.Wrote (readings ++ unoffered) after := by
  have unchanged := ObservationLog.offerAll_of_exhausted exhausted unoffered
  refine ⟨?_, wrote.catalog_eq, wrote.identity_eq, wrote.limits_eq, ?_⟩
  · rw [wrote.log_eq] at unchanged ⊢
    simpa [ObservationLog.offerAll] using unchanged.symm
  · rw [ObservationLog.accepted_append, ← wrote.log_eq,
      ObservationLog.accepted_of_exhausted exhausted, List.append_nil]
    exact wrote.devices_eq

end Wrote

/-- To record a reading is to offer that one reading. -/
theorem record_wrote (agent : Agent) (reading : Reading) :
    agent.Wrote [reading] (agent.record reading).2 := by
  unfold record
  cases appended : agent.log.append reading with
  | error fault =>
      exact ⟨by simp [ObservationLog.offerAll, ObservationLog.offer, appended],
        rfl, rfl, rfl, by simp [ObservationLog.accepted, appended,
          ActivityMonitor.countAll]⟩
  | ok outcome =>
      exact ⟨by simp [ObservationLog.offerAll, ObservationLog.offer, appended],
        rfl, rfl, rfl, by simp [ObservationLog.accepted, appended,
          ActivityMonitor.countAll, Reading.numbered]⟩

/-- Logging fails only when the numbers are used up. -/
theorem exhausted_of_record_error
    {agent : Agent}
    {reading : Reading}
    {fault : Fault}
    (failed : (agent.record reading).1 = .error fault) :
    Word.top ≤ (agent.record reading).2.log.next := by
  by_cases below : agent.log.next < Word.top
  · simp [record, ObservationLog.append_of_lt below] at failed
  · simpa [record, ObservationLog.append_of_le (Nat.not_lt.mp below)] using
      Nat.not_lt.mp below

/-- An append offers its values as a reading, if its keys are known. -/
theorem append_wrote
    (agent : Agent)
    (deviceKey itemKey : String)
    (values : Category → Values)
    (timestamp : Timestamp)
    {given : Values}
    (agrees :
      ∀ address,
        agent.catalog.resolve deviceKey itemKey = .ok address →
        given = values address.category) :
    agent.Wrote
      (agent.catalog.readings deviceKey itemKey values timestamp)
      (agent.append deviceKey itemKey given timestamp).2 := by
  unfold append Catalog.readings
  cases resolved : agent.catalog.resolve deviceKey itemKey with
  | error fault => exact .refl agent
  | ok address =>
      rw [agrees address resolved]
      exact agent.record_wrote _

/-- An append fails only if the numbers are used up; unknown keys are no failure. -/
theorem exhausted_of_append_error
    {agent : Agent}
    {deviceKey itemKey : String}
    {values : Values}
    {timestamp : Timestamp}
    {fault : Fault}
    (failed :
      (agent.append deviceKey itemKey values timestamp).1 = .error fault) :
    Word.top ≤
      (agent.append deviceKey itemKey values timestamp).2.log.next := by
  unfold append at failed ⊢
  cases resolved : agent.catalog.resolve deviceKey itemKey with
  | error fault => simp [resolved] at failed
  | ok address =>
      simp only [resolved] at failed ⊢
      cases recorded : (agent.record _).1 with
      | error fault => exact exhausted_of_record_error recorded
      | ok sequence => simp [recorded, Except.map] at failed

/-- To mark a data item unavailable offers the mark of its category. -/
theorem markUnavailable_wrote
    (agent : Agent)
    (deviceKey itemKey : String)
    (timestamp : Timestamp) :
    agent.Wrote
      (agent.catalog.markReadings deviceKey itemKey timestamp)
      (agent.markUnavailable deviceKey itemKey timestamp).2 := by
  refine agent.append_wrote deviceKey itemKey
    Category.unavailableValues timestamp ?_
  intro address resolved
  simp [resolved]

/-- Marking goes on to the next data item, and stops only when the numbers are used up. -/
theorem markItems_wrote
    (agent : Agent)
    (device : String)
    (timestamp : Timestamp)
    (marked : Nat)
    (items : List DataItem) :
    agent.Wrote
      (items.flatMap fun item =>
        agent.catalog.markReadings device item.id timestamp)
      (agent.markItems device timestamp marked items).2 := by
  induction items generalizing agent marked with
  | nil => exact .refl agent
  | cons item rest inductionHypothesis =>
      have first := agent.markUnavailable_wrote device item.id timestamp
      rw [List.flatMap_cons, markItems]
      split
      next fault after outcome =>
        have exhausted :=
          exhausted_of_append_error (congrArg Prod.fst outcome)
        have afterEq := congrArg Prod.snd outcome
        rw [← afterEq]
        exact first.more_of_exhausted exhausted _
      next sequence? after outcome =>
        have afterEq :
            (agent.markUnavailable device item.id timestamp).2 = after :=
          congrArg Prod.snd outcome
        rw [afterEq] at first
        have later := inductionHypothesis after
          (marked + if sequence?.isSome then 1 else 0)
        rw [first.catalog_eq] at later
        exact first.trans later

/-- To announce an asset offers one reading, if the device has a data item of the kind. -/
theorem announce_wrote
    (agent : Agent)
    (device : Device)
    (kind assetId : String)
    (timestamp : Timestamp) :
    agent.Wrote
      (agent.catalog.announceReadings device kind assetId timestamp)
      (agent.announce device kind assetId timestamp).2 := by
  unfold announce Catalog.announceReadings
  cases device.itemOfKind? kind with
  | none => exact .refl agent
  | some item =>
      exact agent.append_wrote device.uuid item.id
        (fun _ => .singleton valueKey assetId) timestamp fun _ _ => rfl

/-- An announcement fails only if the numbers are used up. -/
theorem exhausted_of_announce_error
    {agent : Agent}
    {device : Device}
    {kind assetId : String}
    {timestamp : Timestamp}
    {fault : Fault}
    (failed :
      (agent.announce device kind assetId timestamp).1 = .error fault) :
    Word.top ≤
      (agent.announce device kind assetId timestamp).2.log.next := by
  unfold announce at failed ⊢
  cases found : device.itemOfKind? kind with
  | none => simp [found] at failed
  | some item =>
      simp only [found] at failed ⊢
      cases appended :
          (agent.append device.uuid item.id
            (.singleton valueKey assetId) timestamp).1 with
      | error fault => exact exhausted_of_append_error appended
      | ok sequence? => simp [appended, Except.map] at failed

/--
To report a removed asset offers one reading, if its device is known and declares such
an item.
-/
theorem reportRemoved_wrote
    (agent : Agent)
    (asset : Asset)
    (timestamp : Timestamp) :
    agent.Wrote
      (agent.catalog.removalReadings timestamp asset)
      (agent.reportRemoved asset timestamp).2 := by
  have counted :
      agent.Wrote []
        { agent with monitor := agent.monitor.countAsset asset.kind } :=
    .nothing agent agent.clock agent.assets rfl
  unfold reportRemoved Catalog.removalReadings
  cases found : agent.catalog.device? asset.device with
  | none => simpa only [found] using counted
  | some device =>
      simp only [found]
      exact counted.trans
        (announce_wrote _ device assetRemovedKind asset.id timestamp)

/-- The report of a removal fails only if the numbers are used up. -/
theorem exhausted_of_reportRemoved_error
    {agent : Agent}
    {asset : Asset}
    {timestamp : Timestamp}
    {fault : Fault}
    (failed : (agent.reportRemoved asset timestamp).1 = .error fault) :
    Word.top ≤ (agent.reportRemoved asset timestamp).2.log.next := by
  unfold reportRemoved at failed ⊢
  cases found : agent.catalog.device? asset.device with
  | none => simp [found] at failed
  | some device =>
      simp only [found] at failed ⊢
      exact exhausted_of_announce_error failed

/-- Announcing goes on to the next asset, and stops only when the numbers are used up. -/
theorem reportAllRemoved_wrote
    (agent : Agent)
    (timestamp : Timestamp)
    (assets : List Asset) :
    agent.Wrote
      (assets.flatMap (agent.catalog.removalReadings timestamp))
      (agent.reportAllRemoved timestamp assets).2 := by
  induction assets generalizing agent with
  | nil => exact .refl agent
  | cons asset rest inductionHypothesis =>
      have first := agent.reportRemoved_wrote asset timestamp
      rw [List.flatMap_cons, reportAllRemoved]
      split
      next fault after outcome =>
        have exhausted :=
          exhausted_of_reportRemoved_error (congrArg Prod.fst outcome)
        have afterEq := congrArg Prod.snd outcome
        rw [← afterEq]
        exact first.more_of_exhausted exhausted _
      next after outcome =>
        have afterEq :
            (agent.reportRemoved asset timestamp).2 = after :=
          congrArg Prod.snd outcome
        rw [afterEq] at first
        have later := inductionHypothesis after
        rw [first.catalog_eq] at later
        exact first.trans later

/-- A bulk removal offers one reading for each asset that it removes, in order. -/
theorem removeAllOf_wrote
    (agent : Agent)
    (kind? device? : Option String)
    (timestamp : Timestamp) :
    agent.Wrote
      (agent.removeAllReadings kind? device? timestamp)
      (agent.removeAllOf kind? device? timestamp).2 := by
  have shelved :
      agent.Wrote []
        { agent with
          assets := (agent.assets.removeAll kind? device? timestamp).2 } :=
    .nothing agent agent.clock _ rfl
  exact shelved.trans (reportAllRemoved_wrote _ timestamp _)

/-- An upsert offers the announcement of the asset that it stored. -/
theorem upsertAsset_wrote
    (agent : Agent)
    (deviceKey assetId kind payload : String)
    (removed : Bool)
    (timestamp : Timestamp) :
    agent.Wrote
      (agent.reports
        (.upsertAsset deviceKey assetId kind payload removed timestamp))
      (agent.upsertAsset deviceKey assetId kind payload removed timestamp).2 := by
  simp only [reports, upsertAsset]
  cases agent.catalog.device? deviceKey with
  | none => exact .refl agent
  | some device =>
      have shelved (asset : Asset) : agent.Wrote [] (agent.shelve asset) :=
        .nothing agent agent.clock _ rfl
      exact (shelved _).trans (announce_wrote _ device _ assetId timestamp)

/-- A removal offers the announcement of the asset that it found. -/
theorem removeAsset_wrote
    (agent : Agent)
    (assetId : String)
    (timestamp : Timestamp) :
    agent.Wrote
      (agent.reports (.removeAsset assetId timestamp))
      (agent.removeAsset assetId timestamp).2 := by
  simp only [reports, removeAsset]
  cases agent.assets.remove assetId timestamp with
  | error fault => exact .refl agent
  | ok outcome =>
      obtain ⟨tombstone, assets⟩ := outcome
      have shelved : agent.Wrote [] { agent with assets := assets } :=
        .nothing agent agent.clock assets rfl
      exact shelved.trans (reportRemoved_wrote _ tombstone timestamp)

/-- A bulk removal by keys offers what the removal by the device found offers. -/
theorem removeAllAssets_wrote
    (agent : Agent)
    (kind? deviceKey? : Option String)
    (timestamp : Timestamp) :
    agent.Wrote
      (agent.reports (.removeAllAssets kind? deviceKey? timestamp))
      (agent.removeAllAssets kind? deviceKey? timestamp).2 := by
  simp only [reports, removeAllAssets]
  cases deviceKey? with
  | none => exact agent.removeAllOf_wrote kind? none timestamp
  | some key =>
      cases found : agent.catalog.device? key with
      | none => simpa only [found] using Wrote.refl agent
      | some device =>
          simpa only [found] using
            agent.removeAllOf_wrote kind? (some device.uuid) timestamp

/-- To mark a device unavailable offers the marks of its data items, in their order. -/
theorem markDeviceUnavailable_wrote
    (agent : Agent)
    (deviceKey : String)
    (timestamp : Timestamp) :
    agent.Wrote
      (agent.reports (.markDeviceUnavailable deviceKey timestamp))
      (agent.markDeviceUnavailable deviceKey timestamp).2 := by
  simp only [reports, markDeviceUnavailable]
  cases agent.catalog.device? deviceKey with
  | none => exact .refl agent
  | some device =>
      exact agent.markItems_wrote device.uuid timestamp 0 device.dataItems

/-- What a write does not touch unless it is about an asset. -/
structure Keeps (agent after : Agent) : Prop where
  clock_eq : after.clock = agent.clock
  shelf_eq : after.assets = agent.assets
  kinds_eq : after.monitor.assets = agent.monitor.assets

/-- What two writes leave alone, both together leave alone. -/
theorem Keeps.trans
    {first second third : Agent}
    (firstSecond : first.Keeps second)
    (secondThird : second.Keeps third) :
    first.Keeps third where
  clock_eq := secondThird.clock_eq.trans firstSecond.clock_eq
  shelf_eq := secondThird.shelf_eq.trans firstSecond.shelf_eq
  kinds_eq := secondThird.kinds_eq.trans firstSecond.kinds_eq

/-- An append leaves the clock and the assets alone. -/
theorem append_keeps
    (agent : Agent)
    (deviceKey itemKey : String)
    (values : Values)
    (timestamp : Timestamp) :
    agent.Keeps (agent.append deviceKey itemKey values timestamp).2 := by
  unfold append record
  split
  next => exact ⟨rfl, rfl, rfl⟩
  next =>
    dsimp only
    split <;> exact ⟨rfl, rfl, rfl⟩

/-- Marks of data items leave the clock and the assets alone. -/
theorem markItems_keeps
    (agent : Agent)
    (device : String)
    (timestamp : Timestamp)
    (marked : Nat)
    (items : List DataItem) :
    agent.Keeps (agent.markItems device timestamp marked items).2 := by
  induction items generalizing agent marked with
  | nil => exact ⟨rfl, rfl, rfl⟩
  | cons item rest inductionHypothesis =>
      have first :
          agent.Keeps (agent.markUnavailable device item.id timestamp).2 :=
        agent.append_keeps device item.id _ timestamp
      rw [markItems]
      split
      next fault after outcome =>
        rw [outcome] at first
        exact first
      next sequence? after outcome =>
        rw [outcome] at first
        exact first.trans (inductionHypothesis after _)

/-- To mark a device unavailable leaves the clock and the assets alone. -/
theorem markDeviceUnavailable_keeps
    (agent : Agent)
    (deviceKey : String)
    (timestamp : Timestamp) :
    agent.Keeps (agent.markDeviceUnavailable deviceKey timestamp).2 := by
  unfold markDeviceUnavailable
  split
  next => exact ⟨rfl, rfl, rfl⟩
  next device _ => exact agent.markItems_keeps device.uuid timestamp 0 _

/-- An announcement leaves the clock and the assets alone. -/
theorem announce_keeps
    (agent : Agent)
    (device : Device)
    (kind assetId : String)
    (timestamp : Timestamp) :
    agent.Keeps (agent.announce device kind assetId timestamp).2 := by
  unfold announce
  split
  next => exact ⟨rfl, rfl, rfl⟩
  next item _ => exact agent.append_keeps device.uuid item.id _ timestamp

/-- Every command but a reset offers its readings to the log. -/
theorem perform_wrote
    (agent : Agent)
    {command : Command}
    (noReset : command ≠ .reset) :
    agent.Wrote (agent.reports command) (agent.perform command) := by
  cases command with
  | append deviceKey itemKey values timestamp =>
      exact agent.append_wrote deviceKey itemKey
        (fun _ => values) timestamp fun _ _ => rfl
  | markUnavailable deviceKey itemKey timestamp =>
      exact agent.markUnavailable_wrote deviceKey itemKey timestamp
  | markDeviceUnavailable deviceKey timestamp =>
      exact agent.markDeviceUnavailable_wrote deviceKey timestamp
  | upsertAsset deviceKey assetId kind payload removed timestamp =>
      exact agent.upsertAsset_wrote deviceKey assetId kind payload removed timestamp
  | removeAsset assetId timestamp =>
      exact agent.removeAsset_wrote assetId timestamp
  | removeAllAssets kind? deviceKey? timestamp =>
      exact agent.removeAllAssets_wrote kind? deviceKey? timestamp
  | reset => exact absurd rfl noReset
  | setClock now => exact .nothing agent now agent.assets rfl
  | advanceClock millis => exact .nothing agent _ agent.assets rfl
  | tick => exact .nothing agent agent.clock agent.assets rfl

end Agent

end MTConnect
