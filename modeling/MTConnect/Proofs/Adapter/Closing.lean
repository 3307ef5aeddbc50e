import Mathlib.Data.List.Dedup
import Mathlib.Data.List.Perm.Basic
import MTConnect.Proofs.Adapter.Intake

namespace MTConnect

/-!
# The end of a feed

A feed that ends marks every device that it reported on unavailable. The
devices may be visited in any order: it does not change how many observations
are logged, that the data items are unavailable at the end, or since when.
Which entry says so may depend on it, since two devices can mark one data item
under keys that give it different categories.
-/

/-- An order in which to visit some devices, each of them once. -/
structure Visits (order devices : List String) : Prop where
  nodup : order.Nodup
  mem_iff : ∀ device, device ∈ order ↔ device ∈ devices

namespace Visits

variable {order other devices : List String}

theorem perm
    (visits : Visits order devices)
    (alsoVisits : Visits other devices) :
    order.Perm other := by
  rw [List.perm_ext_iff_of_nodup visits.nodup alsoVisits.nodup]
  intro device
  rw [visits.mem_iff, alsoVisits.mem_iff]

theorem dedup (devices : List String) : Visits devices.dedup devices where
  nodup := devices.nodup_dedup
  mem_iff := fun _ => List.mem_dedup

/-- Any of the devices can be the last one. -/
theorem exists_last
    {device : String}
    (member : device ∈ devices) :
    ∃ before, Visits (before ++ [device]) devices := by
  have inDedup := List.mem_dedup.mpr member
  have moved :
      (devices.dedup.erase device ++ [device]).Perm devices.dedup :=
    (List.perm_append_singleton device _).trans
      (List.perm_cons_erase inDedup).symm
  refine ⟨devices.dedup.erase device, ?_, ?_⟩
  · exact moved.nodup_iff.mpr devices.nodup_dedup
  · intro key
    rw [moved.mem_iff, List.mem_dedup]

end Visits

namespace Agent

/-- The device keys of the records of a feed, one for each record that is written. -/
def fedDevices (agent : Agent) (bytes : List UInt8) : List String :=
  (agent.takePieces (Feed.pieces bytes)).1

/-- The agent when all pieces of a feed have been taken. -/
def fed (agent : Agent) (bytes : List UInt8) : Agent :=
  (agent.takePieces (Feed.pieces bytes)).2

/-- The agent at the end of a feed, if its devices are visited in an order. -/
def closedIn
    (agent : Agent)
    (bytes : List UInt8)
    (order : List String) :
    Agent :=
  Feed.close (agent.fed bytes) agent.clock order

/-- What visiting devices at the end of a feed is logged as. -/
def closingMarks (agent : Agent) (order : List String) : List Reading :=
  order.flatMap (agent.catalog.deviceMarks agent.clock)

/-- Everything that a feed is logged as, in one of the orders. -/
def feedReadings (agent : Agent) (bytes : List UInt8) : List Reading :=
  (Feed.pieces bytes).flatMap (agent.catalog.pieceReadings agent.clock) ++
    agent.closingMarks (agent.fedDevices bytes).dedup

/-- The last marks that the devices of a feed set on a data item are in the same entry. -/
def MarkedAlike
    (agent : Agent)
    (bytes : List UInt8)
    (key : ItemKey) :
    Prop :=
  ∀ device ∈ agent.fedDevices bytes,
    ∀ other ∈ agent.fedDevices bytes,
      ∀ mark otherMark,
        Reading.last? key
            (agent.catalog.deviceMarks agent.clock device) =
          some mark →
        Reading.last? key
            (agent.catalog.deviceMarks agent.clock other) =
          some otherMark →
        mark.category.markKey = otherMark.category.markKey

/-- What the bytes of a connection do to an agent. -/
structure Ingests (agent : Agent) (bytes : List UInt8) : Prop where
  /-- The pieces are the lines and an unended rest if there is one. -/
  cut :
    ∃ lines tail,
      Feed.Lines bytes lines tail ∧
        Feed.pieces bytes = if tail.isEmpty then lines else lines ++ [tail]
  /-- The pieces are taken in order, however the bytes arrive. -/
  outcome :
    ∀ chunks : List (List UInt8),
      (∀ chunk ∈ chunks, chunk ≠ []) →
      chunks.flatten = bytes →
      ∃ order,
        Visits order (agent.fedDevices bytes) ∧
          agent.ingest (chunks.map .bytes) =
            (.ok (agent.fedDevices bytes).length,
              agent.closedIn bytes order)
  /-- Every data item of a device that was reported on ends up unavailable. -/
  unavailable :
    ∀ order,
      Visits order (agent.fedDevices bytes) →
      ∀ deviceKey ∈ agent.fedDevices bytes,
        ∀ device,
          agent.catalog.device? deviceKey = some device →
          ∀ item ∈ device.dataItems,
            ∀ address,
              agent.catalog.resolve device.uuid item.id = .ok address →
              ∃ observation,
                (agent.closedIn bytes order).log.latest.find?
                    ⟨address.device, address.item⟩ =
                    some observation ∧
                  observation.isUnavailable = true ∧
                  observation.timestamp = agent.clock
  /-- As many observations are logged in any order. -/
  appended :
    ∀ order,
      Visits order (agent.fedDevices bytes) →
      (agent.closedIn bytes order).log.next =
        agent.log.next + (agent.feedReadings bytes).length
  /-- The newest observations have the same times in any order. -/
  timestamps :
    ∀ order other,
      Visits order (agent.fedDevices bytes) →
      Visits other (agent.fedDevices bytes) →
      ∀ key,
        ((agent.closedIn bytes order).log.latest.find? key).map
            Observation.timestamp =
          ((agent.closedIn bytes other).log.latest.find? key).map
            Observation.timestamp
  /-- They have the same values in any order exactly if they are marked alike. -/
  values_iff :
    ∀ key,
      (∀ order other,
        Visits order (agent.fedDevices bytes) →
        Visits other (agent.fedDevices bytes) →
        ((agent.closedIn bytes order).log.latest.find? key).map
            Observation.values =
          ((agent.closedIn bytes other).log.latest.find? key).map
            Observation.values) ↔
        agent.MarkedAlike bytes key
  /-- They always are if the identifiers are unique. -/
  markedAlike :
    (agent.catalog.devices.map Device.uuid).Nodup →
    (∀ device ∈ agent.catalog.devices,
      (device.dataItems.map DataItem.id).Nodup) →
    ∀ key, agent.MarkedAlike bytes key

/--
To close a feed offers the marks of the visited devices, one device after the other.
-/
theorem close_wrote
    (agent : Agent)
    (now : Timestamp)
    (devices : List String) :
    agent.Wrote
      (devices.flatMap (agent.catalog.deviceMarks now))
      (Feed.close agent now devices) := by
  induction devices generalizing agent with
  | nil => exact .refl agent
  | cons device rest inductionHypothesis =>
      have first := agent.markDeviceUnavailable_wrote device now
      have later := inductionHypothesis (agent.markDeviceUnavailable device now).2
      rw [first.catalog_eq] at later
      exact first.trans later

theorem closingMarks_perm
    (agent : Agent)
    {order other devices : List String}
    (visits : Visits order devices)
    (alsoVisits : Visits other devices) :
    (agent.closingMarks order).Perm (agent.closingMarks other) :=
  (visits.perm alsoVisits).flatMap_right _

/-- The mark of a data item that closing in an order leaves as its newest observation. -/
structure Leaves
    (agent : Agent)
    (bytes : List UInt8)
    (order : List String)
    (key : ItemKey)
    (mark : Reading) :
    Prop where
  newest :
    ∃ sequence,
      (agent.closedIn bytes order).log.latest.find? key =
        some (mark.numbered sequence)
  last :
    ∃ device ∈ agent.fedDevices bytes,
      Reading.last? key (agent.catalog.deviceMarks agent.clock device) =
        some mark

/-- What closing leaves on a data item is a mark of the time of the feed. -/
theorem Leaves.isMark
    {agent : Agent}
    {bytes : List UInt8}
    {order : List String}
    {key : ItemKey}
    {mark : Reading}
    (leaves : agent.Leaves bytes order key mark) :
    mark.IsMark agent.clock := by
  obtain ⟨_, _, last⟩ := leaves.last
  exact Catalog.isMark_of_mem_deviceMarks (Reading.mem_of_last? last)

variable {agent : Agent} {bytes : List UInt8}

section

variable (numbers : agent.log.HasNumbersFor (agent.feedReadings bytes))

include numbers

theorem fed_took :
    agent.Took
      ((Feed.pieces bytes).flatMap
        (agent.catalog.pieceReadings agent.clock))
      (agent.fed bytes) :=
  takePieces_took numbers.left

/-- A feed that arrives in chunks takes its pieces and then closes in some order. -/
theorem ingest_eq
    {chunks : List (List UInt8)}
    (filled : ∀ chunk ∈ chunks, chunk ≠ [])
    (joined : chunks.flatten = bytes) :
    ∃ order,
      Visits order (agent.fedDevices bytes) ∧
        agent.ingest (chunks.map .bytes) =
          (.ok (agent.fedDevices bytes).length,
            agent.closedIn bytes order) := by
  have begun : Feed.lineFeed ∉ ([] : List UInt8) := List.not_mem_nil
  have taken := Feed.takeChunks_eq { agent := agent } begun filled
  rw [List.nil_append, joined] at taken
  have fromPieces :=
    Feed.takeAll_eq { agent := agent } numbers.left
  -- The order in which the devices were first reported on is one of the orders.
  refine
    ⟨((agent.fedDevices bytes).foldl Feed.note
      { agent := agent.fed bytes }).reported, ?_, ?_⟩
  · refine ⟨Feed.nodup_reported_foldl_note List.nodup_nil _, ?_⟩
    intro device
    rw [Feed.mem_reported_foldl_note]
    simp
  · unfold ingest
    rw [taken, fromPieces]
    dsimp only
    rw [Feed.agent_foldl_note, Feed.applied_foldl_note, Nat.zero_add]
    rfl

theorem log_closedIn (order : List String) :
    (agent.closedIn bytes order).log =
      (agent.fed bytes).log.offerAll (agent.closingMarks order) := by
  have took := fed_took numbers
  have wrote := (agent.fed bytes).close_wrote agent.clock order
  rw [took.wrote.catalog_eq] at wrote
  exact wrote.log_eq

variable
  {order : List String}
  (visits : Visits order (agent.fedDevices bytes))

include visits

/-- The numbers suffice for closing in any order. -/
theorem hasNumbersFor_closingMarks :
    (agent.fed bytes).log.HasNumbersFor (agent.closingMarks order) := by
  have inSomeOrder := (fed_took numbers).wrote.hasNumbersFor numbers
  exact
    inSomeOrder.perm
      (agent.closingMarks_perm (Visits.dedup _) visits)

/-- In every order a feed uses up the same numbers. -/
theorem next_closedIn :
    (agent.closedIn bytes order).log.next =
      agent.log.next + (agent.feedReadings bytes).length := by
  have left := hasNumbersFor_closingMarks numbers visits
  have rearranged :=
    agent.closingMarks_perm visits (Visits.dedup (agent.fedDevices bytes))
  rw [log_closedIn numbers order, left.next_offerAll,
    (fed_took numbers).wrote.log_eq, numbers.left.next_offerAll,
    rearranged.length_eq, feedReadings, List.length_append, Nat.add_assoc]

/-- The last mark of a data item is the one that stays. -/
theorem leaves_of_last?
    {key : ItemKey}
    {mark : Reading}
    (last : Reading.last? key (agent.closingMarks order) = some mark) :
    agent.Leaves bytes order key mark where
  newest := by
    rw [log_closedIn numbers order]
    exact (hasNumbersFor_closingMarks numbers visits).exists_latest last
  last := by
    obtain ⟨device, visited, lastOfDevice⟩ :=
      Reading.exists_last?_of_flatMap last
    exact ⟨device, (visits.mem_iff device).mp visited, lastOfDevice⟩

/-- A marked data item is left with one of its marks. -/
theorem exists_leaves
    {key : ItemKey}
    (marked : ∃ mark ∈ agent.closingMarks order, mark.key = key) :
    ∃ mark, agent.Leaves bytes order key mark := by
  obtain ⟨mark, last⟩ := Reading.exists_last? marked
  exact ⟨mark, leaves_of_last? numbers visits last⟩

/-- A reported device has its data items unavailable, in whatever order it is closed. -/
theorem unavailable_closedIn
    {deviceKey : String}
    (reported : deviceKey ∈ agent.fedDevices bytes)
    {device : Device}
    (found : agent.catalog.device? deviceKey = some device)
    {item : DataItem}
    (member : item ∈ device.dataItems)
    {address : ItemAddress}
    (resolved :
      agent.catalog.resolve device.uuid item.id = .ok address) :
    ∃ observation,
      (agent.closedIn bytes order).log.latest.find?
          ⟨address.device, address.item⟩ =
          some observation ∧
        observation.isUnavailable = true ∧
        observation.timestamp = agent.clock := by
  have visited := (visits.mem_iff deviceKey).mpr reported
  have inDevice :=
    Catalog.mark_mem_deviceMarks found member resolved agent.clock
  have inMarks : address.mark agent.clock ∈ agent.closingMarks order :=
    List.mem_flatMap.mpr ⟨deviceKey, visited, inDevice⟩
  obtain ⟨mark, leaves⟩ :=
    exists_leaves numbers visits ⟨_, inMarks, rfl⟩
  obtain ⟨sequence, newest⟩ := leaves.newest
  exact
    ⟨mark.numbered sequence, newest, leaves.isMark.isUnavailable sequence,
      leaves.isMark.timestamp_eq⟩

variable
  {other : List String}
  (alsoVisits : Visits other (agent.fedDevices bytes))

include alsoVisits

/-- In two orders a data item is left alone, or it is marked in both. -/
theorem latest_closedIn_cases (key : ItemKey) :
    (agent.closedIn bytes order).log.latest.find? key =
        (agent.closedIn bytes other).log.latest.find? key ∨
      ∃ mark otherMark,
        agent.Leaves bytes order key mark ∧
          agent.Leaves bytes other key otherMark := by
  have rearranged := agent.closingMarks_perm visits alsoVisits
  by_cases marked : ∃ mark ∈ agent.closingMarks order, mark.key = key
  · right
    obtain ⟨mark, leaves⟩ := exists_leaves numbers visits marked
    obtain ⟨any, inMarks, sameKey⟩ := marked
    obtain ⟨otherMark, otherLeaves⟩ :=
      exists_leaves numbers alsoVisits
        ⟨any, rearranged.mem_iff.mp inMarks, sameKey⟩
    exact ⟨mark, otherMark, leaves, otherLeaves⟩
  · left
    have others :
        ∀ mark ∈ agent.closingMarks order, mark.key ≠ key := by
      intro mark inMarks sameKey
      exact marked ⟨mark, inMarks, sameKey⟩
    have othersToo :
        ∀ mark ∈ agent.closingMarks other, mark.key ≠ key := by
      intro mark inMarks
      exact others mark (rearranged.mem_iff.mpr inMarks)
    rw [log_closedIn numbers order, log_closedIn numbers other,
      ObservationLog.latest_of_others others,
      ObservationLog.latest_of_others othersToo]

/-- The time of the newest observation does not depend on the order. -/
theorem timestamps_closedIn (key : ItemKey) :
    ((agent.closedIn bytes order).log.latest.find? key).map
        Observation.timestamp =
      ((agent.closedIn bytes other).log.latest.find? key).map
        Observation.timestamp := by
  rcases latest_closedIn_cases numbers visits alsoVisits key with
    same | ⟨mark, otherMark, leaves, otherLeaves⟩
  · rw [same]
  · obtain ⟨_, newest⟩ := leaves.newest
    obtain ⟨_, otherNewest⟩ := otherLeaves.newest
    rw [newest, otherNewest]
    exact
      congrArg some
        (leaves.isMark.timestamp_eq.trans
          otherLeaves.isMark.timestamp_eq.symm)

/-- Where the devices mark alike, the newest values do not depend on the order. -/
theorem values_closedIn
    {key : ItemKey}
    (alike : agent.MarkedAlike bytes key) :
    ((agent.closedIn bytes order).log.latest.find? key).map
        Observation.values =
      ((agent.closedIn bytes other).log.latest.find? key).map
        Observation.values := by
  rcases latest_closedIn_cases numbers visits alsoVisits key with
    same | ⟨mark, otherMark, leaves, otherLeaves⟩
  · rw [same]
  · obtain ⟨_, newest⟩ := leaves.newest
    obtain ⟨_, otherNewest⟩ := otherLeaves.newest
    obtain ⟨device, reported, last⟩ := leaves.last
    obtain ⟨otherDevice, otherReported, otherLast⟩ := otherLeaves.last
    have sameEntry :=
      alike device reported otherDevice otherReported mark otherMark last
        otherLast
    have sameValues : mark.values = otherMark.values := by
      rw [leaves.isMark.values_eq, otherLeaves.isMark.values_eq]
      exact (Category.unavailableValues_eq_iff _ _).mpr sameEntry
    rw [newest, otherNewest]
    exact congrArg some sameValues

end

/-- Whichever device is visited last decides on the entry of what it marks. -/
theorem exists_visits_leaving
    (numbers : agent.log.HasNumbersFor (agent.feedReadings bytes))
    {device : String}
    (member : device ∈ agent.fedDevices bytes)
    {key : ItemKey}
    {mark : Reading}
    (last :
      Reading.last? key (agent.catalog.deviceMarks agent.clock device) =
        some mark) :
    ∃ order,
      Visits order (agent.fedDevices bytes) ∧
        agent.Leaves bytes order key mark := by
  obtain ⟨before, visits⟩ := Visits.exists_last member
  refine ⟨before ++ [device], visits, leaves_of_last? numbers visits ?_⟩
  unfold closingMarks
  rw [List.flatMap_append, Reading.last?_append, List.flatMap_singleton,
    last]
  rfl

/-- Only there do the newest values not depend on the order. -/
theorem markedAlike_of_values
    (numbers : agent.log.HasNumbersFor (agent.feedReadings bytes))
    {key : ItemKey}
    (same :
      ∀ order other,
        Visits order (agent.fedDevices bytes) →
        Visits other (agent.fedDevices bytes) →
        ((agent.closedIn bytes order).log.latest.find? key).map
            Observation.values =
          ((agent.closedIn bytes other).log.latest.find? key).map
            Observation.values) :
    agent.MarkedAlike bytes key := by
  intro device reported otherDevice otherReported mark otherMark last otherLast
  obtain ⟨order, visits, leaves⟩ :=
    exists_visits_leaving numbers reported last
  obtain ⟨other, alsoVisits, otherLeaves⟩ :=
    exists_visits_leaving numbers otherReported otherLast
  obtain ⟨_, newest⟩ := leaves.newest
  obtain ⟨_, otherNewest⟩ := otherLeaves.newest
  have sameValues := same order other visits alsoVisits
  rw [newest, otherNewest] at sameValues
  rw [← Category.unavailableValues_eq_iff, ← leaves.isMark.values_eq,
    ← otherLeaves.isMark.values_eq]
  exact Option.some.inj sameValues

/-- If no identifier is used twice, the devices mark alike everywhere. -/
theorem markedAlike_of_distinct
    (distinct : (agent.catalog.devices.map Device.uuid).Nodup)
    (distinctItems :
      ∀ device ∈ agent.catalog.devices,
        (device.dataItems.map DataItem.id).Nodup)
    (key : ItemKey) :
    agent.MarkedAlike bytes key := by
  intro device _ otherDevice _ mark otherMark last otherLast
  have sameKey : mark.key = otherMark.key :=
    (Reading.key_of_last? last).trans (Reading.key_of_last? otherLast).symm
  exact
    congrArg Category.markKey
      (Catalog.category_eq_of_mem_deviceMarks distinct distinctItems
        (Reading.mem_of_last? last) (Reading.mem_of_last? otherLast) sameKey)

end Agent

/-- Two devices whose identifiers lead back. -/
def Catalog.workshop : Catalog where
  devices :=
    [{ uuid := "mill"
       name := "press"
       dataItems :=
         [{ id := "x", category := .sample, kind := "POSITION" },
          { id := "s", category := .condition, kind := "SYSTEM" }] },
     { uuid := "lathe"
       name := "turn"
       dataItems :=
         [{ id := "x", category := .event, kind := "EXECUTION" }] }]

/-- Two records, the second one unended, and between them what is skipped. -/
def Feed.session : List UInt8 :=
  Text.Utf8.encode
      "[\"observation\",\"press\",\"x\",\"7\"]\r\n\nnoise\n".toList ++
    [0xFF, lineFeed] ++
    Text.Utf8.encode "[\"unavailable\",\"lathe\",null,null]".toList

example :
    (Agent.start { catalog := .workshop } ⟨5⟩).fedDevices Feed.session =
      ["press", "lathe"] := by
  decide +kernel

/--
Two devices that mark one data item: the first one under its identifier, as a
sample, and the second one under a name that is found in the first device, as a
condition.
-/
def Catalog.entangled : Catalog where
  devices :=
    [{ uuid := "a"
       name := "b"
       dataItems :=
         [{ id := "x", category := .sample, kind := "POSITION" },
          { id := "x", name := some "y", category := .condition,
            kind := "SYSTEM" }] },
     { uuid := "b"
       name := "c"
       dataItems :=
         [{ id := "y", category := .condition, kind := "SYSTEM" }] }]

/-- Records of both devices. -/
def Feed.bothEntangled : List UInt8 :=
  Text.Utf8.encode
    "[\"unavailable\",\"a\",null,null]\n[\"unavailable\",\"c\",null,null]\n".toList

end MTConnect
