import Mathlib.Algebra.Order.BigOperators.Group.Finset
import MTConnect.Proofs.Adapter.Closing

namespace MTConnect

/-!
# Devices that are reported on under two keys

A feed remembers the device keys that it reported on, not the devices. A device
answers to its identifier and to its name, so a feed that used both of them
marks the device twice when it ends. It marks each device once exactly if none
that has something to mark was reported on under both keys.
-/

namespace Catalog

/-- What marking the data items of a device is logged as. -/
def marksOf (catalog : Catalog) (timestamp : Timestamp) (device : Device) : List Reading :=
  device.dataItems.flatMap fun item =>
    catalog.markReadings device.uuid item.id timestamp

/-- Unknown keys mark nothing, and every key of a device marks the same. -/
theorem length_flatMap_deviceMarks
    (catalog : Catalog)
    (timestamp : Timestamp)
    (keys : List String) :
    (keys.flatMap (catalog.deviceMarks timestamp)).length =
      ((keys.filterMap catalog.device?).map fun device =>
        (catalog.marksOf timestamp device).length).sum := by
  induction keys with
  | nil => rfl
  | cons key rest inductionHypothesis =>
      rw [List.flatMap_cons, List.length_append, inductionHypothesis,
        List.filterMap_cons]
      unfold deviceMarks
      cases catalog.device? key with
      | none => exact Nat.zero_add _
      | some device => rfl

/-- There are two keys of a device at most. -/
theorem countP_device?_le_two
    {keys : List String}
    (distinct : keys.Nodup)
    (catalog : Catalog)
    (device : Device) :
    (keys.countP fun key => catalog.device? key == some device) ≤ 2 := by
  have onlyKeys :
      (keys.filter fun key => catalog.device? key == some device) ⊆
        [device.uuid, device.name] := by
    intro key member
    have found := beq_iff_eq.mp (List.mem_filter.mp member).2
    have answers := answersTo_of_device? found
    unfold Device.answersTo at answers
    rw [Bool.or_eq_true, beq_iff_eq, beq_iff_eq] at answers
    rcases answers with isUuid | isName
    · exact isUuid ▸ List.mem_cons_self
    · exact isName ▸ List.mem_cons_of_mem _ List.mem_cons_self
  rw [List.countP_eq_length_filter]
  exact
    (List.subperm_of_subset (distinct.filter _) onlyKeys).length_le

end Catalog

namespace Agent

/-- The known devices that a feed reported on. -/
def reportedDevices (agent : Agent) (bytes : List UInt8) : Finset Device :=
  ((agent.fedDevices bytes).filterMap agent.catalog.device?).toFinset

/-- How many keys a feed used for a device. -/
def namings (agent : Agent) (bytes : List UInt8) (device : Device) : Nat :=
  (agent.fedDevices bytes).dedup.countP fun key =>
    agent.catalog.device? key == some device

/-- Device keys of which each known device that a feed reported on has one. -/
structure NamesEach (agent : Agent) (bytes : List UInt8) (once : List String) : Prop where
  nodup : (once.filterMap agent.catalog.device?).Nodup
  devices_eq :
    (once.filterMap agent.catalog.device?).toFinset =
      agent.reportedDevices bytes

/-- How often the end of a feed marks the devices that the feed reported on. -/
structure ClosesByKey (agent : Agent) (bytes : List UInt8) : Prop where
  /-- The order in which a connection visits its keys makes no difference. -/
  outcome :
    ∀ chunks : List (List UInt8),
      (∀ chunk ∈ chunks, chunk ≠ []) →
      chunks.flatten = bytes →
      ∃ order,
        Visits order (agent.fedDevices bytes) ∧
          (agent.ingest (chunks.map .bytes)).2 = agent.closedIn bytes order
  /-- Every device is marked once for each key that was used for it. -/
  appended :
    ∀ order,
      Visits order (agent.fedDevices bytes) →
      (agent.closedIn bytes order).log.next =
        (agent.fed bytes).log.next +
          ∑ device ∈ agent.reportedDevices bytes,
            agent.namings bytes device *
              (agent.catalog.marksOf agent.clock device).length
  one_or_two :
    ∀ device ∈ agent.reportedDevices bytes,
      agent.namings bytes device = 1 ∨ agent.namings bytes device = 2
  /-- The devices could be marked once each, -/
  namable : ∃ once, agent.NamesEach bytes once
  once :
    ∀ keys,
      agent.NamesEach bytes keys →
      (agent.closedIn bytes keys).log.next =
        (agent.fed bytes).log.next +
          ∑ device ∈ agent.reportedDevices bytes,
            (agent.catalog.marksOf agent.clock device).length
  /-- and they are if none that can be marked was named twice. -/
  once_iff :
    ∀ order keys,
      Visits order (agent.fedDevices bytes) →
      agent.NamesEach bytes keys →
      ((agent.closedIn bytes order).log.next =
          (agent.closedIn bytes keys).log.next ↔
        ∀ device ∈ agent.reportedDevices bytes,
          agent.namings bytes device = 2 →
          agent.catalog.marksOf agent.clock device = [])

variable {agent : Agent} {bytes : List UInt8}

theorem mem_reportedDevices {device : Device} :
    device ∈ agent.reportedDevices bytes ↔
      ∃ key ∈ agent.fedDevices bytes, agent.catalog.device? key = some device := by
  rw [reportedDevices, List.mem_toFinset, List.mem_filterMap]

/-- A device that is reported on is named by its identifier, its name or both. -/
theorem namings_eq_one_or_two
    {device : Device}
    (reported : device ∈ agent.reportedDevices bytes) :
    agent.namings bytes device = 1 ∨ agent.namings bytes device = 2 := by
  obtain ⟨key, member, found⟩ := mem_reportedDevices.mp reported
  have atLeastOne : 0 < agent.namings bytes device :=
    List.countP_pos_iff.mpr
      ⟨key, List.mem_dedup.mpr member, beq_iff_eq.mpr found⟩
  have atMostTwo : agent.namings bytes device ≤ 2 :=
    Catalog.countP_device?_le_two (List.nodup_dedup _) agent.catalog device
  omega

/-- Closing by keys sets at least the marks that closing by devices would. -/
theorem marks_le_namings_mul
    {device : Device}
    (reported : device ∈ agent.reportedDevices bytes)
    (marks : Nat) :
    marks ≤ agent.namings bytes device * marks := by
  rcases namings_eq_one_or_two reported with one | two
  · rw [one, Nat.one_mul]
  · rw [two, Nat.two_mul]
    exact Nat.le_add_left marks marks

/-- Some devices that are known under some keys can be named one by one. -/
theorem exists_namings
    (devices : List Device)
    (named : ∀ device ∈ devices, ∃ key, agent.catalog.device? key = some device) :
    ∃ keys : List String, keys.filterMap agent.catalog.device? = devices := by
  induction devices with
  | nil => exact ⟨[], rfl⟩
  | cons device rest inductionHypothesis =>
      rw [List.forall_mem_cons] at named
      obtain ⟨⟨key, found⟩, restNamed⟩ := named
      obtain ⟨keys, keysEq⟩ := inductionHypothesis restNamed
      refine ⟨key :: keys, ?_⟩
      rw [List.filterMap_cons, found, keysEq]

/-- Whatever keys a feed used, each device can be named once. -/
theorem exists_namesEach (agent : Agent) (bytes : List UInt8) :
    ∃ once, agent.NamesEach bytes once := by
  obtain ⟨once, devicesEq⟩ :=
    agent.exists_namings (agent.reportedDevices bytes).toList (by
      intro device member
      obtain ⟨key, _, found⟩ :=
        mem_reportedDevices.mp (Finset.mem_toList.mp member)
      exact ⟨key, found⟩)
  refine ⟨once, ?_, ?_⟩
  · rw [devicesEq]
    exact Finset.nodup_toList _
  · rw [devicesEq, Finset.toList_toFinset]

/-- If each device is named once, each sets its marks once. -/
theorem NamesEach.length_closingMarks
    {keys : List String}
    (names : agent.NamesEach bytes keys) :
    (agent.closingMarks keys).length =
      ∑ device ∈ agent.reportedDevices bytes,
        (agent.catalog.marksOf agent.clock device).length := by
  rw [closingMarks, Catalog.length_flatMap_deviceMarks, ← names.devices_eq,
    List.sum_toFinset _ names.nodup]

/-- By keys, each device sets its marks as often as it was named. -/
theorem length_closingMarks
    {order : List String}
    (visits : Visits order (agent.fedDevices bytes)) :
    (agent.closingMarks order).length =
      ∑ device ∈ agent.reportedDevices bytes,
        agent.namings bytes device *
          (agent.catalog.marksOf agent.clock device).length := by
  have rearranged := visits.perm (Visits.dedup (agent.fedDevices bytes))
  have sameDevices :
      (order.filterMap agent.catalog.device?).toFinset =
        agent.reportedDevices bytes := by
    ext device
    rw [List.mem_toFinset, List.mem_filterMap, mem_reportedDevices]
    simp only [visits.mem_iff]
  rw [closingMarks, Catalog.length_flatMap_deviceMarks,
    Finset.sum_list_map_count, sameDevices]
  apply Finset.sum_congr rfl
  intro device _
  have counted :
      (order.filterMap agent.catalog.device?).count device =
        agent.namings bytes device := by
    rw [namings, ← rearranged.countP_eq, List.count_filterMap]
  rw [counted]
  rfl

section

variable (numbers : agent.log.HasNumbersFor (agent.feedReadings bytes))

include numbers

/-- The number after a feed tells how often each device was marked. -/
theorem next_closedIn_visits
    {order : List String}
    (visits : Visits order (agent.fedDevices bytes)) :
    (agent.closedIn bytes order).log.next =
      (agent.fed bytes).log.next +
        ∑ device ∈ agent.reportedDevices bytes,
          agent.namings bytes device *
            (agent.catalog.marksOf agent.clock device).length := by
  rw [log_closedIn numbers order,
    (hasNumbersFor_closingMarks numbers visits).next_offerAll,
    length_closingMarks visits]

/-- Once each is not more often than once for each key. -/
theorem next_closedIn_namesEach
    {keys : List String}
    (names : agent.NamesEach bytes keys) :
    (agent.closedIn bytes keys).log.next =
      (agent.fed bytes).log.next +
        ∑ device ∈ agent.reportedDevices bytes,
          (agent.catalog.marksOf agent.clock device).length := by
  have inSomeOrder :=
    hasNumbersFor_closingMarks numbers (Visits.dedup (agent.fedDevices bytes))
  have fewer :
      (agent.closingMarks keys).length ≤
        (agent.closingMarks (agent.fedDevices bytes).dedup).length := by
    rw [names.length_closingMarks, length_closingMarks (Visits.dedup _)]
    exact Finset.sum_le_sum fun _ reported => marks_le_namings_mul reported _
  have suffice :
      (agent.fed bytes).log.HasNumbersFor (agent.closingMarks keys) := by
    unfold ObservationLog.HasNumbersFor at inSomeOrder ⊢
    omega
  rw [log_closedIn numbers keys, suffice.next_offerAll,
    names.length_closingMarks]

/-- Being marked once for each key is being marked once if there is one key. -/
theorem next_closedIn_eq_iff
    {order keys : List String}
    (visits : Visits order (agent.fedDevices bytes))
    (names : agent.NamesEach bytes keys) :
    (agent.closedIn bytes order).log.next =
        (agent.closedIn bytes keys).log.next ↔
      ∀ device ∈ agent.reportedDevices bytes,
        agent.namings bytes device = 2 →
        agent.catalog.marksOf agent.clock device = [] := by
  rw [next_closedIn_visits numbers visits,
    next_closedIn_namesEach numbers names, Nat.add_left_cancel_iff, eq_comm,
    Finset.sum_eq_sum_iff_of_le fun _ reported =>
      marks_le_namings_mul reported _]
  apply forall₂_congr
  intro device reported
  rcases namings_eq_one_or_two reported with one | two
  · rw [one, Nat.one_mul]
    simp
  · rw [two, ← List.length_eq_zero_iff]
    omega

/-- A feed marks a device at its end once for each key that it used for the device. -/
theorem closes_by_key : agent.ClosesByKey bytes where
  outcome := by
    intro chunks filled joined
    obtain ⟨order, visits, ingested⟩ := ingest_eq numbers filled joined
    exact ⟨order, visits, congrArg Prod.snd ingested⟩
  appended := fun _ visits => next_closedIn_visits numbers visits
  one_or_two := fun _ reported => namings_eq_one_or_two reported
  namable := agent.exists_namesEach bytes
  once := fun _ names => next_closedIn_namesEach numbers names
  once_iff := fun _ _ visits names => next_closedIn_eq_iff numbers visits names

end

end Agent

/-- One device with a name beside its identifier. -/
def Catalog.namedMill : Catalog where
  devices :=
    [{ uuid := "m"
       name := "mill"
       dataItems :=
         [{ id := "x", category := .sample, kind := "POSITION" }] }]

/-- Records that use the identifier first and the name afterwards. -/
def Feed.underBothKeys : List UInt8 :=
  Text.Utf8.encode
    "[\"observation\",\"m\",\"x\",\"7\"]\n[\"observation\",\"mill\",\"x\",\"8\"]\n".toList

namespace Agent

theorem closes_by_key_of_mill :
    (start { catalog := .namedMill } ⟨5⟩).log.HasNumbersFor
        ((start { catalog := .namedMill } ⟨5⟩).feedReadings
          Feed.underBothKeys) ∧
      (start { catalog := .namedMill } ⟨5⟩).ClosesByKey Feed.underBothKeys :=
  ⟨by decide +kernel, closes_by_key (by decide +kernel)⟩

/-- A device that goes by its identifier and by its name is marked twice. -/
theorem mill_marked_twice :
    ¬ ∀ (agent : Agent) (bytes : List UInt8),
        agent.log.HasNumbersFor (agent.feedReadings bytes) →
        ∀ order keys,
          Visits order (agent.fedDevices bytes) →
          agent.NamesEach bytes keys →
          (agent.closedIn bytes order).log.next =
            (agent.closedIn bytes keys).log.next := by
  intro markedOnce
  have reported :
      (start { catalog := .namedMill } ⟨5⟩).fedDevices Feed.underBothKeys =
        ["m", "mill"] := by
    decide +kernel
  have visits :
      Visits ["m", "mill"]
        ((start { catalog := .namedMill } ⟨5⟩).fedDevices
          Feed.underBothKeys) := by
    rw [reported]
    exact ⟨by decide, fun _ => Iff.rfl⟩
  have names :
      (start { catalog := .namedMill } ⟨5⟩).NamesEach Feed.underBothKeys
        ["m"] := by
    refine ⟨by decide, ?_⟩
    rw [reportedDevices, reported]
    decide
  have same :=
    markedOnce _ _ (by decide +kernel) ["m", "mill"] ["m"] visits names
  exact absurd same (by decide +kernel)

end Agent

end MTConnect
