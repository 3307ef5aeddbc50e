import MTConnect.Proofs.Agent.Numbers
import MTConnect.Proofs.Device.Resolution

namespace MTConnect

/-!
# Marks of unavailability

A mark is a reading that says of a data item that nothing is known about it,
in the entry that its category has for that. Marking a device logs nothing but
marks, so whichever of them is the newest one of a data item, the data item is
unavailable as of the time of the marks.
-/

/-- The reading says at a time that nothing is known about its data item. -/
structure Reading.IsMark (reading : Reading) (timestamp : Timestamp) : Prop where
  timestamp_eq : reading.timestamp = timestamp
  values_eq : reading.values = reading.category.unavailableValues

/-- The entry that a mark fills is the one that is looked at. -/
theorem Reading.IsMark.isUnavailable
    {reading : Reading}
    {timestamp : Timestamp}
    (mark : reading.IsMark timestamp)
    (sequence : Nat) :
    (reading.numbered sequence).isUnavailable = true := by
  have found :
      reading.values.find? reading.category.markKey =
        some unavailableMark := by
    rw [mark.values_eq]
    unfold Category.unavailableValues SortedMap.find? SortedMap.singleton
    simp
  unfold Observation.isUnavailable Reading.numbered Observation.value?
  cases category : reading.category with
  | condition => simpa [category, Category.markKey] using found
  | sample => simpa [category, Category.markKey] using found
  | event => simpa [category, Category.markKey] using found

/-- A mark tells by its values in which entry it stands. -/
theorem Category.unavailableValues_eq_iff (category other : Category) :
    category.unavailableValues = other.unavailableValues ↔
      category.markKey = other.markKey := by
  constructor
  · intro same
    have entries := congrArg SortedMap.entries same
    exact congrArg Prod.fst (List.cons.inj entries).1
  · intro same
    rw [unavailableValues, unavailableValues, same]

/-- The mark of a data item. -/
def ItemAddress.mark (address : ItemAddress) (timestamp : Timestamp) : Reading where
  device := address.device
  item := address.item
  category := address.category
  timestamp := timestamp
  values := address.category.unavailableValues

namespace Catalog

/-- What marking a device is logged as; nothing if the key is unknown. -/
def deviceMarks
    (catalog : Catalog)
    (timestamp : Timestamp)
    (deviceKey : String) :
    List Reading :=
  match catalog.device? deviceKey with
  | none => []
  | some device =>
      device.dataItems.flatMap fun item =>
        catalog.markReadings device.uuid item.id timestamp

/-- Known keys have one mark, in the entry that their category has for it. -/
theorem markReadings_of_resolve
    {catalog : Catalog}
    {deviceKey itemKey : String}
    {address : ItemAddress}
    (resolved : catalog.resolve deviceKey itemKey = .ok address)
    (timestamp : Timestamp) :
    catalog.markReadings deviceKey itemKey timestamp =
      [address.mark timestamp] := by
  simp only [markReadings, readings, resolved, ItemAddress.mark]

/-- Marking a device marks data items of devices and does nothing else. -/
theorem exists_of_mem_deviceMarks
    {catalog : Catalog}
    {timestamp : Timestamp}
    {deviceKey : String}
    {reading : Reading}
    (member : reading ∈ catalog.deviceMarks timestamp deviceKey) :
    ∃ device ∈ catalog.devices,
      ∃ item ∈ device.dataItems,
        reading =
          (ItemAddress.mk device.uuid item.id item.category).mark
            timestamp := by
  unfold deviceMarks at member
  split at member
  next => cases member
  next device _ =>
    obtain ⟨item, _, inMarks⟩ := List.mem_flatMap.mp member
    cases resolved : catalog.resolve device.uuid item.id with
    | error fault => simp [markReadings, readings, resolved] at inMarks
    | ok address =>
        rw [markReadings_of_resolve resolved, List.mem_singleton] at inMarks
        obtain ⟨target, first, targetFound, firstFound, addressEq⟩ :=
          resolve_eq_ok_iff.mp resolved
        exact
          ⟨target, List.mem_of_find?_eq_some targetFound, first,
            List.mem_of_find?_eq_some firstFound,
            inMarks.trans (congrArg (·.mark timestamp) addressEq)⟩

/-- All that marking a device is logged as are marks. -/
theorem isMark_of_mem_deviceMarks
    {catalog : Catalog}
    {timestamp : Timestamp}
    {deviceKey : String}
    {reading : Reading}
    (member : reading ∈ catalog.deviceMarks timestamp deviceKey) :
    reading.IsMark timestamp := by
  obtain ⟨_, _, _, _, isMark⟩ := exists_of_mem_deviceMarks member
  subst isMark
  exact ⟨rfl, rfl⟩

/--
If identifiers are unique, a data item is marked under one category, whatever
device it is marked for.
-/
theorem category_eq_of_mem_deviceMarks
    {catalog : Catalog}
    (distinct : (catalog.devices.map Device.uuid).Nodup)
    (distinctItems :
      ∀ device ∈ catalog.devices,
        (device.dataItems.map DataItem.id).Nodup)
    {timestamp : Timestamp}
    {deviceKey otherKey : String}
    {mark otherMark : Reading}
    (member : mark ∈ catalog.deviceMarks timestamp deviceKey)
    (otherMember : otherMark ∈ catalog.deviceMarks timestamp otherKey)
    (sameKey : mark.key = otherMark.key) :
    mark.category = otherMark.category := by
  obtain ⟨device, inCatalog, item, inDevice, rfl⟩ :=
    exists_of_mem_deviceMarks member
  obtain ⟨other, otherInCatalog, otherItem, inOther, rfl⟩ :=
    exists_of_mem_deviceMarks otherMember
  obtain ⟨sameUuid, sameId⟩ := ItemKey.mk.inj sameKey
  have sameDevice :=
    eq_of_uuid distinct inCatalog otherInCatalog sameUuid
  subst sameDevice
  have sameItem :=
    List.inj_on_of_nodup_map (distinctItems device inCatalog) inDevice
      inOther sameId
  rw [sameItem]

/-- A data item of the device whose keys are resolved is marked where they lead. -/
theorem mark_mem_deviceMarks
    {catalog : Catalog}
    {deviceKey : String}
    {device : Device}
    (found : catalog.device? deviceKey = some device)
    {item : DataItem}
    (member : item ∈ device.dataItems)
    {address : ItemAddress}
    (resolved : catalog.resolve device.uuid item.id = .ok address)
    (timestamp : Timestamp) :
    address.mark timestamp ∈ catalog.deviceMarks timestamp deviceKey := by
  unfold deviceMarks
  simp only [found]
  refine List.mem_flatMap.mpr ⟨item, member, ?_⟩
  rw [markReadings_of_resolve resolved]
  exact List.mem_singleton_self _

end Catalog

/-- After marks of a data item it is unavailable as of their time. -/
theorem ObservationLog.HasNumbersFor.unavailable
    {log : ObservationLog}
    {readings : List Reading}
    (numbers : log.HasNumbersFor readings)
    {timestamp : Timestamp}
    (marks : ∀ reading ∈ readings, reading.IsMark timestamp)
    {key : ItemKey}
    (reported : ∃ reading ∈ readings, reading.key = key) :
    ∃ observation,
      (log.offerAll readings).latest.find? key = some observation ∧
        observation.isUnavailable = true ∧
        observation.timestamp = timestamp := by
  obtain ⟨reading, last⟩ := Reading.exists_last? reported
  obtain ⟨sequence, newest⟩ := numbers.exists_latest last
  have mark := marks reading (Reading.mem_of_last? last)
  exact
    ⟨reading.numbered sequence, newest, mark.isUnavailable sequence,
      mark.timestamp_eq⟩

end MTConnect
