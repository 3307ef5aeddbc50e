import Mathlib.Data.List.Nodup
import MTConnect.Device.Catalog

namespace MTConnect.Catalog

/-!
# Stored keys as keys

Observations are stored under the identifiers of their device and of their
data item, and these identifiers are keys again. Since devices and data items
answer to their names too and the first that answers counts, the identifiers
need not lead back to where they come from. They do exactly if no other entry
is in the way.
-/

/--
The identifiers of a data item lead back to it: no device before its own has
the identifier of the device as its name, and the first data item of the device
to answer to the identifier has the same identifier and category.
-/
structure Leads (catalog : Catalog) (device : Device) (item : DataItem) : Prop where
  unnamed :
    ∀ earlier later,
      catalog.devices = earlier ++ device :: later →
      ∀ other ∈ earlier, other.name ≠ device.uuid
  first :
    ∃ first,
      device.item? item.id = some first ∧
        first.id = item.id ∧ first.category = item.category

/-- Keys are resolved to the first device and its first data item that answer to them. -/
theorem resolve_eq_ok_iff
    {catalog : Catalog}
    {deviceKey itemKey : String}
    {address : ItemAddress} :
    catalog.resolve deviceKey itemKey = .ok address ↔
      ∃ device item,
        catalog.device? deviceKey = some device ∧
          device.item? itemKey = some item ∧
          address = ⟨device.uuid, item.id, item.category⟩ := by
  unfold resolve
  constructor
  · intro resolved
    split at resolved
    next => cases resolved
    next device deviceFound =>
      split at resolved
      next => cases resolved
      next item itemFound =>
        exact ⟨device, item, deviceFound, itemFound,
          (Except.ok.inj resolved).symm⟩
  · rintro ⟨device, item, deviceFound, itemFound, rfl⟩
    simp only [deviceFound, itemFound]

section

variable
  {catalog : Catalog}
  (distinct : (catalog.devices.map Device.uuid).Nodup)
  {device : Device}

include distinct

/-- Devices with one identifier are one device. -/
theorem eq_of_uuid
    {other : Device}
    (otherMember : other ∈ catalog.devices)
    (member : device ∈ catalog.devices)
    (same : other.uuid = device.uuid) :
    other = device :=
  List.inj_on_of_nodup_map distinct otherMember member same

/-- A device is found under its identifier if none before it has that name. -/
theorem device?_uuid_iff
    (member : device ∈ catalog.devices) :
    catalog.device? device.uuid = some device ↔
      ∀ earlier later,
        catalog.devices = earlier ++ device :: later →
        ∀ other ∈ earlier, other.name ≠ device.uuid := by
  constructor
  · intro found earlier later split other inEarlier named
    have answers : other.answersTo device.uuid = true := by
      simp [Device.answersTo, named]
    unfold device? at found
    rw [split, List.find?_append] at found
    cases foundEarlier :
        earlier.find? fun device' => device'.answersTo device.uuid with
    | none =>
        have silent := List.find?_eq_none.mp foundEarlier other inEarlier
        exact silent answers
    | some first =>
        rw [foundEarlier] at found
        have firstEq : first = device := Option.some.inj found
        have inBoth : device ∈ earlier :=
          firstEq ▸ List.mem_of_find?_eq_some foundEarlier
        rw [split, List.map_append, List.map_cons] at distinct
        exact
          (List.nodup_append.mp distinct).2.2 device.uuid
            (List.mem_map_of_mem inBoth) device.uuid List.mem_cons_self rfl
  · intro unnamed
    obtain ⟨earlier, later, split⟩ := List.append_of_mem member
    have silent :
        earlier.find? (fun other => other.answersTo device.uuid) = none := by
      rw [List.find?_eq_none]
      intro other inEarlier answers
      have otherUuid : other.uuid ≠ device.uuid := by
        rw [split, List.map_append, List.map_cons] at distinct
        exact
          (List.nodup_append.mp distinct).2.2 other.uuid
            (List.mem_map_of_mem inEarlier) device.uuid List.mem_cons_self
      have otherName := unnamed earlier later split other inEarlier
      simp [Device.answersTo, otherUuid, otherName] at answers
    unfold device?
    rw [split, List.find?_append, silent, Option.none_or]
    simp only [List.find?_cons, Device.answersTo_uuid]

/-- The identifiers of a data item are resolved to themselves exactly if they lead back. -/
theorem resolve_self_iff
    (member : device ∈ catalog.devices)
    (item : DataItem) :
    catalog.resolve device.uuid item.id =
        .ok ⟨device.uuid, item.id, item.category⟩ ↔
      catalog.Leads device item := by
  rw [resolve_eq_ok_iff]
  constructor
  · rintro ⟨found, first, deviceFound, itemFound, same⟩
    obtain ⟨uuidEq, idEq, categoryEq⟩ := ItemAddress.mk.inj same
    have foundMember := List.mem_of_find?_eq_some deviceFound
    have foundEq := eq_of_uuid distinct foundMember member uuidEq.symm
    subst foundEq
    exact
      { unnamed := (device?_uuid_iff distinct member).mp deviceFound
        first := ⟨first, itemFound, idEq.symm, categoryEq.symm⟩ }
  · rintro ⟨unnamed, first, itemFound, idEq, categoryEq⟩
    refine
      ⟨device, first, (device?_uuid_iff distinct member).mpr unnamed,
        itemFound, ?_⟩
    rw [idEq, categoryEq]

end

end MTConnect.Catalog
