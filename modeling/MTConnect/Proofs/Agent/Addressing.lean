import MTConnect.Proofs.Agent.Marks
import MTConnect.Proofs.Agent.Replay
import MTConnect.Settings.Basic

namespace MTConnect

/-!
# Where writes for a device land

Marking a device and announcing an asset find the device first and resolve its
identifiers a second time. What they write lands on the data item that was
meant if its identifiers lead back to it, which the check of the settings does
not ask for: it only keeps identifiers of devices apart.
-/

/-- What announcing an asset on a data item is logged as. -/
def Device.assetEvent
    (device : Device)
    (item : DataItem)
    (assetId : String)
    (timestamp : Timestamp) :
    Reading where
  device := device.uuid
  item := item.id
  category := item.category
  timestamp := timestamp
  values := .singleton valueKey assetId

namespace Catalog

section

variable
  {catalog : Catalog}
  (distinct : (catalog.devices.map Device.uuid).Nodup)
  {device : Device}
  (member : device ∈ catalog.devices)
  {item : DataItem}
  (leads : catalog.Leads device item)

include distinct member leads

/-- An asset is announced on the data item of its device if that leads back. -/
theorem announceReadings_of_leads
    {kind : String}
    (declared : device.itemOfKind? kind = some item)
    (assetId : String)
    (timestamp : Timestamp) :
    catalog.announceReadings device kind assetId timestamp =
      [device.assetEvent item assetId timestamp] := by
  have resolved := (resolve_self_iff distinct member item).mpr leads
  simp only [announceReadings, declared, readings, resolved,
    Device.assetEvent]

/--
If the identifiers lead back, a removal is announced on the very item of the very
device.
-/
theorem removalReadings_of_leads
    (declared : device.itemOfKind? Agent.assetRemovedKind = some item)
    {asset : Asset}
    (onDevice : asset.device = device.uuid)
    (timestamp : Timestamp) :
    catalog.removalReadings timestamp asset =
      [device.assetEvent item asset.id timestamp] := by
  have found := (device?_uuid_iff distinct member).mpr leads.unnamed
  unfold removalReadings
  rw [onDevice, found]
  exact
    announceReadings_of_leads distinct member leads declared asset.id timestamp

end

end Catalog

namespace Chronicle

/-- A command logs a reading under one of the numbers to come. -/
def Logs (chronicle : Chronicle) (command : Agent.Command) (reading : Reading) : Prop :=
  ∃ sequence,
    chronicle.agent.log.next ≤ sequence ∧
      reading.numbered sequence ∈
        (chronicle.perform command).history.entries

/-- What is reported is logged as long as there are numbers. -/
theorem Sound.logs
    {chronicle : Chronicle}
    (sound : chronicle.Sound)
    {command : Agent.Command}
    (numbers :
      chronicle.agent.log.HasNumbersFor (chronicle.agent.reports command))
    {reading : Reading}
    (reported : reading ∈ chronicle.agent.reports command) :
    chronicle.Logs command reading := by
  have noReset : command ≠ .reset := by
    rintro rfl
    cases reported
  obtain ⟨sequence, above, accepted⟩ := numbers.mem_accepted reported
  refine ⟨sequence, above, ?_⟩
  rw [chronicle.history_perform_of_ne noReset,
    sound.represents.entries_offerAll]
  exact List.mem_append_right _ accepted

section

variable
  {chronicle : Chronicle}
  (sound : chronicle.Sound)
  (distinct :
    (chronicle.agent.catalog.devices.map Device.uuid).Nodup)
  {device : Device}
  {item : DataItem}
  (leads : chronicle.agent.catalog.Leads device item)

include distinct leads

/-- A data item whose identifiers lead back is unavailable once its device was marked. -/
theorem unavailable_of_leads
    {deviceKey : String}
    {timestamp : Timestamp}
    (found : chronicle.agent.catalog.device? deviceKey = some device)
    (itemMember : item ∈ device.dataItems)
    (numbers :
      chronicle.agent.log.HasNumbersFor
        (chronicle.agent.catalog.deviceMarks timestamp deviceKey)) :
    ∃ observation,
      (chronicle.agent.markDeviceUnavailable deviceKey
          timestamp).2.log.latest.find? ⟨device.uuid, item.id⟩ =
          some observation ∧
        observation.isUnavailable = true ∧
        observation.timestamp = timestamp := by
  have member := List.mem_of_find?_eq_some found
  have resolved :=
    (Catalog.resolve_self_iff distinct member item).mpr leads
  have marked :=
    Catalog.mark_mem_deviceMarks found itemMember resolved timestamp
  have wrote :=
    chronicle.agent.markDeviceUnavailable_wrote deviceKey timestamp
  rw [wrote.log_eq]
  apply numbers.unavailable
  · intro reading inMarks
    exact Catalog.isMark_of_mem_deviceMarks inMarks
  · exact ⟨_, marked, rfl⟩

include sound

/-- An asset that is stored is announced on the data item of its device. -/
theorem logs_upsertAsset
    {deviceKey assetId kind payload : String}
    {removed : Bool}
    {timestamp : Timestamp}
    (found : chronicle.agent.catalog.device? deviceKey = some device)
    (declared :
      device.itemOfKind?
          (if removed = true then Agent.assetRemovedKind
            else Agent.assetChangedKind) =
        some item)
    (numbers :
      chronicle.agent.log.HasNumbersFor
        (chronicle.agent.reports
          (.upsertAsset deviceKey assetId kind payload removed timestamp))) :
    chronicle.Logs
      (.upsertAsset deviceKey assetId kind payload removed timestamp)
      (device.assetEvent item assetId timestamp) := by
  have member := List.mem_of_find?_eq_some found
  apply sound.logs numbers
  unfold Agent.reports
  simp only [found]
  rw [Catalog.announceReadings_of_leads distinct member leads declared]
  exact List.mem_singleton_self _

/-- Each asset that is removed is announced on the data item of its device. -/
theorem logs_of_removed
    (member : device ∈ chronicle.agent.catalog.devices)
    (declared : device.itemOfKind? Agent.assetRemovedKind = some item)
    {command : Agent.Command}
    {timestamp : Timestamp}
    {tombstones : List Asset}
    (reportsEq :
      chronicle.agent.reports command =
        tombstones.flatMap (chronicle.agent.catalog.removalReadings timestamp))
    (numbers :
      chronicle.agent.log.HasNumbersFor (chronicle.agent.reports command))
    {tombstone : Asset}
    (inTombstones : tombstone ∈ tombstones)
    (onDevice : tombstone.device = device.uuid) :
    chronicle.Logs command
      (device.assetEvent item tombstone.id timestamp) := by
  apply sound.logs numbers
  rw [reportsEq]
  refine List.mem_flatMap.mpr ⟨tombstone, inTombstones, ?_⟩
  rw [Catalog.removalReadings_of_leads distinct member leads declared onDevice]
  exact List.mem_singleton_self _

end

end Chronicle

/-- What becomes of the identifiers of the devices of an agent when it writes. -/
structure Settings.Addresses (settings : Settings) (chronicle : Chronicle) : Prop where
  resolve_iff :
    ∀ device ∈ settings.devices,
      ∀ item ∈ device.dataItems,
        chronicle.agent.catalog.resolve device.uuid item.id =
            .ok ⟨device.uuid, item.id, item.category⟩ ↔
          chronicle.agent.catalog.Leads device item
  /-- A device that is marked has its data items unavailable where they lead back. -/
  marked :
    ∀ deviceKey timestamp device,
      chronicle.agent.catalog.device? deviceKey = some device →
      chronicle.agent.log.HasNumbersFor
        (chronicle.agent.catalog.deviceMarks timestamp deviceKey) →
      (chronicle.agent.markDeviceUnavailable deviceKey timestamp).1 =
          .ok
            (chronicle.agent.catalog.deviceMarks timestamp
              deviceKey).length ∧
        ∀ item ∈ device.dataItems,
          chronicle.agent.catalog.Leads device item →
          ∃ observation,
            (chronicle.agent.markDeviceUnavailable deviceKey
                timestamp).2.log.latest.find? ⟨device.uuid, item.id⟩ =
                some observation ∧
              observation.isUnavailable = true ∧
              observation.timestamp = timestamp
  /-- A stored asset is announced on the data item that its device has for that. -/
  upserted :
    ∀ deviceKey assetId kind payload removed timestamp device item,
      chronicle.agent.catalog.device? deviceKey = some device →
      device.itemOfKind?
          (if removed = true then Agent.assetRemovedKind
            else Agent.assetChangedKind) =
        some item →
      chronicle.agent.catalog.Leads device item →
      chronicle.agent.log.HasNumbersFor
        (chronicle.agent.reports
          (.upsertAsset deviceKey assetId kind payload removed timestamp)) →
      (chronicle.agent.upsertAsset deviceKey assetId kind payload removed
            timestamp).1 =
          .ok
            (some
              { id := assetId
                kind := kind
                device := device.uuid
                timestamp := timestamp
                removed := removed
                payload := payload }) ∧
        chronicle.Logs
          (.upsertAsset deviceKey assetId kind payload removed timestamp)
          (device.assetEvent item assetId timestamp)
  /-- So is one that is removed; it is removed whenever the shelf has it. -/
  removed :
    ∀ assetId timestamp,
      chronicle.agent.log.HasNumbersFor
        (chronicle.agent.reports (.removeAsset assetId timestamp)) →
      (chronicle.agent.removeAsset assetId timestamp).1 =
          (chronicle.agent.assets.remove assetId timestamp).map Prod.fst ∧
        ∀ tombstone,
          (chronicle.agent.removeAsset assetId timestamp).1 =
              .ok tombstone →
          ∀ device ∈ settings.devices,
            tombstone.device = device.uuid →
            ∀ item,
              device.itemOfKind? Agent.assetRemovedKind = some item →
              chronicle.agent.catalog.Leads device item →
              chronicle.Logs (.removeAsset assetId timestamp)
                (device.assetEvent item tombstone.id timestamp)
  /-- So is every one of those that are removed together. -/
  cleared :
    ∀ kind? deviceKey? timestamp,
      chronicle.agent.log.HasNumbersFor
        (chronicle.agent.reports
          (.removeAllAssets kind? deviceKey? timestamp)) →
      ∃ tombstones,
        (chronicle.agent.removeAllAssets kind? deviceKey? timestamp).1 =
            .ok tombstones ∧
          ∀ tombstone ∈ tombstones,
            ∀ device ∈ settings.devices,
              tombstone.device = device.uuid →
              ∀ item,
                device.itemOfKind? Agent.assetRemovedKind = some item →
                chronicle.agent.catalog.Leads device item →
                chronicle.Logs (.removeAllAssets kind? deviceKey? timestamp)
                  (device.assetEvent item tombstone.id timestamp)

/-- With checked settings, writes land where they are meant if identifiers lead back. -/
theorem Settings.stored_keys_resolve
    {settings : Settings}
    (valid : settings.Valid)
    (begun : Timestamp)
    (commands : List Agent.Command) :
    settings.Addresses ((Chronicle.start settings.plan begun).run commands) := by
  have sound := (Chronicle.sound_start settings.plan begun).run commands
  have catalogEq := (Chronicle.start settings.plan begun).catalog_run commands
  generalize (Chronicle.start settings.plan begun).run commands = chronicle
    at sound catalogEq ⊢
  have devicesEq : chronicle.agent.catalog.devices = settings.devices :=
    congrArg Catalog.devices catalogEq
  have distinct :
      (chronicle.agent.catalog.devices.map Device.uuid).Nodup := by
    rw [devicesEq]
    exact valid.checked.devices
  exact
    { resolve_iff := by
        intro device member item _
        rw [← devicesEq] at member
        exact Catalog.resolve_self_iff distinct member item
      marked := by
        intro deviceKey timestamp device found numbers
        refine ⟨Agent.markDeviceUnavailable_ok numbers, ?_⟩
        intro item itemMember leads
        exact
          Chronicle.unavailable_of_leads distinct leads found itemMember
            numbers
      upserted := by
        intro deviceKey assetId kind payload removed timestamp device item
          found declared leads numbers
        have answered := Agent.upsertAsset_ok numbers
        rw [found] at answered
        exact
          ⟨answered,
            Chronicle.logs_upsertAsset sound distinct leads found declared
              numbers⟩
      removed := by
        intro assetId timestamp numbers
        refine ⟨Agent.removeAsset_ok numbers, ?_⟩
        intro tombstone answered device member onDevice item declared leads
        rw [← devicesEq] at member
        have reportsEq := Agent.reports_removeAsset answered
        rw [← List.flatMap_singleton
          (chronicle.agent.catalog.removalReadings timestamp)] at reportsEq
        exact
          Chronicle.logs_of_removed sound distinct leads member declared
            reportsEq numbers (List.mem_singleton_self tombstone) onDevice
      cleared := by
        intro kind? deviceKey? timestamp numbers
        obtain ⟨tombstones, answered, reportsEq⟩ :=
          Agent.removeAllAssets_ok numbers
        refine ⟨tombstones, answered, ?_⟩
        intro tombstone inTombstones device member onDevice item declared
          leads
        rw [← devicesEq] at member
        exact
          Chronicle.logs_of_removed sound distinct leads member declared
            reportsEq numbers inTombstones onDevice }

/-- Two devices, the second one named after the identifier of the first. -/
def Settings.neighbours : Settings where
  devices :=
    [{ uuid := "mill"
       name := "press"
       dataItems :=
         [{ id := "x", name := some "change", category := .sample,
            kind := "POSITION" },
          { id := "chg", name := some "x", category := .event,
            kind := Agent.assetChangedKind }] },
     { uuid := "lathe"
       name := "mill"
       dataItems :=
         [{ id := "x", category := .condition, kind := "SYSTEM" }] }]

theorem Settings.valid_neighbours : neighbours.Valid :=
  rfl

/-- They are the case in which a name comes after the identifier that it repeats. -/
theorem Settings.stored_keys_resolve_neighbours :
    neighbours.Valid ∧
      neighbours.Addresses
        ((Chronicle.start neighbours.plan ⟨0⟩).run
          [.upsertAsset "press" "tool" "CuttingTool" "" false ⟨1⟩,
            .markDeviceUnavailable "lathe" ⟨2⟩]) :=
  ⟨valid_neighbours,
    stored_keys_resolve valid_neighbours ⟨0⟩
      [.upsertAsset "press" "tool" "CuttingTool" "" false ⟨1⟩,
        .markDeviceUnavailable "lathe" ⟨2⟩]⟩

/-- Two devices, the first one named after the identifier of the second. -/
def Settings.shadowed : Settings where
  devices :=
    [{ uuid := "a"
       name := "b"
       dataItems := [{ id := "x", category := .sample, kind := "POSITION" }] },
     { uuid := "b"
       name := "c"
       dataItems := [{ id := "x", category := .sample, kind := "POSITION" }] }]

theorem Settings.valid_shadowed : shadowed.Valid :=
  rfl

/-- The check of the settings does not make identifiers lead back. -/
theorem Settings.shadowed_keys_mislead :
    ¬ ∀ settings : Settings,
        settings.Valid →
        ∀ device ∈ settings.devices,
          ∀ item ∈ device.dataItems,
            settings.plan.catalog.resolve device.uuid item.id =
              .ok ⟨device.uuid, item.id, item.category⟩ := by
  intro leadBack
  have resolved :
      shadowed.plan.catalog.resolve "b" "x" = .ok ⟨"b", "x", .sample⟩ :=
    leadBack shadowed valid_shadowed _
      (List.mem_cons_of_mem _ (List.mem_singleton_self _)) _
      (List.mem_singleton_self _)
  have misled :
      shadowed.plan.catalog.resolve "b" "x" = .ok ⟨"a", "x", .sample⟩ := by
    decide
  exact absurd (misled.symm.trans resolved) (by decide)

end MTConnect
