import MTConnect.Agent.Basic

namespace MTConnect.Agent

/-!
# Writing to the agent

All writes pass through the operations of this module. Keys are resolved
first; a write for an unknown device or data item is dropped without using a
sequence number. A change of an asset is announced as an event on the device
if the device has a data item for such events. A write that fails half-way
keeps what it did before, so every operation returns the state with its
outcome.
-/

/-- The outcome of a write, and the state after it. -/
abbrev Written (α : Type) := Except Fault α × Agent

/-- The type of the events that announce a stored asset. -/
def assetChangedKind : String := "ASSET_CHANGED"

/-- The type of the events that announce a removed asset. -/
def assetRemovedKind : String := "ASSET_REMOVED"

/-- Log a reading and count it. -/
def record (agent : Agent) (reading : Reading) : Written Nat :=
  match agent.log.append reading with
  | .error fault => (.error fault, agent)
  | .ok (sequence, log) =>
      (.ok sequence,
        { agent with
          log := log
          monitor := agent.monitor.countObservation reading.device reading.item })

/-- Log values for a data item; none if the keys are unknown. -/
def append
    (agent : Agent)
    (deviceKey itemKey : String)
    (values : Values)
    (timestamp : Timestamp) :
    Written (Option Nat) :=
  match agent.catalog.resolve deviceKey itemKey with
  | .error _ => (.ok none, agent)
  | .ok address =>
      let (outcome, after) :=
        agent.record
          { device := address.device
            item := address.item
            category := address.category
            timestamp := timestamp
            values := values }
      (outcome.map some, after)

/-- Mark a data item unavailable; none if the keys are unknown. -/
def markUnavailable
    (agent : Agent)
    (deviceKey itemKey : String)
    (timestamp : Timestamp) :
    Written (Option Nat) :=
  let category :=
    match agent.catalog.resolve deviceKey itemKey with
    | .ok address => address.category
    | .error _ => .event
  agent.append deviceKey itemKey category.unavailableValues timestamp

/-- Mark data items of a device unavailable, one after the other. -/
def markItems
    (agent : Agent)
    (device : String)
    (timestamp : Timestamp)
    (marked : Nat) :
    List DataItem → Written Nat
  | [] => (.ok marked, agent)
  | item :: rest =>
      match agent.markUnavailable device item.id timestamp with
      | (.error fault, after) => (.error fault, after)
      | (.ok sequence?, after) =>
          after.markItems device timestamp
            (marked + if sequence?.isSome then 1 else 0) rest

/-- Mark all data items of a device unavailable, and say how many were marked. -/
def markDeviceUnavailable
    (agent : Agent)
    (deviceKey : String)
    (timestamp : Timestamp) :
    Written Nat :=
  match agent.catalog.device? deviceKey with
  | none => (.ok 0, agent)
  | some device => agent.markItems device.uuid timestamp 0 device.dataItems

/-- Announce an asset on a device that has a data item for such events. -/
def announce
    (agent : Agent)
    (device : Device)
    (kind assetId : String)
    (timestamp : Timestamp) :
    Written Unit :=
  match device.itemOfKind? kind with
  | none => (.ok (), agent)
  | some item =>
      let (outcome, after) :=
        agent.append device.uuid item.id (.singleton valueKey assetId) timestamp
      (outcome.map fun _ => (), after)

/-- Store an asset on the shelf and count the change. -/
def shelve (agent : Agent) (asset : Asset) : Agent :=
  { agent with
    assets := agent.assets.upsert asset
    monitor := agent.monitor.countAsset asset.kind }

/-- Store an asset, or the tombstone of one; none if the device is unknown. -/
def upsertAsset
    (agent : Agent)
    (deviceKey assetId kind payload : String)
    (removed : Bool)
    (timestamp : Timestamp) :
    Written (Option Asset) :=
  match agent.catalog.device? deviceKey with
  | none => (.ok none, agent)
  | some device =>
      let asset : Asset :=
        { id := assetId
          kind := kind
          device := device.uuid
          timestamp := timestamp
          removed := removed
          payload := payload }
      let (outcome, after) :=
        (agent.shelve asset).announce device
          (if removed then assetRemovedKind else assetChangedKind)
          assetId timestamp
      (outcome.map fun _ => some asset, after)

/-- Count a removed asset and announce it on its device. -/
def reportRemoved
    (agent : Agent)
    (asset : Asset)
    (timestamp : Timestamp) :
    Written Unit :=
  let counted := { agent with monitor := agent.monitor.countAsset asset.kind }
  match counted.catalog.device? asset.device with
  | none => (.ok (), counted)
  | some device => counted.announce device assetRemovedKind asset.id timestamp

/-- Turn an asset into its tombstone. -/
def removeAsset
    (agent : Agent)
    (assetId : String)
    (timestamp : Timestamp) :
    Written Asset :=
  match agent.assets.remove assetId timestamp with
  | .error fault => (.error fault, agent)
  | .ok (tombstone, assets) =>
      let (outcome, after) :=
        { agent with assets := assets }.reportRemoved tombstone timestamp
      (outcome.map fun _ => tombstone, after)

/-- Count and announce removed assets, one after the other. -/
def reportAllRemoved
    (agent : Agent)
    (timestamp : Timestamp) :
    List Asset → Written Unit
  | [] => (.ok (), agent)
  | asset :: rest =>
      match agent.reportRemoved asset timestamp with
      | (.error fault, after) => (.error fault, after)
      | (.ok (), after) => after.reportAllRemoved timestamp rest

/-- Turn every live asset of a type and a device into its tombstone. -/
def removeAllOf
    (agent : Agent)
    (kind? device? : Option String)
    (timestamp : Timestamp) :
    Written (List Asset) :=
  let (tombstones, assets) := agent.assets.removeAll kind? device? timestamp
  let (outcome, after) :=
    { agent with assets := assets }.reportAllRemoved timestamp tombstones
  (outcome.map fun _ => tombstones, after)

/-- Remove the assets of a type and of a device; none go if the device is unknown. -/
def removeAllAssets
    (agent : Agent)
    (kind? deviceKey? : Option String)
    (timestamp : Timestamp) :
    Written (List Asset) :=
  match deviceKey? with
  | none => agent.removeAllOf kind? none timestamp
  | some key =>
      match agent.catalog.device? key with
      | none => (.ok [], agent)
      | some device => agent.removeAllOf kind? (some device.uuid) timestamp

end MTConnect.Agent
