import MTConnect.Timestamp

namespace MTConnect

/-!
# Assets

An asset is a record with an identifier of its own, such as a cutting tool.
Its payload is opaque. Removing an asset leaves a tombstone: the same record,
marked removed at the time of the removal.
-/

/-- An asset, or the tombstone of one. -/
structure Asset where
  id : String
  /-- The type of the asset, such as `CuttingTool`. -/
  kind : String
  /-- The identifier of the device that the asset belongs to. -/
  device : String
  timestamp : Timestamp
  removed : Bool
  payload : String
  deriving Repr, DecidableEq, Inhabited

namespace Asset

/-- The asset marked removed. -/
def tombstone (asset : Asset) (timestamp : Timestamp) : Asset :=
  { asset with timestamp := timestamp, removed := true }

/-- Whether the asset has not been removed. -/
def isLive (asset : Asset) : Bool :=
  !asset.removed

end Asset

/-- A selection of assets: by type, by device, with or without tombstones. -/
structure AssetQuery where
  kind : Option String := none
  device : Option String := none
  includeRemoved : Bool := false
  count : Option Nat := none
  deriving Repr, DecidableEq, Inhabited

/-- Whether an optional requirement holds of a text. -/
def wants (required? : Option String) (text : String) : Bool :=
  match required? with
  | none => true
  | some required => required == text

/-- Whether a query selects an asset. -/
def AssetQuery.admits (query : AssetQuery) (asset : Asset) : Bool :=
  (query.includeRemoved || asset.isLive) &&
    wants query.kind asset.kind && wants query.device asset.device

end MTConnect
