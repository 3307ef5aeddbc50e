import MTConnect.Asset.Record
import MTConnect.Capacity
import MTConnect.Fault
import MTConnect.SortedMap

namespace MTConnect

/-!
# The asset shelf

The shelf holds assets by identifier, in the order in which they were last
stored, tombstones included. A new asset may push an old one off: the oldest
of its type when the type is limited, and the oldest of all when the shelf is
full. Every stored asset has a stamp; three indexes lead from identifiers to
stamped assets, from stamps to identifiers, and from types to stamps.
-/

/-- A stored asset and the stamp of its place. -/
structure Slot where
  stamp : Nat
  asset : Asset
  deriving Repr, DecidableEq, Inhabited

/-- A bounded shelf of assets. -/
structure AssetShelf where
  capacity : Nat
  /-- How many assets of a type may be stored, for the types that are limited. -/
  limits : SortedMap String Nat
  /--
  The stamp of the next asset, a word that counts the writes. What is said of a
  shelf holds for the first 2 ^ 64 of them.
  -/
  nextStamp : Nat
  /-- The stored assets by identifier. -/
  slots : SortedMap String Slot
  /-- The identifiers of the stored assets by stamp. -/
  order : SortedMap Nat String
  /-- The stamps of the stored assets of each type, in increasing order. -/
  byKind : SortedMap String (List Nat)
  capacity_pos : 0 < capacity

namespace AssetShelf

/-- An empty shelf. -/
def empty (capacity : Nat) (limits : SortedMap String Nat) : AssetShelf where
  capacity := raisedCapacity capacity
  limits := limits
  nextStamp := 0
  slots := .empty
  order := .empty
  byKind := .empty
  capacity_pos := raisedCapacity_pos capacity

/-- The stored asset of an identifier, tombstone or not. -/
def asset? (shelf : AssetShelf) (id : String) : Option Asset :=
  (shelf.slots.find? id).map Slot.asset

/-- The stored asset of an identifier, or the fault that there is none. -/
def get (shelf : AssetShelf) (id : String) : Except Fault Asset :=
  match shelf.asset? id with
  | some asset => .ok asset
  | none => .error (.assetNotFound id)

/-- The stamps of a type. -/
def stampsOf (shelf : AssetShelf) (kind : String) : List Nat :=
  (shelf.byKind.find? kind).getD []

/-- Take a stamp out of the index of a type; a type without stamps has no entry. -/
def dropStamp
    (byKind : SortedMap String (List Nat))
    (kind : String)
    (stamp : Nat) :
    SortedMap String (List Nat) :=
  match byKind.find? kind with
  | none => byKind
  | some stamps =>
      match stamps.filter (· != stamp) with
      | [] => byKind.erase kind
      | rest => byKind.insert kind rest

/-- Take an asset off the shelf. -/
def detach (shelf : AssetShelf) (id : String) : AssetShelf :=
  match shelf.slots.find? id with
  | none => shelf
  | some slot =>
      { shelf with
        slots := shelf.slots.erase id
        order := shelf.order.erase slot.stamp
        byKind := dropStamp shelf.byKind slot.asset.kind slot.stamp }

/-- Put an asset at the newest place; its identifier must not be on the shelf. -/
def attach (shelf : AssetShelf) (asset : Asset) : AssetShelf :=
  { shelf with
    nextStamp := shelf.nextStamp + 1
    slots := shelf.slots.insert asset.id { stamp := shelf.nextStamp, asset := asset }
    order := shelf.order.insert shelf.nextStamp asset.id
    byKind :=
      shelf.byKind.insert asset.kind (shelf.stampsOf asset.kind ++ [shelf.nextStamp]) }

/-- Take the asset with a stamp off the shelf. -/
def evict (shelf : AssetShelf) (stamp : Nat) : AssetShelf :=
  match shelf.order.find? stamp with
  | none => shelf
  | some id => shelf.detach id

/-- Take the assets with some stamps off the shelf, one after the other. -/
def evictAll (shelf : AssetShelf) (stamps : List Nat) : AssetShelf :=
  stamps.foldl evict shelf

/-- Let the oldest assets of a type go until the type is within its limit. -/
def trimKind (shelf : AssetShelf) (kind : String) : AssetShelf :=
  match shelf.limits.find? kind with
  | none => shelf
  | some limit =>
      let stamps := shelf.stampsOf kind
      shelf.evictAll (stamps.take (stamps.length - raisedCapacity limit))

/-- Let the oldest assets go until the shelf is within its capacity. -/
def trim (shelf : AssetShelf) : AssetShelf :=
  shelf.evictAll (shelf.order.keys.take (shelf.slots.size - shelf.capacity))

/-- Store an asset at the newest place, replacing the one with its identifier. -/
def upsert (shelf : AssetShelf) (asset : Asset) : AssetShelf :=
  (((shelf.detach asset.id).attach asset).trimKind asset.kind).trim

/-- Replace the asset of a slot by its tombstone, in its place. -/
def bury (shelf : AssetShelf) (id : String) (slot : Slot) (timestamp : Timestamp) : AssetShelf :=
  { shelf with
    slots :=
      shelf.slots.insert id { slot with asset := slot.asset.tombstone timestamp } }

/-- Turn an asset into its tombstone; a tombstone stays as it is. -/
def remove
    (shelf : AssetShelf)
    (id : String)
    (timestamp : Timestamp) :
    Except Fault (Asset × AssetShelf) :=
  match shelf.slots.find? id with
  | none => .error (.assetNotFound id)
  | some slot =>
      if slot.asset.removed then
        .ok (slot.asset, shelf)
      else
        .ok (slot.asset.tombstone timestamp, shelf.bury id slot timestamp)

/-- The stored assets, oldest first. -/
def toList (shelf : AssetShelf) : List Asset :=
  shelf.order.values.filterMap fun id => shelf.asset? id

/-- Whether a live asset has the wanted type and device. -/
def isTarget (kind? device? : Option String) (asset : Asset) : Bool :=
  asset.isLive && wants kind? asset.kind && wants device? asset.device

/-- Turn one asset of a bulk removal into its tombstone, if it is a target. -/
def removeTarget
    (kind? device? : Option String)
    (timestamp : Timestamp)
    (soFar : List Asset × AssetShelf)
    (id : String) :
    List Asset × AssetShelf :=
  match soFar.2.slots.find? id with
  | none => soFar
  | some slot =>
      if isTarget kind? device? slot.asset then
        (soFar.1 ++ [slot.asset.tombstone timestamp],
          soFar.2.bury id slot timestamp)
      else
        soFar

/-- Turn every live asset of a type and a device into its tombstone, oldest first. -/
def removeAll
    (shelf : AssetShelf)
    (kind? device? : Option String)
    (timestamp : Timestamp) :
    List Asset × AssetShelf :=
  shelf.order.values.foldl (removeTarget kind? device? timestamp) ([], shelf)

/-- The assets that a query selects, newest first. -/
def list (shelf : AssetShelf) (query : AssetQuery) : List Asset :=
  let found := shelf.toList.reverse.filter fun asset => query.admits asset
  match query.count with
  | none => found
  | some count => found.take count

/-- How many live assets are stored. -/
def liveCount (shelf : AssetShelf) : Nat :=
  (shelf.slots.values.filter fun slot => slot.asset.isLive).length

/-- How many assets are stored, tombstones included. -/
def size (shelf : AssetShelf) : Nat :=
  shelf.slots.size

/-- Whether nothing is stored. -/
def isEmpty (shelf : AssetShelf) : Bool :=
  shelf.slots.isEmpty

/-- How many live assets there are of each type that has one. -/
def countByKind (shelf : AssetShelf) : SortedMap String Nat :=
  (shelf.slots.values.filter fun slot => slot.asset.isLive).foldl
    (fun counts slot =>
      counts.update slot.asset.kind fun count? => count?.getD 0 + 1)
    .empty

end AssetShelf

end MTConnect
