import MTConnect.Device.Category

namespace MTConnect

/-!
# Devices and their data items

The agent knows of a device only what a probe shows: its keys and its data
items. A device answers to its identifier and to its name, and so does a data
item; of several that answer to a key the first one counts.
-/

/-- A data item of a device. -/
structure DataItem where
  id : String
  name : Option String := none
  category : Category
  /-- The MTConnect type, such as `POSITION` or `ASSET_CHANGED`. -/
  kind : String
  subType : Option String := none
  units : Option String := none
  deriving Repr, DecidableEq, Inhabited

/-- A device and its data items. -/
structure Device where
  uuid : String
  name : String
  dataItems : List DataItem := []
  deriving Repr, DecidableEq, Inhabited

/-- Whether a data item answers to a key. -/
def DataItem.answersTo (item : DataItem) (key : String) : Bool :=
  item.id == key || item.name == some key

namespace Device

/-- Whether a device answers to a key. -/
def answersTo (device : Device) (key : String) : Bool :=
  device.uuid == key || device.name == key

/-- The first data item that answers to a key. -/
def item? (device : Device) (key : String) : Option DataItem :=
  device.dataItems.find? fun item => item.answersTo key

/-- The first data item of an MTConnect type. -/
def itemOfKind? (device : Device) (kind : String) : Option DataItem :=
  device.dataItems.find? fun item => item.kind == kind

/-- Every device answers to its own identifier. -/
theorem answersTo_uuid (device : Device) :
    device.answersTo device.uuid = true := by
  simp [answersTo]

end Device

end MTConnect
