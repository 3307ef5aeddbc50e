import MTConnect.Device.Description
import MTConnect.Fault

namespace MTConnect

/-!
# The device catalog

The catalog is the list of devices that the agent knows. Keys are looked up
in order, so a key that several devices share finds the first of them.
-/

/-- The devices that the agent knows, in the order of a probe. -/
structure Catalog where
  devices : List Device := []
  deriving Repr, DecidableEq, Inhabited

/-- The stored keys of a data item, and its category. -/
structure ItemAddress where
  device : String
  item : String
  category : Category
  deriving Repr, DecidableEq, Inhabited

namespace Catalog

/-- The first device that answers to a key. -/
def device? (catalog : Catalog) (key : String) : Option Device :=
  catalog.devices.find? fun device => device.answersTo key

/-- The first device that answers to a key, or the fault that there is none. -/
def findDevice (catalog : Catalog) (key : String) : Except Fault Device :=
  match catalog.device? key with
  | some device => .ok device
  | none => .error (.unknownDevice key)

/-- The address of the data item that a device key and an item key name. -/
def resolve (catalog : Catalog) (deviceKey itemKey : String) : Except Fault ItemAddress :=
  match catalog.device? deviceKey with
  | none => .error (.unknownDevice deviceKey)
  | some device =>
      match device.item? itemKey with
      | none => .error (.unknownItem deviceKey itemKey)
      | some item =>
          .ok
            { device := device.uuid
              item := item.id
              category := item.category }

/-- A device that is found answers to the key. -/
theorem answersTo_of_device?
    {catalog : Catalog}
    {key : String}
    {device : Device}
    (found : catalog.device? key = some device) :
    device.answersTo key = true := by
  simpa using List.find?_some found

end Catalog

end MTConnect
