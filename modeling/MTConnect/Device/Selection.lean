import MTConnect.Device.Catalog
import MTConnect.Device.Path.Reader
import MTConnect.Observation.Filter

namespace MTConnect.Catalog

/-!
# Selecting observations by device and path

A request names a device, a path, both or neither. The selection turns them
into a filter on stored keys: without a path the filter names the device, and
with a path it names every data item in scope that the path selects. A path
that selects nothing is refused.
-/

/-- The devices in scope: the one that answers to the key, or all. -/
def scope (catalog : Catalog) (deviceKey? : Option String) : Except Fault (List Device) :=
  match deviceKey? with
  | none => .ok catalog.devices
  | some key => (catalog.findDevice key).map fun device => [device]

/-- The stored keys of the data items that a path selects on a device. -/
def selectedItems (path : Path) (device : Device) : List ItemKey :=
  (device.dataItems.filter fun item => path.admits device item).map
    fun item => { device := device.uuid, item := item.id }

/-- The filter that admits the observations of some devices. -/
def filterOfScope (deviceKey? : Option String) (devices : List Device) : ObservationFilter :=
  match deviceKey? with
  | none => .all
  | some _ =>
      devices.foldl (fun filter device => filter.onDevice device.uuid) .all

/-- The filter of a path over the devices in scope. -/
def filterOfPath (devices : List Device) (text : String) : Except Fault ObservationFilter :=
  match Path.parse text with
  | .error defect => .error (.invalidRequest (.badPath text defect))
  | .ok path =>
      let keys := devices.flatMap (selectedItems path)
      if keys.isEmpty then
        .error (.invalidRequest (.emptySelection text))
      else
        .ok (ObservationFilter.all.onItems keys)

/-- The filter that an optional device key and an optional path ask for. -/
def select (catalog : Catalog) (deviceKey? path? : Option String) : Except Fault ObservationFilter := do
  let devices ← catalog.scope deviceKey?
  match path? with
  | none => pure (filterOfScope deviceKey? devices)
  | some text => filterOfPath devices text

end MTConnect.Catalog
