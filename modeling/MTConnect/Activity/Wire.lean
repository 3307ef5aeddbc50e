import MTConnect.Activity.Monitor
import MTConnect.Json.Exact
import MTConnect.Observation.Wire

namespace MTConnect

/-!
# Activity reports as JSON

A rate is written as its count and its exact speed. Beside its parts a report
says whether it is empty and how many observations there were in all.
-/

/-- A map as JSON, in the order of its keys. -/
def SortedMap.toJson {α : Type} (write : α → Json) (map : SortedMap String α) : Json :=
  .object (map.toList.map fun entry => (entry.1, write entry.2))

/-- A rate as JSON. -/
def Rate.toJson (rate : Rate) : Json :=
  .array [.natural rate.count, .doubleBits rate.perSecond]

/-- The rates of a device as JSON. -/
def DeviceRates.toJson (device : DeviceRates) : Json :=
  .object
    [("observations", device.total.toJson),
      ("data_items", device.items.toJson Rate.toJson),
      ("total", .natural device.total.count)]

/-- An activity report as JSON. -/
def ActivityReport.toJson (report : ActivityReport) : Json :=
  .object
    [("timestamp", report.timestamp.toJson),
      ("devices", report.devices.toJson DeviceRates.toJson),
      ("assets", report.assets.toJson Rate.toJson),
      ("empty", .bool report.isEmpty),
      ("total", .natural report.totalObservations)]

end MTConnect
