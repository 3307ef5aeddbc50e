import MTConnect.Activity.Rate
import MTConnect.SortedMap
import MTConnect.Timestamp

namespace MTConnect

/-!
# The activity monitor

The monitor counts accepted observations per device and data item, and asset
changes per asset type. Rates are worked out when the monitor ticks; a report
shows the counts of the moment beside the rates of the last tick.
-/

/-- How many observations a device has reported, in all and per data item. -/
structure DeviceCounts where
  total : Nat := 0
  items : SortedMap String Nat := .empty
  deriving Repr, DecidableEq, Inhabited

/-- The rates of a device and of its data items. -/
structure DeviceRates where
  total : Rate := .zero
  items : SortedMap String Rate := .empty
  deriving Repr, Inhabited

/-- All rates at one time. -/
structure ActivityReport where
  /-- When the rates were last worked out. -/
  timestamp : Timestamp := .epoch
  devices : SortedMap String DeviceRates := .empty
  assets : SortedMap String Rate := .empty
  deriving Repr, Inhabited

namespace ActivityReport

/-- Whether nothing was counted. -/
def isEmpty (report : ActivityReport) : Bool :=
  report.devices.isEmpty && report.assets.isEmpty

/-- The observations of all devices. -/
def totalObservations (report : ActivityReport) : Nat :=
  report.devices.values.foldl (fun sum device => sum + device.total.count) 0

end ActivityReport

/-- Counts of observations and asset changes, and the rates of the last tick. -/
structure ActivityMonitor where
  smoothing : Float
  devices : SortedMap String DeviceCounts := .empty
  assets : SortedMap String Nat := .empty
  lastTick : Option Timestamp := none
  rates : ActivityReport := {}
  deriving Repr, Inhabited

namespace ActivityMonitor

/-- The smoothing factor that is used when none is given. -/
def defaultSmoothing : Float := 0.3

/-- The smoothing factor in use: at most one, and the default for what is no factor. -/
def usableSmoothing (smoothing : Float) : Float :=
  if smoothing.isFinite && smoothing > 0.0 then
    if smoothing < 1.0 then smoothing else 1.0
  else
    defaultSmoothing

/-- A monitor that has counted nothing. -/
def empty (smoothing : Float) : ActivityMonitor where
  smoothing := usableSmoothing smoothing

/-- Add one to a count in a map of counts. -/
def countUp (counts : SortedMap String Nat) (key : String) : SortedMap String Nat :=
  counts.update key fun count? => count?.getD 0 + 1

/-- Count an accepted observation. -/
def countObservation (monitor : ActivityMonitor) (device item : String) : ActivityMonitor :=
  { monitor with
    devices := monitor.devices.update device fun counts? =>
      let counts := counts?.getD {}
      { total := counts.total + 1, items := countUp counts.items item } }

/-- Count an asset change. -/
def countAsset (monitor : ActivityMonitor) (kind : String) : ActivityMonitor :=
  { monitor with assets := countUp monitor.assets kind }

/-- A number of milliseconds in seconds. -/
def secondsOf (millis : Nat) : Float :=
  (millis / 1000).toUInt64.toFloat +
    (millis % 1000 * 1000000).toUInt64.toFloat / 1000000000.0

/-- A rate after a tick; the first tick only takes the count. -/
def refresh (smoothing : Float) (seconds? : Option Float) (rate : Rate) (count : Nat) : Rate :=
  match seconds? with
  | some seconds => rate.update count seconds smoothing
  | none => { rate with count := count }

/-- Work out all rates from the counts of now. -/
def tick (monitor : ActivityMonitor) (now : Timestamp) : ActivityMonitor :=
  let seconds? := monitor.lastTick.map fun last => secondsOf (now.since last)
  let refresh := refresh monitor.smoothing seconds?
  { monitor with
    lastTick := some now
    rates :=
      { timestamp := now
        devices := monitor.devices.mapValues fun device counts =>
          let before := (monitor.rates.devices.find? device).getD {}
          { total := refresh before.total counts.total
            items := counts.items.mapValues fun item count =>
              refresh ((before.items.find? item).getD .zero) count }
        assets := monitor.assets.mapValues fun kind count =>
          refresh ((monitor.rates.assets.find? kind).getD .zero) count } }

/-- A count of now with the speed of a rate of the last tick. -/
def withSpeedOf (rate? : Option Rate) (count : Nat) : Rate where
  count := count
  perSecond := (rate?.getD .zero).perSecond

/-- The counts of now beside the rates of the last tick. -/
def report (monitor : ActivityMonitor) : ActivityReport where
  timestamp := monitor.rates.timestamp
  devices := monitor.devices.mapValues fun device counts =>
    let before := (monitor.rates.devices.find? device).getD {}
    { total := withSpeedOf (some before.total) counts.total
      items := counts.items.mapValues fun item count =>
        withSpeedOf (before.items.find? item) count }
  assets := monitor.assets.mapValues fun kind count =>
    withSpeedOf (monitor.rates.assets.find? kind) count

end ActivityMonitor

end MTConnect
