import MTConnect.Activity.Monitor
import MTConnect.Observation.Basic
import MTConnect.Proofs.SortedMap

namespace MTConnect

/-!
# What the monitor has counted

A monitor that was told of some observations has counted each of them once:
for its data item, for its device, and in all. A report shows the counts of
the moment, whatever the rates beside them are.
-/

namespace ActivityReport

/-- How many observations of a data item a report shows. -/
def itemCount (report : ActivityReport) (device item : String) : Nat :=
  match report.devices.find? device with
  | none => 0
  | some rates => ((rates.items.find? item).map Rate.count).getD 0

/-- How many changes of assets of a type a report shows. -/
def assetCount (report : ActivityReport) (kind : String) : Nat :=
  ((report.assets.find? kind).map Rate.count).getD 0

end ActivityReport

namespace ActivityMonitor

/-- Count observations, one after the other. -/
def countAll
    (monitor : ActivityMonitor)
    (observations : List Observation) :
    ActivityMonitor :=
  observations.foldl
    (fun counting observation =>
      counting.countObservation observation.device observation.item)
    monitor

/-- Count changes of assets, one after the other. -/
def countKinds (counts : SortedMap String Nat) (kinds : List String) : SortedMap String Nat :=
  kinds.foldl countUp counts

/-- The counts of the data items of a device. -/
def itemCounts (monitor : ActivityMonitor) (device : String) : SortedMap String Nat :=
  ((monitor.devices.find? device).getD {}).items

theorem countAll_append
    (monitor : ActivityMonitor)
    (earlier later : List Observation) :
    monitor.countAll (earlier ++ later) =
      (monitor.countAll earlier).countAll later :=
  List.foldl_append

/-- What is counted does not depend on the rates or on the assets. -/
theorem devices_countAll_congr
    {first second : ActivityMonitor}
    (same : first.devices = second.devices)
    (observations : List Observation) :
    (first.countAll observations).devices =
      (second.countAll observations).devices := by
  induction observations generalizing first second with
  | nil => exact same
  | cons observation rest inductionHypothesis =>
      apply inductionHypothesis
      simp only [countObservation, same]

/-- Counting an observation counts its data item up and leaves the others. -/
theorem itemCounts_countObservation
    (monitor : ActivityMonitor)
    (device item other : String) :
    (monitor.countObservation device item).itemCounts other =
      if other = device then countUp (monitor.itemCounts device) item
      else monitor.itemCounts other := by
  simp only [itemCounts, countObservation, SortedMap.update,
    SortedMap.find?_insert, Std.LawfulEqCmp.compare_eq_iff_eq]
  split <;> rfl

/-- What is counted for a device comes from the observations of that device. -/
theorem itemCounts_countAll
    (monitor : ActivityMonitor)
    (observations : List Observation)
    (device : String) :
    (monitor.countAll observations).itemCounts device =
      (observations.filter fun observation =>
          observation.device == device).foldl
        (fun counts observation => countUp counts observation.item)
        (monitor.itemCounts device) := by
  induction observations generalizing monitor with
  | nil => rfl
  | cons observation rest inductionHypothesis =>
      refine (inductionHypothesis _).trans ?_
      rw [itemCounts_countObservation]
      by_cases same : observation.device = device
      · simp [same]
      · simp [same, Ne.symm same]

/-- A data item was counted once for each of its observations. -/
theorem itemCount_countAll
    (monitor : ActivityMonitor)
    (observations : List Observation)
    (device item : String) :
    (((monitor.countAll observations).itemCounts device).find? item).getD 0 =
      ((monitor.itemCounts device).find? item).getD 0 +
        observations.countP fun observation =>
          observation.key == ⟨device, item⟩ := by
  have counted :
      (observations.filter fun observation =>
          observation.device == device).countP
          (fun observation => observation.item == item) =
        observations.countP fun observation =>
          observation.key == ⟨device, item⟩ := by
    rw [List.countP_filter]
    apply List.countP_congr
    intro observation _
    simp [Observation.key, and_comm]
  rw [itemCounts_countAll]
  unfold countUp
  rw [SortedMap.find?_tally, counted]
  split
  next nothing => rw [nothing, Nat.add_zero]
  next => rfl

/-- A device has been counted as often as its data items together. -/
def Balanced (monitor : ActivityMonitor) : Prop :=
  ∀ device counts,
    monitor.devices.find? device = some counts →
    counts.total = counts.items.values.sum

/-- How many observations were counted in all. -/
def total (monitor : ActivityMonitor) : Nat :=
  (monitor.devices.values.map DeviceCounts.total).sum

/-- A map of counts grows by one when one of them is counted up. -/
theorem sum_countUp (counts : SortedMap String Nat) (key : String) :
    (countUp counts key).values.sum = counts.values.sum + 1 := by
  have grown :=
    counts.sum_insert id key ((counts.find? key).getD 0 + 1)
  simp only [List.map_id_fun, id_eq, Option.map_id_fun] at grown
  unfold countUp SortedMap.update
  dsimp only
  omega

/-- Counting always shows. -/
theorem countUp_ne (counts : SortedMap String Nat) (key : String) :
    countUp counts key ≠ counts := by
  intro same
  have grown := sum_countUp counts key
  rw [same] at grown
  exact Nat.succ_ne_self _ grown.symm

/-- One observation counts for its device and for its data item alike. -/
theorem Balanced.countObservation
    {monitor : ActivityMonitor}
    (balanced : monitor.Balanced)
    (device item : String) :
    (monitor.countObservation device item).Balanced := by
  intro other counts found
  simp only [ActivityMonitor.countObservation, SortedMap.update,
    SortedMap.find?_insert] at found
  split at found
  next =>
    rw [← Option.some.inj found]
    dsimp only
    rw [sum_countUp]
    cases before : monitor.devices.find? device with
    | none => rfl
    | some counts =>
        exact congrArg (· + 1) (balanced device counts before)
  next => exact balanced other counts found

/-- One observation makes one more in all. -/
theorem total_countObservation
    (monitor : ActivityMonitor)
    (device item : String) :
    (monitor.countObservation device item).total = monitor.total + 1 := by
  have grown :=
    monitor.devices.sum_insert DeviceCounts.total device
      { total := ((monitor.devices.find? device).getD {}).total + 1
        items :=
          countUp ((monitor.devices.find? device).getD {}).items item }
  have before :
      ((monitor.devices.find? device).map DeviceCounts.total).getD 0 =
        ((monitor.devices.find? device).getD {}).total := by
    cases monitor.devices.find? device <;> rfl
  rw [before] at grown
  unfold total countObservation SortedMap.update
  dsimp only at grown ⊢
  omega

/-- A balanced monitor stays balanced. -/
theorem Balanced.countAll
    {monitor : ActivityMonitor}
    (balanced : monitor.Balanced)
    (observations : List Observation) :
    (monitor.countAll observations).Balanced := by
  induction observations generalizing monitor with
  | nil => exact balanced
  | cons observation rest inductionHypothesis =>
      exact inductionHypothesis (balanced.countObservation _ _)

/-- Every observation makes one more in all. -/
theorem total_countAll
    (monitor : ActivityMonitor)
    (observations : List Observation) :
    (monitor.countAll observations).total =
      monitor.total + observations.length := by
  induction observations generalizing monitor with
  | nil => rfl
  | cons observation rest inductionHypothesis =>
      refine (inductionHypothesis _).trans ?_
      rw [total_countObservation, List.length_cons]
      omega

/-- A monitor has counted some observations, and nothing else. -/
structure HasCounted
    (monitor : ActivityMonitor)
    (observations : List Observation) :
    Prop where
  item_eq :
    ∀ device item,
      ((monitor.itemCounts device).find? item).getD 0 =
        observations.countP fun observation =>
          observation.key == ⟨device, item⟩
  balanced : monitor.Balanced
  total_eq : monitor.total = observations.length

theorem hasCounted_empty (smoothing : Float) :
    (empty smoothing).HasCounted [] where
  item_eq := fun _ _ => rfl
  balanced := by
    intro device counts found
    cases found
  total_eq := rfl

namespace HasCounted

variable
  {monitor : ActivityMonitor}
  {observations : List Observation}

/-- What is counted later is counted in addition. -/
theorem countAll
    (counted : monitor.HasCounted observations)
    (later : List Observation) :
    (monitor.countAll later).HasCounted (observations ++ later) where
  item_eq := by
    intro device item
    rw [itemCount_countAll, counted.item_eq, List.countP_append]
  balanced := counted.balanced.countAll later
  total_eq := by
    rw [total_countAll, counted.total_eq, List.length_append]

/-- What a monitor has counted shows in its devices alone. -/
theorem of_devices_eq
    (counted : monitor.HasCounted observations)
    {other : ActivityMonitor}
    (same : other.devices = monitor.devices) :
    other.HasCounted observations where
  item_eq := by
    unfold itemCounts
    rw [same]
    exact counted.item_eq
  balanced := by
    unfold Balanced
    rw [same]
    exact counted.balanced
  total_eq := by
    unfold total
    rw [same]
    exact counted.total_eq

/-- A report shows for a data item how often it was observed. -/
theorem itemCount_report
    (counted : monitor.HasCounted observations)
    (device item : String) :
    monitor.report.itemCount device item =
      observations.countP fun observation =>
        observation.key == ⟨device, item⟩ := by
  rw [← counted.item_eq device item, ActivityReport.itemCount, report,
    SortedMap.find?_mapValues, itemCounts]
  cases monitor.devices.find? device with
  | none => rfl
  | some counts =>
      dsimp only [Option.map_some, Option.getD_some]
      rw [SortedMap.find?_mapValues, Option.map_map]
      cases counts.items.find? item <;> rfl

/-- The count that a report shows for a device is the sum of those of its data items. -/
theorem device_report
    (counted : monitor.HasCounted observations)
    {device : String}
    {rates : DeviceRates}
    (found : monitor.report.devices.find? device = some rates) :
    rates.total.count = (rates.items.values.map Rate.count).sum := by
  simp only [report, SortedMap.find?_mapValues] at found
  obtain ⟨counts, countsFound, rfl⟩ := Option.map_eq_some_iff.mp found
  refine (counted.balanced device counts countsFound).trans ?_
  simp [SortedMap.values, SortedMap.mapValues, withSpeedOf, Function.comp_def]

theorem totalObservations_report
    (counted : monitor.HasCounted observations) :
    monitor.report.totalObservations = observations.length := by
  rw [← counted.total_eq, ActivityReport.totalObservations,
    ← List.foldl_map, ← List.sum_eq_foldl_nat]
  simp [total, report, SortedMap.values, SortedMap.mapValues, withSpeedOf,
    Function.comp_def]

end HasCounted

/-- A report shows for a type how often assets of it were counted. -/
theorem assetCount_report
    {monitor : ActivityMonitor}
    {kinds : List String}
    (counted : monitor.assets = countKinds .empty kinds)
    (kind : String) :
    monitor.report.assetCount kind = kinds.count kind := by
  have tallied :=
    SortedMap.find?_tally id kinds (.empty : SortedMap String Nat) kind
  have countEq :
      ((monitor.assets.find? kind).getD 0) = kinds.count kind := by
    rw [counted]
    unfold countKinds countUp
    refine (congrArg (Option.getD · 0) tallied).trans ?_
    simp only [SortedMap.find?_empty, Option.getD_none, Nat.zero_add, id_eq,
      List.count]
    split
    next nothing => rw [nothing, Option.getD_none]
    next => rfl
  rw [← countEq, ActivityReport.assetCount, report, SortedMap.find?_mapValues,
    Option.map_map]
  cases monitor.assets.find? kind <;> rfl

end ActivityMonitor

end MTConnect
