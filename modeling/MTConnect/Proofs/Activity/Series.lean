import Mathlib.Data.List.Nodup
import MTConnect.Proofs.Activity.Collector
import MTConnect.Proofs.SortedMap

namespace MTConnect.Exposition

/-!
# Series that no name can forge

Read by a collector, the exposition of a report states what the report holds
and nothing else: two samples for every device, for every data item of a device
and for every asset type, and six about the agent. No two of them have name and
labels in common, so every series is stated once, whatever the devices, data
items and asset types are called.
-/

/-- The samples that a report and a header call for. -/
inductive Stated (report : ActivityReport) (header : Header) :
    String → List Label → String → Prop where
  | deviceCount
      {device : String}
      {rates : DeviceRates}
      (found : report.devices.find? device = some rates) :
      Stated report header "mtconnect_observations_total"
        [⟨"device", device⟩] (toString rates.total.count)
  | deviceSpeed
      {device : String}
      {rates : DeviceRates}
      (found : report.devices.find? device = some rates) :
      Stated report header "mtconnect_observation_rate_per_second"
        [⟨"device", device⟩] (speedText rates.total)
  | itemCount
      {device item : String}
      {rates : DeviceRates}
      {rate : Rate}
      (found : report.devices.find? device = some rates)
      (itemFound : rates.items.find? item = some rate) :
      Stated report header "mtconnect_data_item_observations_total"
        [⟨"device", device⟩, ⟨"data_item", item⟩] (toString rate.count)
  | itemSpeed
      {device item : String}
      {rates : DeviceRates}
      {rate : Rate}
      (found : report.devices.find? device = some rates)
      (itemFound : rates.items.find? item = some rate) :
      Stated report header "mtconnect_data_item_rate_per_second"
        [⟨"device", device⟩, ⟨"data_item", item⟩] (speedText rate)
  | assetCount
      {kind : String}
      {rate : Rate}
      (found : report.assets.find? kind = some rate) :
      Stated report header "mtconnect_asset_updates_total"
        [⟨"asset_type", kind⟩] (toString rate.count)
  | assetSpeed
      {kind : String}
      {rate : Rate}
      (found : report.assets.find? kind = some rate) :
      Stated report header "mtconnect_asset_update_rate_per_second"
        [⟨"asset_type", kind⟩] (speedText rate)
  | bufferSize :
      Stated report header "mtconnect_buffer_size" []
        (toString header.bufferSize)
  | firstSequence :
      Stated report header "mtconnect_first_sequence" []
        (toString header.firstSequence)
  | nextSequence :
      Stated report header "mtconnect_next_sequence" []
        (toString header.nextSequence)
  | assets :
      Stated report header "mtconnect_asset_count" []
        (toString header.assetCount)
  | identifier :
      Stated report header "mtconnect_instance_id" []
        (toString header.instanceId)
  | reportTime :
      Stated report header "mtconnect_metrics_timestamp_seconds" []
        (timeText report.timestamp)

/-- The name and the labels of a sample. -/
def Statement.series? : Statement → Option (String × List Label)
  | .help _ _ => none
  | .kind _ _ => none
  | .sample name labels _ => some (name, labels)

variable {report : ActivityReport} {header : Header}

/-! ## All lines are legible -/

/-- All families of an exposition. -/
def families : List Family :=
  [observations, observationRate, itemObservations, itemRate, assetUpdates,
    assetRate, bufferSize, firstSequence, nextSequence, assetCount, instanceId,
    reportTime]

/-- Every family has a name that a collector accepts and a help text of one line. -/
theorem legible_families :
    ∀ family ∈ families, isName family.name ∧ '\n' ∉ family.help.toList := by
  decide +kernel

/-- The three label names are names that a collector accepts. -/
theorem isName_labels :
    isName "device" ∧ isName "data_item" ∧ isName "asset_type" := by
  decide

section

variable {family : Family} {labels : List Label}

/-- The two lines that announce a family are legible. -/
theorem legible_announce
    (known : family ∈ families)
    {line : Line}
    (member : line ∈ announce family) :
    line.Legible := by
  have legible := legible_families family known
  simp only [announce, List.mem_cons, List.not_mem_nil, or_false] at member
  rcases member with rfl | rfl
  · exact legible
  · exact legible.1

/-- A sample with a count is legible, whatever its labels are set to. -/
theorem legible_count
    (known : family ∈ families)
    (labelsFit : ∀ label ∈ labels, isName label.name)
    (count : Nat) :
    (Line.sample family labels (toString count)).Legible := by
  refine ⟨(legible_families family known).1, labelsFit, ?_, ?_⟩
  · rw [Text.toList_toString]
    exact Text.decimal_ne_nil count
  · rw [Text.toList_toString]
    exact .decimal count

/-- A sample with a double is legible, whatever its labels are set to. -/
theorem legible_decimal
    (known : family ∈ families)
    (labelsFit : ∀ label ∈ labels, isName label.name)
    (places : Nat)
    (value : Float) :
    (Line.sample family labels
      (String.ofList (Decimal.fixed places value))).Legible := by
  refine ⟨(legible_families family known).1, labelsFit, ?_, ?_⟩
  · rw [String.toList_ofList]
    exact Decimal.fixed_ne_nil places value
  · rw [String.toList_ofList]
    exact Decimal.visible_fixed places value

/-- The label of a device has an accepted name. -/
theorem isName_deviceLabel (device : String) :
    ∀ label ∈ [deviceLabel device], isName label.name := by
  simpa [deviceLabel] using isName_labels.1

/-- The labels of a data item have accepted names. -/
theorem isName_itemLabels (device item : String) :
    ∀ label ∈ [deviceLabel device, itemLabel item], isName label.name := by
  simpa [deviceLabel, itemLabel] using
    And.intro isName_labels.1 isName_labels.2.1

/-- The label of an asset type has an accepted name. -/
theorem isName_assetLabel (kind : String) :
    ∀ label ∈ [assetLabel kind], isName label.name := by
  simpa [assetLabel] using isName_labels.2.2

end

/-- All lines about devices are legible. -/
theorem legible_deviceLines : ∀ line ∈ deviceLines report, line.Legible := by
  intro line member
  simp only [deviceLines, List.mem_append, List.mem_map] at member
  rcases member with ((announced | ⟨device, _, rfl⟩) | announced) | ⟨device, _, rfl⟩
  · exact legible_announce (by simp [families]) announced
  · exact legible_count (by simp [families]) (isName_deviceLabel device.1) _
  · exact legible_announce (by simp [families]) announced
  · exact legible_decimal (by simp [families]) (isName_deviceLabel device.1) 2 _

/-- All lines about data items are legible. -/
theorem legible_itemLines : ∀ line ∈ itemLines report, line.Legible := by
  intro line member
  simp only [itemLines, itemSamples, List.mem_append, List.mem_flatMap,
    List.mem_cons, List.not_mem_nil, or_false] at member
  rcases member with (announced | announced) | ⟨device, _, item, _, rfl | rfl⟩
  · exact legible_announce (by simp [families]) announced
  · exact legible_announce (by simp [families]) announced
  · exact
      legible_count (by simp [families]) (isName_itemLabels device.1 item.1) _
  · exact
      legible_decimal (by simp [families])
        (isName_itemLabels device.1 item.1) 2 _

/-- All lines about asset types are legible. -/
theorem legible_assetLines : ∀ line ∈ assetLines report, line.Legible := by
  intro line member
  simp only [assetLines, assetSamples, List.mem_append, List.mem_flatMap,
    List.mem_cons, List.not_mem_nil, or_false] at member
  rcases member with (announced | announced) | ⟨kind, _, rfl | rfl⟩
  · exact legible_announce (by simp [families]) announced
  · exact legible_announce (by simp [families]) announced
  · exact legible_count (by simp [families]) (isName_assetLabel kind.1) _
  · exact legible_decimal (by simp [families]) (isName_assetLabel kind.1) 2 _

/-- A gauge is legible if its sample is. -/
theorem legible_gauge
    {family : Family}
    {value : String}
    (known : family ∈ families)
    (legible : (Line.sample family [] value).Legible) :
    ∀ line ∈ gauge family value, line.Legible := by
  intro line member
  rcases List.mem_append.mp member with announced | isSample
  · exact legible_announce known announced
  · exact List.mem_singleton.mp isSample ▸ legible

/-- All lines about the agent are legible. -/
theorem legible_agentLines : ∀ line ∈ agentLines report header, line.Legible := by
  have counted
      {family : Family}
      (known : family ∈ families)
      (count : Nat) :
      ∀ line ∈ gauge family (toString count), line.Legible :=
    legible_gauge known (legible_count known (by simp) count)
  intro line member
  simp only [agentLines, List.mem_append] at member
  rcases member with ((((inFirst | inSecond) | inThird) | inFourth) | inFifth) | inLast
  · exact counted (by simp [families]) _ line inFirst
  · exact counted (by simp [families]) _ line inSecond
  · exact counted (by simp [families]) _ line inThird
  · exact counted (by simp [families]) _ line inFourth
  · exact counted (by simp [families]) _ line inFifth
  · exact
      legible_gauge (by simp [families])
        (legible_decimal (by simp [families]) (by simp) 3 _) line inLast

/-- All lines of an exposition are legible. -/
theorem legible_lines (report : ActivityReport) (header : Header) :
    ∀ line ∈ lines report header, line.Legible := by
  intro line member
  simp only [lines, List.mem_append] at member
  rcases member with ((inDevices | inItems) | inAssets) | inAgent
  · exact legible_deviceLines line inDevices
  · exact legible_itemLines line inItems
  · exact legible_assetLines line inAssets
  · exact legible_agentLines line inAgent

/-- A collector reads off every line what it was written to say. -/
theorem readText?_text (report : ActivityReport) (header : Header) :
    readText? (text none report header) =
      some ((lines report header).map Line.statement) :=
  readText?_of_legible (legible_lines report header)

/-! ## The samples are those of the report -/

section

variable {family : Family} {labels : List Label} {value : String}

/-- The lines that announce a family hold no sample. -/
theorem sample_not_mem_announce (other : Family) :
    .sample family labels value ∉ announce other := by
  simp [announce]

/-- A gauge holds one sample, without labels. -/
theorem sample_mem_gauge
    {other : Family}
    {stated : String} :
    .sample family labels value ∈ gauge other stated ↔
      family = other ∧ labels = [] ∧ value = stated := by
  simp [gauge, announce]

/-- Every sample of an exposition is one that the report and the header call for. -/
theorem stated_of_mem_lines
    (member : .sample family labels value ∈ lines report header) :
    Stated report header family.name labels value := by
  simp only [lines, List.mem_append] at member
  rcases member with ((inDevices | inItems) | inAssets) | inAgent
  · simp only [deviceLines, List.mem_append, List.mem_map,
      sample_not_mem_announce, false_or, or_false, Line.sample.injEq] at inDevices
    rcases inDevices with
      ⟨device, listed, rfl, rfl, rfl⟩ | ⟨device, listed, rfl, rfl, rfl⟩
    · exact .deviceCount (SortedMap.find?_eq_some_iff.mpr listed)
    · exact .deviceSpeed (SortedMap.find?_eq_some_iff.mpr listed)
  · simp only [itemLines, itemSamples, List.mem_append, List.mem_flatMap,
      sample_not_mem_announce, false_or, List.mem_cons, List.not_mem_nil,
      or_false, Line.sample.injEq] at inItems
    obtain ⟨device, listed, item, itemListed, isSample⟩ := inItems
    rcases isSample with ⟨rfl, rfl, rfl⟩ | ⟨rfl, rfl, rfl⟩
    · exact
        .itemCount (SortedMap.find?_eq_some_iff.mpr listed)
          (SortedMap.find?_eq_some_iff.mpr itemListed)
    · exact
        .itemSpeed (SortedMap.find?_eq_some_iff.mpr listed)
          (SortedMap.find?_eq_some_iff.mpr itemListed)
  · simp only [assetLines, assetSamples, List.mem_append, List.mem_flatMap,
      sample_not_mem_announce, false_or, List.mem_cons, List.not_mem_nil,
      or_false, Line.sample.injEq] at inAssets
    obtain ⟨kind, listed, isSample⟩ := inAssets
    rcases isSample with ⟨rfl, rfl, rfl⟩ | ⟨rfl, rfl, rfl⟩
    · exact .assetCount (SortedMap.find?_eq_some_iff.mpr listed)
    · exact .assetSpeed (SortedMap.find?_eq_some_iff.mpr listed)
  · simp only [agentLines, List.mem_append, sample_mem_gauge] at inAgent
    rcases inAgent with
      ((((⟨rfl, rfl, rfl⟩ | ⟨rfl, rfl, rfl⟩) | ⟨rfl, rfl, rfl⟩) |
        ⟨rfl, rfl, rfl⟩) | ⟨rfl, rfl, rfl⟩) | ⟨rfl, rfl, rfl⟩
    · exact .bufferSize
    · exact .firstSequence
    · exact .nextSequence
    · exact .assets
    · exact .identifier
    · exact .reportTime

/-- Every sample that the report and the header call for is in the exposition. -/
theorem exists_mem_lines
    {name : String}
    (stated : Stated report header name labels value) :
    ∃ family,
      .sample family labels value ∈ lines report header ∧
        family.name = name := by
  simp only [lines, List.mem_append]
  cases stated with
  | deviceCount found =>
      have listed := SortedMap.find?_eq_some_iff.mp found
      refine ⟨observations, .inl (.inl (.inl ?_)), rfl⟩
      simp only [deviceLines, List.mem_append]
      exact .inl (.inl (.inr (List.mem_map.mpr ⟨_, listed, rfl⟩)))
  | deviceSpeed found =>
      have listed := SortedMap.find?_eq_some_iff.mp found
      refine ⟨observationRate, .inl (.inl (.inl ?_)), rfl⟩
      simp only [deviceLines, List.mem_append]
      exact .inr (List.mem_map.mpr ⟨_, listed, rfl⟩)
  | itemCount found itemFound =>
      have listed := SortedMap.find?_eq_some_iff.mp found
      have itemListed := SortedMap.find?_eq_some_iff.mp itemFound
      refine ⟨itemObservations, .inl (.inl (.inr ?_)), rfl⟩
      simp only [itemLines, itemSamples, List.mem_append, List.mem_flatMap]
      exact .inr ⟨_, listed, _, itemListed, List.mem_cons_self⟩
  | itemSpeed found itemFound =>
      have listed := SortedMap.find?_eq_some_iff.mp found
      have itemListed := SortedMap.find?_eq_some_iff.mp itemFound
      refine ⟨itemRate, .inl (.inl (.inr ?_)), rfl⟩
      simp only [itemLines, itemSamples, List.mem_append, List.mem_flatMap]
      exact
        .inr ⟨_, listed, _, itemListed,
          List.mem_cons_of_mem _ List.mem_cons_self⟩
  | assetCount found =>
      have listed := SortedMap.find?_eq_some_iff.mp found
      refine ⟨assetUpdates, .inl (.inr ?_), rfl⟩
      simp only [assetLines, assetSamples, List.mem_append, List.mem_flatMap]
      exact .inr ⟨_, listed, List.mem_cons_self⟩
  | assetSpeed found =>
      have listed := SortedMap.find?_eq_some_iff.mp found
      refine ⟨assetRate, .inl (.inr ?_), rfl⟩
      simp only [assetLines, assetSamples, List.mem_append, List.mem_flatMap]
      exact .inr ⟨_, listed, List.mem_cons_of_mem _ List.mem_cons_self⟩
  | bufferSize => exact ⟨bufferSize, .inr (by simp [agentLines, sample_mem_gauge]), rfl⟩
  | firstSequence => exact ⟨firstSequence, .inr (by simp [agentLines, sample_mem_gauge]), rfl⟩
  | nextSequence => exact ⟨nextSequence, .inr (by simp [agentLines, sample_mem_gauge]), rfl⟩
  | assets => exact ⟨assetCount, .inr (by simp [agentLines, sample_mem_gauge]), rfl⟩
  | identifier => exact ⟨instanceId, .inr (by simp [agentLines, sample_mem_gauge]), rfl⟩
  | reportTime => exact ⟨reportTime, .inr (by simp [agentLines, sample_mem_gauge]), rfl⟩

end

/-! ## No series is stated twice -/

/-- The series of some lines, in their order. -/
def series (lines : List Line) : List (String × List Label) :=
  lines.filterMap fun line => line.statement.series?

/-- The series of two runs of lines follow each other. -/
theorem series_append (front back : List Line) :
    series (front ++ back) = series front ++ series back :=
  List.filterMap_append

/-- The lines that announce a family have no series. -/
theorem series_announce (family : Family) : series (announce family) = [] :=
  rfl

/-- One sample for each entry gives one series for each entry. -/
theorem series_map
    {α : Type}
    (entries : List α)
    (family : Family)
    (labels : α → List Label)
    (value : α → String) :
    series
        (entries.map fun entry => .sample family (labels entry) (value entry)) =
      entries.map fun entry => (family.name, labels entry) := by
  rw [series, List.filterMap_map, ← List.filterMap_eq_map]
  rfl

/-- The series about devices: first all counts, then all rates. -/
theorem series_deviceLines :
    series (deviceLines report) =
      (report.devices.keys.map fun device =>
          (observations.name, [deviceLabel device])) ++
        report.devices.keys.map fun device =>
          (observationRate.name, [deviceLabel device]) := by
  simp only [deviceLines, series_append, series_announce, series_map,
    List.nil_append, List.append_nil, SortedMap.keys, SortedMap.toList,
    List.map_map]
  rfl

/-- The series about data items, count and rate of each item together. -/
theorem series_itemLines :
    series (itemLines report) =
      report.devices.toList.flatMap fun device =>
        device.2.items.keys.flatMap fun item =>
          [(itemObservations.name, [deviceLabel device.1, itemLabel item]),
            (itemRate.name, [deviceLabel device.1, itemLabel item])] := by
  simp only [itemLines, series_append, series_announce, List.nil_append,
    SortedMap.keys, List.flatMap_map]
  simp only [series, List.filterMap_flatMap]
  rfl

/-- The series about asset types, count and rate of each type together. -/
theorem series_assetLines :
    series (assetLines report) =
      report.assets.keys.flatMap fun kind =>
        [(assetUpdates.name, [assetLabel kind]),
          (assetRate.name, [assetLabel kind])] := by
  simp only [assetLines, series_append, series_announce, List.nil_append,
    SortedMap.keys, List.flatMap_map]
  simp only [series, List.filterMap_flatMap]
  rfl

/-- The six series about the agent. -/
theorem series_agentLines :
    series (agentLines report header) =
      [bufferSize, firstSequence, nextSequence, assetCount, instanceId,
        reportTime].map fun family => (family.name, []) :=
  rfl

/-- Some series are distinct, and all of them are of families of the given names. -/
structure DistinctWithin
    (names : List String)
    (stated : List (String × List Label)) : Prop where
  nodup : stated.Nodup
  within : ∀ entry ∈ stated, entry.1 ∈ names

/-- Series of different families differ. -/
theorem DistinctWithin.append
    {front back : List (String × List Label)}
    {frontNames backNames : List String}
    (first : DistinctWithin frontNames front)
    (second : DistinctWithin backNames back)
    (apart : ∀ name ∈ frontNames, name ∉ backNames) :
    DistinctWithin (frontNames ++ backNames) (front ++ back) where
  nodup := by
    refine List.Nodup.append first.nodup second.nodup ?_
    intro entry inFront inBack
    exact apart _ (first.within entry inFront) (second.within entry inBack)
  within := by
    intro entry member
    rcases List.mem_append.mp member with inFront | inBack
    · exact List.mem_append_left _ (first.within entry inFront)
    · exact List.mem_append_right _ (second.within entry inBack)

/-- Series that bear a mark of what they are about are distinct if the marks are. -/
theorem nodup_flatMap_of_marks
    {α : Type}
    {entries : List α}
    {about : α → List (String × List Label)}
    (mark : α → String)
    (marked? : String × List Label → Option String)
    (distinct : (entries.map mark).Nodup)
    (each : ∀ entry ∈ entries, (about entry).Nodup)
    (bears :
      ∀ entry ∈ entries, ∀ stated ∈ about entry,
        marked? stated = some (mark entry)) :
    (entries.flatMap about).Nodup := by
  rw [List.nodup_flatMap]
  refine ⟨each, ?_⟩
  refine (List.pairwise_map.mp distinct).imp_of_mem ?_
  intro first second inFirst inSecond differ stated ofFirst ofSecond
  refine differ (Option.some.inj ?_)
  exact
    (bears first inFirst stated ofFirst).symm.trans
      (bears second inSecond stated ofSecond)

/-- No series about a device is stated twice. -/
theorem distinct_deviceSeries (report : ActivityReport) :
    DistinctWithin [observations.name, observationRate.name]
      (series (deviceLines report)) := by
  have distinct (family : Family) :
      DistinctWithin [family.name]
        (report.devices.keys.map fun device =>
          (family.name, [deviceLabel device])) := by
    refine ⟨report.devices.nodup_keys.map fun first second same => ?_, by simp⟩
    simpa [deviceLabel] using same
  rw [series_deviceLines]
  exact (distinct observations).append (distinct observationRate) (by decide)

/-- No series about a data item is stated twice, even if devices share item names. -/
theorem distinct_itemSeries (report : ActivityReport) :
    DistinctWithin [itemObservations.name, itemRate.name]
      (series (itemLines report)) := by
  have namesDiffer : itemObservations.name ≠ itemRate.name := by
    decide
  rw [series_itemLines]
  refine ⟨?_, ?_⟩
  · -- The first label tells the devices apart, the second one their items.
    refine
      nodup_flatMap_of_marks Prod.fst
        (fun stated => stated.2.head?.map Label.value)
        report.devices.nodup_keys ?_ ?_
    · intro device _
      refine
        nodup_flatMap_of_marks id
          (fun stated => stated.2.getLast?.map Label.value)
          (by simpa using device.2.items.nodup_keys) ?_ ?_
      · intro item _
        simp [namesDiffer]
      · intro item _
        simp [deviceLabel, itemLabel]
    · rintro device _ stated ofDevice
      simp only [List.mem_flatMap, List.mem_cons, List.not_mem_nil,
        or_false] at ofDevice
      obtain ⟨item, _, rfl | rfl⟩ := ofDevice
      · rfl
      · rfl
  · simp only [List.mem_flatMap, List.mem_cons, List.not_mem_nil, or_false]
    rintro stated ⟨device, _, item, _, rfl | rfl⟩
    · exact .inl rfl
    · exact .inr rfl

/-- No series about an asset type is stated twice. -/
theorem distinct_assetSeries (report : ActivityReport) :
    DistinctWithin [assetUpdates.name, assetRate.name]
      (series (assetLines report)) := by
  have namesDiffer : assetUpdates.name ≠ assetRate.name := by
    decide
  rw [series_assetLines]
  refine ⟨?_, ?_⟩
  · refine
      nodup_flatMap_of_marks id
        (fun stated => stated.2.head?.map Label.value)
        (by simpa using report.assets.nodup_keys) ?_ ?_
    · intro kind _
      simp [namesDiffer]
    · intro kind _
      simp [assetLabel]
  · simp only [List.mem_flatMap, List.mem_cons, List.not_mem_nil, or_false]
    rintro stated ⟨kind, _, rfl | rfl⟩
    · exact .inl rfl
    · exact .inr rfl

/-- No series about the agent is stated twice. -/
theorem distinct_agentSeries (report : ActivityReport) (header : Header) :
    DistinctWithin
      ([bufferSize, firstSequence, nextSequence, assetCount, instanceId,
        reportTime].map Family.name)
      (series (agentLines report header)) := by
  rw [series_agentLines]
  exact ⟨by decide, by simp⟩

/-- No two samples have name and labels in common. -/
theorem nodup_series (report : ActivityReport) (header : Header) :
    (series (lines report header)).Nodup := by
  simp only [lines, series_append]
  have aboutItems :=
    (distinct_deviceSeries report).append (distinct_itemSeries report)
      (by decide)
  have aboutAssets :=
    aboutItems.append (distinct_assetSeries report) (by decide)
  exact
    (aboutAssets.append (distinct_agentSeries report header)
      (by decide)).nodup

/--
A collector reads an exposition whole, finds the samples of the report and no
others, and finds no series twice.
-/
theorem series_read_back (report : ActivityReport) (header : Header) :
    ∃ statements,
      readText? (text none report header) = some statements ∧
        (∀ name labels value,
          .sample name labels value ∈ statements ↔
            Stated report header name labels value) ∧
        (statements.filterMap Statement.series?).Nodup := by
  refine ⟨_, readText?_text report header, ?_, ?_⟩
  · intro name labels value
    constructor
    · intro member
      obtain ⟨line, inLines, said⟩ := List.mem_map.mp member
      cases line with
      | help family => simp [Line.statement] at said
      | kind family => simp [Line.statement] at said
      | sample family lineLabels lineValue =>
          obtain ⟨rfl, rfl, rfl⟩ := Statement.sample.inj said
          exact stated_of_mem_lines inLines
    · intro stated
      obtain ⟨family, inLines, rfl⟩ := exists_mem_lines stated
      exact List.mem_map.mpr ⟨_, inLines, rfl⟩
  · rw [List.filterMap_map]
    exact nodup_series report header

end MTConnect.Exposition
