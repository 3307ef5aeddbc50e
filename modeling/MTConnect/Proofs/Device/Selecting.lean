import MTConnect.Device.Selection
import MTConnect.Proofs.Observation.Restrictions

namespace MTConnect

/-!
# What a device and a path select

A path tests the attributes of data items and devices, and a request may name a
device, a path, both or neither. What a request asks for is said here without
filters: which devices are in scope, and which of their data items satisfy an
alternative of the path. The filter that is made of a request admits exactly the
observations of those, whatever keys and identifiers occur more than once, and a
request is refused exactly if its device is unknown, or else if its path is
malformed or satisfied by nothing in scope.
-/

/-- The value of an attribute of a data item that paths can test. -/
def DataItem.attribute? (item : DataItem) : String → Option String
  | "id" => some item.id
  | "name" => item.name
  | "type" => some item.kind
  | "subType" => item.subType
  | "category" => some item.category.name
  | "units" => item.units
  | _ => none

/-- The value of an attribute of a device that paths can test. -/
def Device.attribute? (device : Device) : String → Option String
  | "uuid" => some device.uuid
  | "id" => some device.uuid
  | "name" => some device.name
  | _ => none

namespace Path

/-- A data item of a device satisfies an alternative: each test finds the value it asks for. -/
structure Term.SatisfiedBy (term : Term) (device : Device) (item : DataItem) : Prop where
  device : ∀ test ∈ term.device, device.attribute? test.key = some test.value
  item : ∀ test ∈ term.item, item.attribute? test.key = some test.value

theorem Test.admitsItem_iff
    {test : Test}
    {item : DataItem} :
    test.admitsItem item = true ↔ item.attribute? test.key = some test.value := by
  obtain ⟨key, value⟩ := test
  dsimp only [admitsItem, DataItem.attribute?]
  split <;> simp

/-- A test admits a device if the attribute has the value. -/
theorem Test.admitsDevice_iff
    {test : Test}
    {device : Device} :
    test.admitsDevice device = true ↔
      device.attribute? test.key = some test.value := by
  obtain ⟨key, value⟩ := test
  dsimp only [admitsDevice, Device.attribute?]
  split <;> simp

/-- An alternative admits a data item of a device if all its tests are satisfied. -/
theorem Term.admits_iff
    {term : Term}
    {device : Device}
    {item : DataItem} :
    term.admits device item = true ↔ term.SatisfiedBy device item := by
  simp only [admits, Bool.and_eq_true, List.all_eq_true, Test.admitsDevice_iff,
    Test.admitsItem_iff]
  exact ⟨fun both => ⟨both.1, both.2⟩, fun both => ⟨both.1, both.2⟩⟩

end Path

/-- Some alternative of a path is satisfied by a data item that a device has. -/
structure Path.Finds (path : Path) (device : Device) (item : DataItem) : Prop where
  member : item ∈ device.dataItems
  satisfied : ∃ term ∈ path.terms, term.SatisfiedBy device item

namespace Catalog

variable (catalog : Catalog)

/-- No device has a key as its identifier or its name. -/
def Unknown (key : String) : Prop :=
  ∀ device ∈ catalog.devices, device.uuid ≠ key ∧ device.name ≠ key

/-- A device has a key as its identifier or its name, and no device before it has. -/
def First (key : String) (device : Device) : Prop :=
  ∃ earlier later,
    catalog.devices = earlier ++ device :: later ∧
      (device.uuid = key ∨ device.name = key) ∧
      ∀ other ∈ earlier, other.uuid ≠ key ∧ other.name ≠ key

/-- A device is in scope: it is the first that has the key, or there is no key. -/
def InScope (deviceKey? : Option String) (device : Device) : Prop :=
  match deviceKey? with
  | none => device ∈ catalog.devices
  | some key => catalog.First key device

/-- Why the path of a request is refused. -/
inductive PathRefused (deviceKey? : Option String) (text : String) : Refusal → Prop where
  | malformed
      {defect : Path.Defect}
      (failed : Path.parse text = .error defect) :
      PathRefused deviceKey? text (.badPath text defect)
  | empty
      {path : Path}
      (parsed : Path.parse text = .ok path)
      (nothing :
        ∀ device, catalog.InScope deviceKey? device →
          ∀ item, ¬ path.Finds device item) :
      PathRefused deviceKey? text (.emptySelection text)

/-- What a request asks for: everything, a device, or what its path finds in scope. -/
inductive Asked (observation : Observation) : Option String → Option String → Prop where
  | everything : Asked observation none none
  | device
      {key : String}
      {device : Device}
      (first : catalog.First key device)
      (ofDevice : observation.device = device.uuid) :
      Asked observation (some key) none
  | item
      {deviceKey? : Option String}
      {text : String}
      {path : Path}
      {device : Device}
      {item : DataItem}
      (parsed : Path.parse text = .ok path)
      (inScope : catalog.InScope deviceKey? device)
      (finds : path.Finds device item)
      (ofDevice : observation.device = device.uuid)
      (ofItem : observation.item = item.id) :
      Asked observation deviceKey? (some text)

variable {catalog}

/-! ## The scope of a request -/

theorem device?_eq_none_iff {key : String} :
    catalog.device? key = none ↔ catalog.Unknown key := by
  simp [device?, Unknown, Device.answersTo]

/-- A key finds the first device that has it. -/
theorem device?_eq_some_iff
    {key : String}
    {device : Device} :
    catalog.device? key = some device ↔ catalog.First key device := by
  rw [device?, List.find?_eq_some_iff_append, First]
  simp only [Device.answersTo, Bool.or_eq_true, beq_iff_eq, Bool.not_eq_true',
    Bool.or_eq_false_iff, beq_eq_false_iff_ne]
  constructor
  · rintro ⟨answers, earlier, later, split, silent⟩
    exact ⟨earlier, later, split, answers, silent⟩
  · rintro ⟨earlier, later, split, answers, silent⟩
    exact ⟨answers, earlier, later, split, silent⟩

/-- A scope fails for an unknown key only, and otherwise holds the devices in scope. -/
theorem scope_cases (catalog : Catalog) (deviceKey? : Option String) :
    (∃ key, deviceKey? = some key ∧ catalog.Unknown key ∧
        catalog.scope deviceKey? = .error (.unknownDevice key)) ∨
      (∀ key, deviceKey? = some key → ¬ catalog.Unknown key) ∧
        ∃ devices,
          catalog.scope deviceKey? = .ok devices ∧
            ∀ device, device ∈ devices ↔ catalog.InScope deviceKey? device := by
  cases deviceKey? with
  | none =>
      right
      exact ⟨by simp, catalog.devices, rfl, fun device => Iff.rfl⟩
  | some key =>
      cases found : catalog.device? key with
      | none =>
          left
          refine ⟨key, rfl, device?_eq_none_iff.mp found, ?_⟩
          simp [scope, findDevice, found, Except.map]
      | some device =>
          right
          refine
            ⟨?_, [device], by simp [scope, findDevice, found, Except.map], ?_⟩
          · intro _ same unknown
            obtain rfl := Option.some.inj same
            rw [device?_eq_none_iff.mpr unknown] at found
            cases found
          · intro other
            rw [List.mem_singleton, InScope, ← device?_eq_some_iff, found,
              Option.some.injEq, eq_comm]

/-! ## The filter of a request -/

/-- Every device in scope passes, and there is no other restriction. -/
theorem admits_filterOfScope_iff
    {key : String}
    {devices : List Device}
    (nonempty : devices ≠ [])
    {observation : Observation} :
    (filterOfScope (some key) devices).admits observation = true ↔
      ∃ device ∈ devices, observation.device = device.uuid := by
  have built :
      filterOfScope (some key) devices =
        Restriction.build
          (devices.map fun device => .onDevice device.uuid) := by
    simp [filterOfScope, Restriction.build, List.foldl_map, Restriction.applyTo]
  obtain ⟨first, others, rfl⟩ := List.exists_cons_of_ne_nil nonempty
  rw [built, Restriction.admits_build_iff]
  constructor
  · rintro ⟨device, _, _⟩
    rcases device with noDevice | named
    · exact absurd List.mem_cons_self (noDevice first.uuid)
    · obtain ⟨device, member, same⟩ := List.mem_map.mp named
      exact ⟨device, member, (Restriction.onDevice.inj same).symm⟩
  · rintro ⟨device, member, same⟩
    refine ⟨Or.inr ?_, Or.inl (by simp), Or.inl (by simp)⟩
    rw [same]
    exact List.mem_map_of_mem member

/-- Only the observations of listed data items pass. -/
theorem admits_onItems_iff
    {keys : List ItemKey}
    {observation : Observation} :
    (ObservationFilter.all.onItems keys).admits observation = true ↔
      observation.key ∈ keys := by
  have built :
      ObservationFilter.all.onItems keys = Restriction.build [.onItems keys] :=
    rfl
  rw [built, Restriction.admits_build_iff]
  constructor
  · rintro ⟨_, item, _⟩
    simpa using item
  · intro member
    exact
      { device := Or.inl (by simp)
        item := Or.inr (Or.inr ⟨keys, List.mem_singleton_self _, member⟩)
        category := Or.inl (by simp) }

/-- What a path selects of a device is what it finds there. -/
theorem mem_selectedItems_iff
    {path : Path}
    {device : Device}
    {key : ItemKey} :
    key ∈ selectedItems path device ↔
      ∃ item, path.Finds device item ∧
        key.device = device.uuid ∧ key.item = item.id := by
  have finds (item : DataItem) :
      path.Finds device item ↔
        item ∈ device.dataItems ∧ path.admits device item = true := by
    simp only [Path.admits, List.any_eq_true, Path.Term.admits_iff]
    exact ⟨fun both => ⟨both.1, both.2⟩, fun both => ⟨both.1, both.2⟩⟩
  simp only [selectedItems, List.mem_map, List.mem_filter, finds]
  constructor
  · rintro ⟨item, found, rfl⟩
    exact ⟨item, found, rfl, rfl⟩
  · rintro ⟨item, found, ofDevice, ofItem⟩
    refine ⟨item, found, ?_⟩
    rw [← ofDevice, ← ofItem]

theorem filterOfPath_of_malformed
    {devices : List Device}
    {text : String}
    {defect : Path.Defect}
    (failed : Path.parse text = .error defect) :
    filterOfPath devices text = .error (.invalidRequest (.badPath text defect)) := by
  rw [filterOfPath, failed]

/--
A path that finds nothing is refused, and any other gives the filter of what it finds.
-/
theorem filterOfPath_of_parsed
    {devices : List Device}
    {text : String}
    {path : Path}
    (parsed : Path.parse text = .ok path) :
    ((∀ device ∈ devices, ∀ item, ¬ path.Finds device item) ∧
        filterOfPath devices text =
          .error (.invalidRequest (.emptySelection text))) ∨
      (∃ device ∈ devices, ∃ item, path.Finds device item) ∧
        ∃ filter,
          filterOfPath devices text = .ok filter ∧
            ∀ observation,
              filter.admits observation = true ↔
                ∃ device ∈ devices, ∃ item, path.Finds device item ∧
                  observation.device = device.uuid ∧
                  observation.item = item.id := by
  have keysFound (key : ItemKey) :
      key ∈ devices.flatMap (selectedItems path) ↔
        ∃ device ∈ devices, ∃ item, path.Finds device item ∧
          key.device = device.uuid ∧ key.item = item.id := by
    simp only [List.mem_flatMap, mem_selectedItems_iff]
  unfold filterOfPath
  simp only [parsed]
  by_cases something : ∃ device ∈ devices, ∃ item, path.Finds device item
  · right
    obtain ⟨device, inDevices, item, finds⟩ := something
    have member :
        (⟨device.uuid, item.id⟩ : ItemKey) ∈
          devices.flatMap (selectedItems path) :=
      (keysFound _).mpr ⟨device, inDevices, item, finds, rfl, rfl⟩
    have someKeys : (devices.flatMap (selectedItems path)).isEmpty = false :=
      List.isEmpty_eq_false_iff.mpr (List.ne_nil_of_mem member)
    refine
      ⟨⟨device, inDevices, item, finds⟩,
        ObservationFilter.all.onItems (devices.flatMap (selectedItems path)),
        by simp [someKeys], ?_⟩
    intro observation
    rw [admits_onItems_iff, keysFound]
    rfl
  · left
    have nothing : ∀ device ∈ devices, ∀ item, ¬ path.Finds device item := by
      intro device inDevices item finds
      exact something ⟨device, inDevices, item, finds⟩
    have noKeys : devices.flatMap (selectedItems path) = [] := by
      rw [List.eq_nil_iff_forall_not_mem]
      intro key member
      obtain ⟨device, inDevices, item, finds, _⟩ := (keysFound key).mp member
      exact nothing device inDevices item finds
    exact ⟨nothing, by simp [noKeys]⟩

/-! ## Requests -/

/-- There is at most one reason to refuse a path. -/
theorem PathRefused.eq
    {deviceKey? : Option String}
    {text : String}
    {first second : Refusal}
    (forFirst : catalog.PathRefused deviceKey? text first)
    (forSecond : catalog.PathRefused deviceKey? text second) :
    first = second := by
  cases forFirst with
  | malformed failed =>
      cases forSecond with
      | malformed failedToo =>
          rw [failed] at failedToo
          rw [Except.error.inj failedToo]
      | empty parsed _ =>
          rw [failed] at parsed
          cases parsed
  | empty parsed _ =>
      cases forSecond with
      | malformed failed =>
          rw [failed] at parsed
          cases parsed
      | empty _ _ => rfl

/-- A request with a path over the devices in scope. -/
theorem filterOfPath_cases
    {deviceKey? : Option String}
    {devices : List Device}
    (inScope : ∀ device, device ∈ devices ↔ catalog.InScope deviceKey? device)
    (text : String) :
    (∃ refusal,
        catalog.PathRefused deviceKey? text refusal ∧
          filterOfPath devices text = .error (.invalidRequest refusal)) ∨
      (∀ refusal, ¬ catalog.PathRefused deviceKey? text refusal) ∧
        ∃ filter,
          filterOfPath devices text = .ok filter ∧
            ∀ observation,
              filter.admits observation = true ↔
                catalog.Asked observation deviceKey? (some text) := by
  cases parsed : Path.parse text with
  | error defect =>
      exact Or.inl ⟨_, .malformed parsed, filterOfPath_of_malformed parsed⟩
  | ok path =>
      rcases filterOfPath_of_parsed parsed with
        ⟨nothing, refused⟩ | ⟨⟨device, member, item, finds⟩, filter, made, isExact⟩
      · left
        refine ⟨_, .empty parsed ?_, refused⟩
        exact fun device within => nothing device ((inScope device).mpr within)
      · right
        constructor
        · intro refusal refused
          cases refused with
          | malformed failed =>
              rw [parsed] at failed
              cases failed
          | empty parsedToo nothing =>
              rw [parsed] at parsedToo
              obtain rfl := Except.ok.inj parsedToo
              exact nothing device ((inScope device).mp member) item finds
        · refine ⟨filter, made, fun observation => ?_⟩
          rw [isExact]
          constructor
          · rintro ⟨found, inDevices, foundItem, isFound, ofDevice, ofItem⟩
            exact
              .item parsed ((inScope found).mp inDevices) isFound ofDevice ofItem
          · intro asked
            cases asked with
            | item parsedToo within isFound ofDevice ofItem =>
                rw [parsed] at parsedToo
                obtain rfl := Except.ok.inj parsedToo
                exact
                  ⟨_, (inScope _).mpr within, _, isFound, ofDevice, ofItem⟩

/-- A request without a path over the devices in scope. -/
theorem admits_filterOfScope
    {deviceKey? : Option String}
    (known : ∀ key, deviceKey? = some key → ¬ catalog.Unknown key)
    {devices : List Device}
    (inScope : ∀ device, device ∈ devices ↔ catalog.InScope deviceKey? device)
    (observation : Observation) :
    (filterOfScope deviceKey? devices).admits observation = true ↔
      catalog.Asked observation deviceKey? none := by
  cases deviceKey? with
  | none => exact iff_of_true rfl .everything
  | some key =>
      have nonempty : devices ≠ [] := by
        rintro rfl
        refine known key rfl (device?_eq_none_iff.mp ?_)
        cases found : catalog.device? key with
        | none => rfl
        | some device =>
            have absent := (inScope device).mpr (device?_eq_some_iff.mp found)
            cases absent
      rw [admits_filterOfScope_iff nonempty]
      constructor
      · rintro ⟨device, member, ofDevice⟩
        exact .device ((inScope device).mp member) ofDevice
      · intro asked
        cases asked with
        | device first ofDevice => exact ⟨_, (inScope _).mpr first, ofDevice⟩

/-- A selection fails for its device, fails for its path, or is exact. -/
theorem select_cases (catalog : Catalog) (deviceKey? path? : Option String) :
    (∃ key, deviceKey? = some key ∧ catalog.Unknown key ∧
        catalog.select deviceKey? path? = .error (.unknownDevice key)) ∨
      (∀ key, deviceKey? = some key → ¬ catalog.Unknown key) ∧
        ((∃ text refusal, path? = some text ∧
            catalog.PathRefused deviceKey? text refusal ∧
              catalog.select deviceKey? path? =
                .error (.invalidRequest refusal)) ∨
          (∀ text refusal, path? = some text →
              ¬ catalog.PathRefused deviceKey? text refusal) ∧
            ∃ filter,
              catalog.select deviceKey? path? = .ok filter ∧
                ∀ observation,
                  filter.admits observation = true ↔
                    catalog.Asked observation deviceKey? path?) := by
  rcases scope_cases catalog deviceKey? with
    ⟨key, keyEq, unknown, failed⟩ | ⟨known, devices, scopeEq, inScope⟩
  · left
    refine ⟨key, keyEq, unknown, ?_⟩
    rw [select, failed]
    rfl
  · refine Or.inr ⟨known, ?_⟩
    cases path? with
    | none =>
        right
        refine ⟨by simp, filterOfScope deviceKey? devices, ?_, ?_⟩
        · rw [select, scopeEq]
          rfl
        · exact admits_filterOfScope known inScope
    | some text =>
        have selected :
            catalog.select deviceKey? (some text) = filterOfPath devices text := by
          rw [select, scopeEq]
          rfl
        rw [selected]
        rcases filterOfPath_cases inScope text with
          ⟨refusal, refused, failed⟩ | ⟨accepted, filter, made, isExact⟩
        · exact Or.inl ⟨text, refusal, rfl, refused, failed⟩
        · right
          refine ⟨?_, filter, made, isExact⟩
          rintro _ refusal ⟨⟩
          exact accepted refusal

/--
A request with an unknown device is refused for it, any other one for a path
that is malformed or finds nothing, and if neither is so the filter admits
exactly what is asked for.
-/
theorem select_exact (catalog : Catalog) (deviceKey? path? : Option String) :
    (∀ key,
      catalog.select deviceKey? path? = .error (.unknownDevice key) ↔
        deviceKey? = some key ∧ catalog.Unknown key) ∧
    (∀ refusal,
      catalog.select deviceKey? path? = .error (.invalidRequest refusal) ↔
        (∀ key, deviceKey? = some key → ¬ catalog.Unknown key) ∧
          ∃ text, path? = some text ∧
            catalog.PathRefused deviceKey? text refusal) ∧
    ((∀ key, deviceKey? = some key → ¬ catalog.Unknown key) →
      (∀ text refusal, path? = some text →
        ¬ catalog.PathRefused deviceKey? text refusal) →
      ∃ filter,
        catalog.select deviceKey? path? = .ok filter ∧
          ∀ observation,
            filter.admits observation = true ↔
              catalog.Asked observation deviceKey? path?) := by
  rcases select_cases catalog deviceKey? path? with
    ⟨key, keyEq, unknown, failed⟩ |
      ⟨known, ⟨text, refusal, pathEq, refused, failed⟩ | ⟨accepted, made⟩⟩
  · rw [failed, keyEq]
    refine ⟨fun other => ?_, fun refusal => ?_, fun known => ?_⟩
    · simp only [Except.error.injEq, Fault.unknownDevice.injEq,
        Option.some.injEq]
      exact ⟨fun same => ⟨same, same ▸ unknown⟩, fun same => same.1⟩
    · refine iff_of_false (by simp) ?_
      rintro ⟨known, _⟩
      exact known key rfl unknown
    · exact absurd unknown (known key rfl)
  · rw [failed, pathEq]
    refine ⟨fun other => ?_, fun other => ?_, fun _ accepted => ?_⟩
    · refine iff_of_false (by simp) ?_
      rintro ⟨keyEq, unknown⟩
      exact known other keyEq unknown
    · simp only [Except.error.injEq, Fault.invalidRequest.injEq]
      constructor
      · rintro rfl
        exact ⟨known, text, rfl, refused⟩
      · rintro ⟨_, _, ⟨⟩, refusedToo⟩
        exact refused.eq refusedToo
    · exact absurd refused (accepted text refusal rfl)
  · obtain ⟨filter, selected, isExact⟩ := made
    rw [selected]
    refine ⟨fun key => ?_, fun refusal => ?_, fun _ _ => ?_⟩
    · refine iff_of_false (by simp) ?_
      rintro ⟨keyEq, unknown⟩
      exact known key keyEq unknown
    · refine iff_of_false (by simp) ?_
      rintro ⟨_, text, pathEq, refused⟩
      exact accepted text refusal pathEq refused
    · exact ⟨filter, rfl, isExact⟩

end Catalog

end MTConnect
