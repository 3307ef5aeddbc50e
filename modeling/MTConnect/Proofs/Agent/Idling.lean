import MTConnect.Proofs.Activity.Conservation
import MTConnect.Proofs.Agent.Marks

namespace MTConnect

/-!
# Writes that change nothing

A write of observations does nothing but log readings and count them. So it
leaves an agent exactly as it was, down to the watched number, if its keys are
unknown or the numbers are used up; only in the second case does it fail.
Storing an asset is different: it shows even if the asset cannot be announced.
-/

namespace Agent

/-- A write that needs numbers for its readings, and without either leaves an agent alone. -/
structure OnlyLogs
    {α : Type}
    (agent : Agent)
    (readings : List Reading)
    (written : Written α) :
    Prop where
  fault_eq :
    ∀ fault,
      written.1 = .error fault →
      fault = .sequenceExhausted ∧ readings ≠ []
  unchanged : readings = [] ∨ Word.top ≤ agent.log.next → written.2 = agent

namespace OnlyLogs

variable
  {α β : Type}
  {agent middle : Agent}
  {readings early late : List Reading}

theorem nothing (agent : Agent) (result : α) :
    agent.OnlyLogs [] (.ok result, agent) where
  fault_eq := by
    intro fault failed
    cases failed
  unchanged := fun _ => rfl

/-- What is answered does not matter. -/
theorem map
    {written : Written α}
    (logs : agent.OnlyLogs readings written)
    (change : α → β) :
    agent.OnlyLogs readings (written.1.map change, written.2) where
  fault_eq := by
    intro fault failed
    apply logs.fault_eq fault
    cases outcome : written.1 with
    | error original =>
        rw [outcome] at failed
        exact congrArg _ (Except.error.inj failed)
    | ok result =>
        rw [outcome] at failed
        cases failed
  unchanged := logs.unchanged

/-- It only matters whether there is something to log. -/
theorem of_iff
    {written : Written α}
    (logs : agent.OnlyLogs early written)
    (same : early = [] ↔ late = []) :
    agent.OnlyLogs late written where
  fault_eq := by
    intro fault failed
    obtain ⟨isExhausted, offered⟩ := logs.fault_eq fault failed
    exact ⟨isExhausted, fun nothing => offered (same.mpr nothing)⟩
  unchanged := by
    rintro (nothing | exhausted)
    · exact logs.unchanged (Or.inl (same.mpr nothing))
    · exact logs.unchanged (Or.inr exhausted)

/-- What a write does not come to any more makes no difference. -/
theorem stopped
    {fault : Fault}
    (logs : agent.OnlyLogs early ((.error fault, middle) : Written α))
    (late : List Reading) :
    agent.OnlyLogs (early ++ late) ((.error fault, middle) : Written β) where
  fault_eq := by
    rintro _ ⟨⟩
    obtain ⟨isExhausted, offered⟩ := logs.fault_eq fault rfl
    exact ⟨isExhausted, List.append_ne_nil_of_left_ne_nil offered late⟩
  unchanged := by
    rintro (nothing | exhausted)
    · exact logs.unchanged (Or.inl (List.append_eq_nil_iff.mp nothing).1)
    · exact logs.unchanged (Or.inr exhausted)

/-- One write after the other needs numbers for the readings of both. -/
theorem trans
    {result : α}
    {written : Written β}
    (first : agent.OnlyLogs early (.ok result, middle))
    (second : middle.OnlyLogs late written) :
    agent.OnlyLogs (early ++ late) written where
  fault_eq := by
    intro fault failed
    obtain ⟨isExhausted, offered⟩ := second.fault_eq fault failed
    exact ⟨isExhausted, List.append_ne_nil_of_right_ne_nil early offered⟩
  unchanged := by
    rintro (nothing | exhausted)
    · obtain ⟨earlyNil, lateNil⟩ := List.append_eq_nil_iff.mp nothing
      have same : middle = agent := first.unchanged (Or.inl earlyNil)
      rw [second.unchanged (Or.inl lateNil), same]
    · have same : middle = agent := first.unchanged (Or.inr exhausted)
      rw [← same] at exhausted
      rw [second.unchanged (Or.inr exhausted), same]

end OnlyLogs

/-- To record a reading is only to log it. -/
theorem record_onlyLogs (agent : Agent) (reading : Reading) :
    agent.OnlyLogs [reading] (agent.record reading) where
  fault_eq := by
    intro fault failed
    refine ⟨?_, List.cons_ne_nil _ _⟩
    rcases Nat.lt_or_ge agent.log.next Word.top with below | exhausted
    · rw [record_ok below] at failed
      cases failed
    · rw [record, ObservationLog.append_of_le exhausted] at failed
      exact (Except.error.inj failed).symm
  unchanged := by
    rintro (nothing | exhausted)
    · cases nothing
    · rw [record, ObservationLog.append_of_le exhausted]

/-- An append only logs its values. -/
theorem append_onlyLogs
    (agent : Agent)
    (deviceKey itemKey : String)
    (values : Category → Values)
    (given : Values)
    (timestamp : Timestamp) :
    agent.OnlyLogs
      (agent.catalog.readings deviceKey itemKey values timestamp)
      (agent.append deviceKey itemKey given timestamp) := by
  unfold append Catalog.readings
  cases agent.catalog.resolve deviceKey itemKey with
  | error fault => exact .nothing agent none
  | ok address =>
      have recorded :=
        agent.record_onlyLogs
          { device := address.device
            item := address.item
            category := address.category
            timestamp := timestamp
            values := given }
      exact (recorded.map some).of_iff (by simp)

/-- Marks of data items only log the marks. -/
theorem markItems_onlyLogs
    (agent : Agent)
    (device : String)
    (timestamp : Timestamp)
    (marked : Nat)
    (items : List DataItem) :
    agent.OnlyLogs
      (items.flatMap fun item =>
        agent.catalog.markReadings device item.id timestamp)
      (agent.markItems device timestamp marked items) := by
  induction items generalizing agent marked with
  | nil => exact .nothing agent marked
  | cons item rest inductionHypothesis =>
      have first :
          agent.OnlyLogs
            (agent.catalog.markReadings device item.id timestamp)
            (agent.markUnavailable device item.id timestamp) :=
        agent.append_onlyLogs device item.id _ _ timestamp
      have sameCatalog :=
        (agent.markUnavailable_wrote device item.id timestamp).catalog_eq
      rw [List.flatMap_cons, markItems]
      split
      next fault after outcome =>
        rw [outcome] at first
        exact first.stopped _
      next sequence? after outcome =>
        rw [outcome] at first sameCatalog
        have later :=
          inductionHypothesis after (marked + if sequence?.isSome then 1 else 0)
        dsimp only at sameCatalog
        rw [sameCatalog] at later
        exact first.trans later

/-- To mark a device unavailable only logs the marks of its data items. -/
theorem markDeviceUnavailable_onlyLogs
    (agent : Agent)
    (deviceKey : String)
    (timestamp : Timestamp) :
    agent.OnlyLogs
      (agent.catalog.deviceMarks timestamp deviceKey)
      (agent.markDeviceUnavailable deviceKey timestamp) := by
  unfold markDeviceUnavailable Catalog.deviceMarks
  cases agent.catalog.device? deviceKey with
  | none => exact .nothing agent 0
  | some device =>
      exact agent.markItems_onlyLogs device.uuid timestamp 0 device.dataItems

/-- An announcement only logs one reading. -/
theorem announce_onlyLogs
    (agent : Agent)
    (device : Device)
    (kind assetId : String)
    (timestamp : Timestamp) :
    agent.OnlyLogs
      (agent.catalog.announceReadings device kind assetId timestamp)
      (agent.announce device kind assetId timestamp) := by
  unfold announce Catalog.announceReadings
  cases device.itemOfKind? kind with
  | none => exact .nothing agent ()
  | some item =>
      exact
        (agent.append_onlyLogs device.uuid item.id _ _ timestamp).map
          fun _ => ()

/-- An asset that is stored shows, even if it cannot be announced. -/
theorem upsertAsset_of_known
    {agent : Agent}
    {deviceKey : String}
    {device : Device}
    (known : agent.catalog.device? deviceKey = some device)
    (assetId kind payload : String)
    (removed : Bool)
    (timestamp : Timestamp) :
    (agent.upsertAsset deviceKey assetId kind payload removed timestamp).2 ≠
        agent ∧
      ∀ fault,
        (agent.upsertAsset deviceKey assetId kind payload removed
            timestamp).1 =
          .error fault →
        fault = .sequenceExhausted := by
  have counted :=
    agent.assets_upsertAsset deviceKey assetId kind payload removed timestamp
  simp only [known] at counted
  constructor
  · intro same
    rw [same] at counted
    exact ActivityMonitor.countUp_ne _ kind counted.symm
  · intro fault failed
    unfold upsertAsset at failed
    simp only [known] at failed
    have announced (asset : Asset) :=
      ((agent.shelve asset).announce_onlyLogs device
          (if removed then assetRemovedKind else assetChangedKind) assetId
          timestamp).map
        fun _ => some asset
    exact ((announced _).fault_eq fault failed).1

end Agent

end MTConnect
