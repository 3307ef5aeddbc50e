import MTConnect.Proofs.Agent.Command

namespace MTConnect

/-!
# Writing while numbers are left

The only thing that can stop a write half-way is that the numbers are used up.
As long as they suffice for everything that a write reports, each of its
readings is logged and the write answers as if there were no end to them.
-/

namespace Agent

/-- Numbers for two runs of readings leave numbers for the second after the first. -/
theorem Wrote.hasNumbersFor
    {agent after : Agent}
    {early late : List Reading}
    (wrote : agent.Wrote early after)
    (numbers : agent.log.HasNumbersFor (early ++ late)) :
    after.log.HasNumbersFor late := by
  rw [wrote.log_eq]
  exact numbers.offerAll

theorem record_ok
    {agent : Agent}
    (below : agent.log.next < Word.top)
    (reading : Reading) :
    (agent.record reading).1 = .ok agent.log.next := by
  simp only [record, ObservationLog.append_of_lt below]

/-- A value is logged under the next number if its keys are known. -/
theorem append_ok
    {agent : Agent}
    {deviceKey itemKey : String}
    {values : Category → Values}
    {timestamp : Timestamp}
    (numbers :
      agent.log.HasNumbersFor
        (agent.catalog.readings deviceKey itemKey values timestamp))
    (given : Values) :
    ∃ sequence?,
      (agent.append deviceKey itemKey given timestamp).1 = .ok sequence? ∧
        (if sequence?.isSome then 1 else 0) =
          (agent.catalog.readings deviceKey itemKey values
            timestamp).length := by
  unfold append
  unfold Catalog.readings at numbers ⊢
  cases resolved : agent.catalog.resolve deviceKey itemKey with
  | error fault => exact ⟨none, rfl, rfl⟩
  | ok address =>
      rw [resolved] at numbers
      have recorded := record_ok numbers.lt_top
      refine ⟨some agent.log.next, ?_, rfl⟩
      exact congrArg (Except.map some) (recorded _)

/-- With numbers left a data item is marked, or its keys are unknown. -/
theorem markUnavailable_ok
    {agent : Agent}
    {deviceKey itemKey : String}
    {timestamp : Timestamp}
    (numbers :
      agent.log.HasNumbersFor
        (agent.catalog.markReadings deviceKey itemKey timestamp)) :
    ∃ sequence?,
      (agent.markUnavailable deviceKey itemKey timestamp).1 =
          .ok sequence? ∧
        (if sequence?.isSome then 1 else 0) =
          (agent.catalog.markReadings deviceKey itemKey timestamp).length :=
  append_ok numbers _

/-- All data items whose keys are known are marked. -/
theorem markItems_ok
    {agent : Agent}
    {device : String}
    {timestamp : Timestamp}
    (marked : Nat)
    {items : List DataItem}
    (numbers :
      agent.log.HasNumbersFor
        (items.flatMap fun item =>
          agent.catalog.markReadings device item.id timestamp)) :
    (agent.markItems device timestamp marked items).1 =
      .ok
        (marked +
          (items.flatMap fun item =>
            agent.catalog.markReadings device item.id timestamp).length) := by
  induction items generalizing agent marked with
  | nil => rfl
  | cons item rest inductionHypothesis =>
      rw [List.flatMap_cons] at numbers ⊢
      have wrote := agent.markUnavailable_wrote device item.id timestamp
      have later := wrote.hasNumbersFor numbers
      rw [← wrote.catalog_eq] at later
      obtain ⟨sequence?, answered, counted⟩ := markUnavailable_ok numbers.left
      rw [markItems]
      split
      next fault after outcome =>
        have failed := congrArg Prod.fst outcome
        exact absurd (answered.symm.trans failed) (by simp)
      next found? after outcome =>
        have sameAnswer :=
          Except.ok.inj (answered.symm.trans (congrArg Prod.fst outcome))
        have sameAfter := congrArg Prod.snd outcome
        subst sameAnswer sameAfter
        rw [inductionHypothesis _ later, wrote.catalog_eq, counted,
          List.length_append, Nat.add_assoc]

/-- With numbers left an announcement does not fail. -/
theorem announce_ok
    {agent : Agent}
    {device : Device}
    {kind assetId : String}
    {timestamp : Timestamp}
    (numbers :
      agent.log.HasNumbersFor
        (agent.catalog.announceReadings device kind assetId timestamp)) :
    (agent.announce device kind assetId timestamp).1 = .ok () := by
  unfold announce
  unfold Catalog.announceReadings at numbers
  cases found : device.itemOfKind? kind with
  | none => rfl
  | some item =>
      rw [found] at numbers
      obtain ⟨sequence?, answered, _⟩ :=
        append_ok numbers (.singleton valueKey assetId)
      exact congrArg (Except.map fun _ => ()) answered

/-- With numbers left the report of a removal does not fail. -/
theorem reportRemoved_ok
    {agent : Agent}
    {asset : Asset}
    {timestamp : Timestamp}
    (numbers :
      agent.log.HasNumbersFor
        (agent.catalog.removalReadings timestamp asset)) :
    (agent.reportRemoved asset timestamp).1 = .ok () := by
  unfold reportRemoved
  unfold Catalog.removalReadings at numbers
  cases found : agent.catalog.device? asset.device with
  | none => simp only [found]
  | some device =>
      simp only [found] at numbers ⊢
      exact announce_ok numbers

/-- All removed assets are announced. -/
theorem reportAllRemoved_ok
    {agent : Agent}
    {timestamp : Timestamp}
    {assets : List Asset}
    (numbers :
      agent.log.HasNumbersFor
        (assets.flatMap (agent.catalog.removalReadings timestamp))) :
    (agent.reportAllRemoved timestamp assets).1 = .ok () := by
  induction assets generalizing agent with
  | nil => rfl
  | cons asset rest inductionHypothesis =>
      rw [List.flatMap_cons] at numbers
      have wrote := agent.reportRemoved_wrote asset timestamp
      have later := wrote.hasNumbersFor numbers
      rw [← wrote.catalog_eq] at later
      have answered := reportRemoved_ok numbers.left
      rw [reportAllRemoved]
      split
      next fault after outcome =>
        have failed := congrArg Prod.fst outcome
        exact absurd (answered.symm.trans failed) (by simp)
      next after outcome =>
        have sameAfter := congrArg Prod.snd outcome
        subst sameAfter
        exact inductionHypothesis later

/--
With numbers left a bulk removal answers with the assets that the shelf has removed.
-/
theorem removeAllOf_ok
    {agent : Agent}
    {kind? device? : Option String}
    {timestamp : Timestamp}
    (numbers :
      agent.log.HasNumbersFor
        (agent.removeAllReadings kind? device? timestamp)) :
    (agent.removeAllOf kind? device? timestamp).1 =
      .ok (agent.assets.removeAll kind? device? timestamp).1 := by
  have answered :
      ({ agent with
          assets :=
            (agent.assets.removeAll kind? device?
              timestamp).2 }.reportAllRemoved timestamp
          (agent.assets.removeAll kind? device? timestamp).1).1 =
        .ok () :=
    reportAllRemoved_ok numbers
  exact congrArg (Except.map fun _ => _) answered

/-- An asset for a known device is stored, whether it can be announced or not. -/
theorem upsertAsset_ok
    {agent : Agent}
    {deviceKey assetId kind payload : String}
    {removed : Bool}
    {timestamp : Timestamp}
    (numbers :
      agent.log.HasNumbersFor
        (agent.reports
          (.upsertAsset deviceKey assetId kind payload removed timestamp))) :
    (agent.upsertAsset deviceKey assetId kind payload removed timestamp).1 =
      .ok
        ((agent.catalog.device? deviceKey).map fun device =>
          { id := assetId
            kind := kind
            device := device.uuid
            timestamp := timestamp
            removed := removed
            payload := payload }) := by
  unfold upsertAsset
  unfold reports at numbers
  cases found : agent.catalog.device? deviceKey with
  | none => rfl
  | some device =>
      simp only [found] at numbers
      have answered (asset : Asset) :
          ((agent.shelve asset).announce device
              (if removed then assetRemovedKind else assetChangedKind)
              assetId timestamp).1 =
            .ok () :=
        announce_ok numbers
      exact congrArg (Except.map fun _ => some _) (answered _)

/-- With numbers left a removal answers what the shelf answers. -/
theorem removeAsset_ok
    {agent : Agent}
    {assetId : String}
    {timestamp : Timestamp}
    (numbers :
      agent.log.HasNumbersFor
        (agent.reports (.removeAsset assetId timestamp))) :
    (agent.removeAsset assetId timestamp).1 =
      (agent.assets.remove assetId timestamp).map Prod.fst := by
  unfold removeAsset
  unfold reports at numbers
  cases removed : agent.assets.remove assetId timestamp with
  | error fault => rfl
  | ok outcome =>
      simp only [removed] at numbers
      have answered :
          ({ agent with assets := outcome.2 }.reportRemoved outcome.1
              timestamp).1 =
            .ok () :=
        reportRemoved_ok numbers
      exact congrArg (Except.map fun _ => outcome.1) answered

/-- The tombstone that a removal answers with is the one that it announces. -/
theorem reports_removeAsset
    {agent : Agent}
    {assetId : String}
    {timestamp : Timestamp}
    {tombstone : Asset}
    (answered :
      (agent.removeAsset assetId timestamp).1 = .ok tombstone) :
    agent.reports (.removeAsset assetId timestamp) =
      agent.catalog.removalReadings timestamp tombstone := by
  unfold removeAsset at answered
  unfold reports
  cases removed : agent.assets.remove assetId timestamp with
  | error fault =>
      rw [removed] at answered
      cases answered
  | ok outcome =>
      rw [removed] at answered
      dsimp only at answered ⊢
      cases announced :
          ({ agent with assets := outcome.2 }.reportRemoved outcome.1
            timestamp).1 with
      | error fault =>
          rw [announced] at answered
          cases answered
      | ok done =>
          rw [announced] at answered
          rw [removed, ← Except.ok.inj answered]

/-- A bulk removal answers with the tombstones that it announces. -/
theorem removeAllAssets_ok
    {agent : Agent}
    {kind? deviceKey? : Option String}
    {timestamp : Timestamp}
    (numbers :
      agent.log.HasNumbersFor
        (agent.reports (.removeAllAssets kind? deviceKey? timestamp))) :
    ∃ tombstones,
      (agent.removeAllAssets kind? deviceKey? timestamp).1 =
          .ok tombstones ∧
        agent.reports (.removeAllAssets kind? deviceKey? timestamp) =
          tombstones.flatMap (agent.catalog.removalReadings timestamp) := by
  unfold removeAllAssets
  unfold reports at numbers ⊢
  cases deviceKey? with
  | none => exact ⟨_, removeAllOf_ok numbers, rfl⟩
  | some key =>
      cases found : agent.catalog.device? key with
      | none =>
          simp only [found]
          exact ⟨[], rfl, rfl⟩
      | some device =>
          simp only [found] at numbers ⊢
          exact ⟨_, removeAllOf_ok numbers, rfl⟩

/-- Every data item of a known device whose keys are known is marked. -/
theorem markDeviceUnavailable_ok
    {agent : Agent}
    {deviceKey : String}
    {timestamp : Timestamp}
    (numbers :
      agent.log.HasNumbersFor
        (agent.reports (.markDeviceUnavailable deviceKey timestamp))) :
    (agent.markDeviceUnavailable deviceKey timestamp).1 =
      .ok
        (agent.reports
          (.markDeviceUnavailable deviceKey timestamp)).length := by
  unfold markDeviceUnavailable
  unfold reports at numbers ⊢
  cases found : agent.catalog.device? deviceKey with
  | none => simp only [found, List.length_nil]
  | some device =>
      simp only [found] at numbers ⊢
      rw [markItems_ok 0 numbers, Nat.zero_add]

end Agent

end MTConnect
