import MTConnect.Agent.Queries
import MTConnect.Proofs.Agent.Chronicle
import MTConnect.Proofs.Agent.Numbers
import MTConnect.Proofs.Asset.Refinement

namespace MTConnect

/-!
# Assets that are removed together

A bulk removal first puts tombstones in the places of all assets that it is
about, and announces them afterwards. Removing the same assets one by one
announces each of them before the next one is touched. Both come to the same:
an announcement does not look at the shelf, a tombstone does not change which of
the other assets are live, and so the announcements can be put off to the end.
-/

namespace AssetShelf

variable
  {shelf : AssetShelf}
  {kind? device? : Option String}
  {timestamp : Timestamp}

/-- A target is buried and put behind the assets removed so far. -/
theorem removeTarget_of_target
    {slot : Slot}
    (found : shelf.slots.find? slot.asset.id = some slot)
    (target : isTarget kind? device? slot.asset = true)
    (soFar : List Asset) :
    removeTarget kind? device? timestamp (soFar, shelf) slot.asset.id =
      (soFar ++ [slot.asset.tombstone timestamp],
        shelf.bury slot.asset.id slot timestamp) := by
  simp only [removeTarget, found, target, if_true]

/-- An asset that is no target stays as it is. -/
theorem removeTarget_of_other
    {slot : Slot}
    (found : shelf.slots.find? slot.asset.id = some slot)
    (other : ¬ isTarget kind? device? slot.asset = true)
    (soFar : List Asset) :
    removeTarget kind? device? timestamp (soFar, shelf) slot.asset.id =
      (soFar, shelf) := by
  simp only [removeTarget, found, if_neg other]

/-- The tombstones that are there already stay in front of those to come. -/
theorem foldl_removeTarget
    (soFar : List Asset)
    (shelf : AssetShelf)
    (ids : List String) :
    ids.foldl (removeTarget kind? device? timestamp) (soFar, shelf) =
      (soFar ++
          (ids.foldl (removeTarget kind? device? timestamp) ([], shelf)).1,
        (ids.foldl (removeTarget kind? device? timestamp) ([], shelf)).2) := by
  induction ids generalizing soFar shelf with
  | nil => rw [List.foldl_nil, List.foldl_nil, List.append_nil]
  | cons id rest inductionHypothesis =>
      have oneStep :
          removeTarget kind? device? timestamp (soFar, shelf) id =
            (soFar ++
                (removeTarget kind? device? timestamp ([], shelf) id).1,
              (removeTarget kind? device? timestamp ([], shelf) id).2) := by
        unfold removeTarget
        dsimp only
        split
        · rw [List.append_nil]
        · split
          · rfl
          · rw [List.append_nil]
      rw [List.foldl_cons, List.foldl_cons, oneStep, inductionHypothesis,
        inductionHypothesis (removeTarget _ _ _ ([], shelf) id).1,
        List.append_assoc]

end AssetShelf

namespace Agent

/-- The same agent with another shelf. -/
def withShelf (agent : Agent) (shelf : AssetShelf) : Agent :=
  { agent with assets := shelf }

/-- What a command asks of the shelf, if it is about assets. -/
def shelfCall? (agent : Agent) : Command → Option AssetCall
  | .upsertAsset deviceKey assetId kind payload removed timestamp =>
      (agent.catalog.device? deviceKey).map fun device =>
        .upsert
          { id := assetId
            kind := kind
            device := device.uuid
            timestamp := timestamp
            removed := removed
            payload := payload }
  | .removeAsset assetId timestamp => some (.remove assetId timestamp)
  | .removeAllAssets kind? deviceKey? timestamp =>
      match agent.deviceOf deviceKey? with
      | .error _ => none
      | .ok device? => some (.removeAll kind? device? timestamp)
  | _ => none

/-- The live assets of a type and a device, oldest first; none if the device is unknown. -/
def liveAssets (agent : Agent) (kind? deviceKey? : Option String) : List Asset :=
  match agent.deviceOf deviceKey? with
  | .error _ => []
  | .ok device? =>
      (agent.assets.list { kind := kind?, device := device? }).reverse

/-- Remove assets one by one, up to the first removal that fails. -/
def removeEach
    (agent : Agent)
    (timestamp : Timestamp) :
    List String → Written (List Asset)
  | [] => (.ok [], agent)
  | id :: rest =>
      match agent.removeAsset id timestamp with
      | (.error fault, after) => (.error fault, after)
      | (.ok tombstone, after) =>
          let (outcome, final) := after.removeEach timestamp rest
          (outcome.map (tombstone :: ·), final)

variable {agent : Agent} {shelf : AssetShelf} {timestamp : Timestamp}

/-! ## The shelf of an agent -/

/-- To report a removal leaves the shelf alone. -/
theorem shelf_reportRemoved
    (agent : Agent)
    (asset : Asset)
    (timestamp : Timestamp) :
    (agent.reportRemoved asset timestamp).2.assets = agent.assets := by
  unfold reportRemoved
  dsimp only
  split
  next => rfl
  next device _ =>
    exact (announce_keeps _ device _ asset.id timestamp).shelf_eq

/-- To report removals leaves the shelf alone. -/
theorem shelf_reportAllRemoved
    (agent : Agent)
    (timestamp : Timestamp)
    (assets : List Asset) :
    (agent.reportAllRemoved timestamp assets).2.assets = agent.assets := by
  induction assets generalizing agent with
  | nil => rfl
  | cons asset rest inductionHypothesis =>
      have first := agent.shelf_reportRemoved asset timestamp
      rw [reportAllRemoved]
      split
      next fault after outcome =>
        rw [outcome] at first
        exact first
      next after outcome =>
        rw [outcome] at first
        exact (inductionHypothesis after).trans first

/-- A command changes the shelf by what it asks of it, and by nothing else. -/
theorem shelf_perform (agent : Agent) (command : Command) :
    (agent.perform command).assets =
      match agent.shelfCall? command with
      | none => agent.assets
      | some call => (agent.assets.answer call).2 := by
  cases command with
  | append deviceKey itemKey values timestamp =>
      exact (agent.append_keeps deviceKey itemKey values timestamp).shelf_eq
  | markUnavailable deviceKey itemKey timestamp =>
      exact (agent.append_keeps deviceKey itemKey _ timestamp).shelf_eq
  | markDeviceUnavailable deviceKey timestamp =>
      exact (agent.markDeviceUnavailable_keeps deviceKey timestamp).shelf_eq
  | upsertAsset deviceKey assetId kind payload removed timestamp =>
      simp only [perform, upsertAsset, shelfCall?]
      cases agent.catalog.device? deviceKey with
      | none => rfl
      | some device =>
          exact (announce_keeps _ device _ assetId timestamp).shelf_eq
  | removeAsset assetId timestamp =>
      simp only [perform, removeAsset, shelfCall?, AssetShelf.answer]
      cases agent.assets.remove assetId timestamp with
      | error fault => rfl
      | ok outcome => exact shelf_reportRemoved _ outcome.1 timestamp
  | removeAllAssets kind? deviceKey? timestamp =>
      simp only [perform, removeAllAssets, shelfCall?, deviceOf,
        Catalog.findDevice]
      cases deviceKey? with
      | none => exact shelf_reportAllRemoved _ timestamp _
      | some key =>
          cases found : agent.catalog.device? key with
          | none => simp only [found, Except.map]
          | some device =>
              simp only [found, Except.map]
              exact shelf_reportAllRemoved _ timestamp _
  | reset => rfl
  | setClock now => rfl
  | advanceClock millis => rfl
  | tick => rfl

/-- After every command the shelf is that of some plain row. -/
theorem exists_refines_perform
    {row : AssetRow}
    (refines : agent.assets.Refines row)
    (command : Command) :
    ∃ next, (agent.perform command).assets.Refines next := by
  rw [agent.shelf_perform command]
  cases agent.shelfCall? command with
  | none => exact ⟨row, refines⟩
  | some call => exact ⟨_, (refines.answer call).refines⟩

/-- In every run the indexes of the shelf describe one line of assets. -/
theorem exists_arranges_run
    {chronicle : Chronicle}
    {row : AssetRow}
    (refines : chronicle.agent.assets.Refines row)
    (commands : List Command) :
    ∃ line, (chronicle.run commands).agent.assets.Arranges line := by
  induction commands generalizing chronicle row with
  | nil =>
      obtain ⟨line, arranges, _⟩ := refines.arranged
      exact ⟨line, arranges⟩
  | cons command rest inductionHypothesis =>
      obtain ⟨next, nextRefines⟩ := exists_refines_perform refines command
      exact @inductionHypothesis (chronicle.perform command) next nextRefines

/-! ## Announcements do not look at the shelf -/

/-- A reading is recorded alike, whatever is on the shelf. -/
theorem record_withShelf (agent : Agent) (shelf : AssetShelf) (reading : Reading) :
    (agent.withShelf shelf).record reading =
      ((agent.record reading).1,
        (agent.record reading).2.withShelf shelf) := by
  unfold record withShelf
  dsimp only
  cases agent.log.append reading with
  | error fault => rfl
  | ok appended => rfl

/-- An append is alike, whatever is on the shelf. -/
theorem append_withShelf
    (agent : Agent)
    (shelf : AssetShelf)
    (deviceKey itemKey : String)
    (values : Values)
    (timestamp : Timestamp) :
    (agent.withShelf shelf).append deviceKey itemKey values timestamp =
      ((agent.append deviceKey itemKey values timestamp).1,
        (agent.append deviceKey itemKey values timestamp).2.withShelf
          shelf) := by
  have sameCatalog : (agent.withShelf shelf).catalog = agent.catalog := rfl
  unfold append
  rw [sameCatalog]
  cases agent.catalog.resolve deviceKey itemKey with
  | error fault => rfl
  | ok address =>
      dsimp only
      rw [record_withShelf]

/-- An announcement is alike, whatever is on the shelf. -/
theorem announce_withShelf
    (agent : Agent)
    (shelf : AssetShelf)
    (device : Device)
    (kind assetId : String)
    (timestamp : Timestamp) :
    (agent.withShelf shelf).announce device kind assetId timestamp =
      ((agent.announce device kind assetId timestamp).1,
        (agent.announce device kind assetId timestamp).2.withShelf
          shelf) := by
  unfold announce
  cases device.itemOfKind? kind with
  | none => rfl
  | some item =>
      dsimp only
      rw [append_withShelf]

/-- The report of a removal is alike, whatever is on the shelf. -/
theorem reportRemoved_withShelf
    (agent : Agent)
    (shelf : AssetShelf)
    (asset : Asset)
    (timestamp : Timestamp) :
    (agent.withShelf shelf).reportRemoved asset timestamp =
      ((agent.reportRemoved asset timestamp).1,
        (agent.reportRemoved asset timestamp).2.withShelf shelf) := by
  have sameCatalog : (agent.withShelf shelf).catalog = agent.catalog := rfl
  unfold reportRemoved
  dsimp only
  rw [sameCatalog]
  cases agent.catalog.device? asset.device with
  | none => rfl
  | some device =>
      exact announce_withShelf
        { agent with monitor := agent.monitor.countAsset asset.kind }
        shelf device assetRemovedKind asset.id timestamp

/-! ## One removal after the other -/

/-- A live asset becomes its tombstone, and then it is reported. -/
theorem removeAsset_of_live
    {slot : Slot}
    (found : agent.assets.slots.find? slot.asset.id = some slot)
    (isLive : slot.asset.isLive = true)
    (timestamp : Timestamp) :
    agent.removeAsset slot.asset.id timestamp =
      let buried := agent.assets.bury slot.asset.id slot timestamp
      let (outcome, after) :=
        (agent.withShelf buried).reportRemoved
          (slot.asset.tombstone timestamp) timestamp
      (outcome.map fun _ => slot.asset.tombstone timestamp, after) := by
  have notRemoved : ¬ slot.asset.removed = true := by
    simpa [Asset.isLive] using isLive
  unfold removeAsset AssetShelf.remove
  simp only [found, if_neg notRemoved]
  rfl

/--
What remains of a bulk removal, done one by one: `done` has been passed, and
`todo` is still to come.
-/
theorem removeEach_of_reported
    {done todo : List Slot}
    (arranges : agent.assets.Arranges (done ++ todo))
    {kind? device? : Option String}
    {tombstones : List Asset}
    (removed :
      (todo.map fun slot => slot.asset.id).foldl
          (AssetShelf.removeTarget kind? device? timestamp)
          ([], agent.assets) =
        (tombstones, shelf))
    {final : Agent}
    (reported :
      (agent.withShelf shelf).reportAllRemoved timestamp tombstones =
        (.ok (), final)) :
    agent.removeEach timestamp
        (((todo.map Slot.asset).filter
          (AssetShelf.isTarget kind? device?)).map Asset.id) =
      (.ok tombstones, final) := by
  induction todo generalizing agent done tombstones with
  | nil =>
      obtain ⟨rfl, rfl⟩ := Prod.mk.inj removed
      obtain ⟨_, rfl⟩ := Prod.mk.inj reported
      rfl
  | cons slot rest inductionHypothesis =>
      have found : agent.assets.slots.find? slot.asset.id = some slot :=
        arranges.find?_slots_iff.mpr ⟨by simp, rfl⟩
      rw [List.map_cons, List.foldl_cons] at removed
      by_cases target :
          AssetShelf.isTarget kind? device? slot.asset = true
      · rw [AssetShelf.removeTarget_of_target found target,
          AssetShelf.foldl_removeTarget] at removed
        obtain ⟨rfl, restRemoved⟩ := Prod.mk.inj removed
        have isLive : slot.asset.isLive = true := by
          simp only [AssetShelf.isTarget, Bool.and_eq_true] at target
          exact target.1.1
        rw [List.nil_append, List.singleton_append, reportAllRemoved,
          reportRemoved_withShelf] at reported
        rw [List.map_cons, List.filter_cons_of_pos target, List.map_cons,
          removeEach, removeAsset_of_live found isLive]
        dsimp only
        rw [reportRemoved_withShelf]
        -- The asset is reported alike, whatever has become of the shelf.
        rcases outcome :
            agent.reportRemoved (slot.asset.tombstone timestamp) timestamp
          with ⟨_ | _, after⟩
        · rw [outcome] at reported
          cases reported
        · rw [outcome] at reported
          have buried :
              (after.withShelf
                (agent.assets.bury slot.asset.id slot
                  timestamp)).assets.Arranges
                (done ++
                  [{ slot with asset := slot.asset.tombstone timestamp }] ++
                    rest) := by
            rw [List.append_assoc]
            exact arranges.bury timestamp
          have restEach :=
            inductionHypothesis buried (Prod.ext rfl restRemoved) reported
          dsimp only [Except.map]
          rw [restEach]
          rfl
      · rw [AssetShelf.removeTarget_of_other found target] at removed
        rw [List.append_cons] at arranges
        rw [List.map_cons, List.filter_cons_of_neg target]
        exact inductionHypothesis arranges removed reported

/-- As long as there are numbers, the assets of a bulk removal may as well go one by one. -/
theorem removeAllOf_eq_removeEach
    {line : List Slot}
    (arranges : agent.assets.Arranges line)
    {kind? device? : Option String}
    (numbers :
      agent.log.HasNumbersFor
        (agent.removeAllReadings kind? device? timestamp)) :
    agent.removeAllOf kind? device? timestamp =
        agent.removeEach timestamp
          ((agent.assets.toList.filter
            (AssetShelf.isTarget kind? device?)).map Asset.id) ∧
      (agent.removeAllOf kind? device? timestamp).1 =
        .ok
          ((agent.assets.toList.filter
            (AssetShelf.isTarget kind? device?)).map
              fun asset => asset.tombstone timestamp) := by
  have fromStart : agent.assets.Arranges ([] ++ line) := arranges
  obtain ⟨left, _, removed, _⟩ :=
    fromStart.removeTargets kind? device? timestamp []
  rw [List.nil_append] at removed
  have removedAll :
      agent.assets.removeAll kind? device? timestamp =
        (((line.map Slot.asset).filter
            (AssetShelf.isTarget kind? device?)).map
              fun asset => asset.tombstone timestamp,
          left) := by
    rw [AssetShelf.removeAll, arranges.values_order_eq]
    exact removed
  rw [removeAllReadings, removedAll] at numbers
  have reported :=
    @reportAllRemoved_ok (agent.withShelf left) timestamp _ numbers
  have each := removeEach_of_reported fromStart removed (Prod.ext reported rfl)
  rw [arranges.toList_eq, each]
  unfold removeAllOf
  dsimp only
  rw [removedAll]
  exact ⟨Prod.ext (congrArg (Except.map fun _ => _) reported) rfl,
    congrArg (Except.map fun _ => _) reported⟩

/-! ## Devices that are known, and others -/

section

variable {kind? deviceKey? device? : Option String}

/-- A request for a known device is about the identifier of this device. -/
theorem removeAllAssets_of_known
    (known : agent.deviceOf deviceKey? = .ok device?) :
    agent.removeAllAssets kind? deviceKey? timestamp =
        agent.removeAllOf kind? device? timestamp ∧
      agent.reports (.removeAllAssets kind? deviceKey? timestamp) =
        agent.removeAllReadings kind? device? timestamp := by
  simp only [removeAllAssets, reports]
  cases deviceKey? with
  | none =>
      obtain rfl := Except.ok.inj known
      exact ⟨rfl, rfl⟩
  | some key =>
      simp only [deviceOf, Catalog.findDevice] at known
      cases found : agent.catalog.device? key with
      | none =>
          rw [found] at known
          cases known
      | some device =>
          rw [found] at known
          obtain rfl := Except.ok.inj known
          simp only [found, and_self]

/-- Of an unknown device nothing is removed. -/
theorem removeAllAssets_of_unknown
    {fault : Fault}
    (unknown : agent.deviceOf deviceKey? = .error fault) :
    agent.removeAllAssets kind? deviceKey? timestamp = (.ok [], agent) := by
  unfold removeAllAssets
  cases deviceKey? with
  | none => cases unknown
  | some key =>
      simp only [deviceOf, Catalog.findDevice] at unknown
      cases found : agent.catalog.device? key with
      | none => simp only [found]
      | some device =>
          rw [found] at unknown
          cases unknown

/-- The live assets are listed in the order in which a bulk removal comes to them. -/
theorem liveAssets_of_known
    (known : agent.deviceOf deviceKey? = .ok device?) :
    agent.liveAssets kind? deviceKey? =
      agent.assets.toList.filter (AssetShelf.isTarget kind? device?) := by
  rw [liveAssets, known]
  dsimp only [AssetShelf.list]
  rw [List.filter_reverse, List.reverse_reverse]
  rfl

end

end Agent

namespace Chronicle

/-- In every run, assets that are removed together might as well be removed one by one. -/
theorem removed_one_by_one
    (plan : AgentPlan)
    (begun : Timestamp)
    (commands : List Agent.Command)
    (kind? deviceKey? : Option String)
    (timestamp : Timestamp)
    (numbers :
      ((start plan begun).run commands).agent.log.HasNumbersFor
        (((start plan begun).run commands).agent.reports
          (.removeAllAssets kind? deviceKey? timestamp))) :
    let agent := ((start plan begun).run commands).agent
    let live := agent.liveAssets kind? deviceKey?
    agent.removeAllAssets kind? deviceKey? timestamp =
        agent.removeEach timestamp (live.map Asset.id) ∧
      (agent.removeAllAssets kind? deviceKey? timestamp).1 =
        .ok (live.map fun asset => asset.tombstone timestamp) := by
  intro agent live
  have nothingStored :
      (start plan begun).agent.assets.Refines
        { capacity := plan.maxAssets, limits := plan.assetLimits } :=
    AssetShelf.refines_empty plan.maxAssets plan.assetLimits
  obtain ⟨line, arranges⟩ := Agent.exists_arranges_run nothingStored commands
  cases known : agent.deviceOf deviceKey? with
  | error fault =>
      have nothingLive : live = [] := by
        simp only [live, Agent.liveAssets, known]
      rw [Agent.removeAllAssets_of_unknown known, nothingLive]
      exact ⟨rfl, rfl⟩
  | ok device? =>
      obtain ⟨removeEq, reportsEq⟩ :=
        @Agent.removeAllAssets_of_known agent timestamp kind? deviceKey?
          device? known
      rw [reportsEq] at numbers
      have liveEq : live = _ := Agent.liveAssets_of_known known
      rw [removeEq, liveEq]
      exact Agent.removeAllOf_eq_removeEach arranges numbers

end Chronicle

/-- A mill that announces removed assets, and a lathe that does not. -/
def AgentPlan.toolroom : AgentPlan where
  catalog :=
    { devices :=
        [{ uuid := "m"
           name := "mill"
           dataItems :=
             [{ id := "gone", category := .event, kind := "ASSET_REMOVED" }] },
          { uuid := "l", name := "lathe" }] }

/-- Store a tool of a device. -/
def AgentPlan.toolroomTool (deviceKey id : String) : Agent.Command :=
  .upsertAsset deviceKey id "Tool" "" false ⟨1⟩

namespace Chronicle

/-- Of the tools of the mill one is a tombstone already, and two are left to be removed. -/
theorem removed_one_by_one_toolroom :
    let agent :=
      ((start .toolroom ⟨0⟩).run
        [AgentPlan.toolroomTool "mill" "a", AgentPlan.toolroomTool "mill" "b",
          AgentPlan.toolroomTool "lathe" "c", .removeAsset "a" ⟨2⟩,
          AgentPlan.toolroomTool "m" "d"]).agent
    agent.log.HasNumbersFor
        (agent.reports (.removeAllAssets (some "Tool") (some "mill") ⟨3⟩)) ∧
      (agent.liveAssets (some "Tool") (some "mill")).map Asset.id =
        ["b", "d"] ∧
      agent.removeAllAssets (some "Tool") (some "mill") ⟨3⟩ =
        agent.removeEach ⟨3⟩
          ((agent.liveAssets (some "Tool") (some "mill")).map Asset.id) := by
  intro agent
  have numbers :
      agent.log.HasNumbersFor
        (agent.reports (.removeAllAssets (some "Tool") (some "mill") ⟨3⟩)) := by
    decide
  exact
    ⟨numbers, by decide,
      (removed_one_by_one .toolroom ⟨0⟩
        [AgentPlan.toolroomTool "mill" "a", AgentPlan.toolroomTool "mill" "b",
          AgentPlan.toolroomTool "lathe" "c", .removeAsset "a" ⟨2⟩,
          AgentPlan.toolroomTool "m" "d"]
        (some "Tool") (some "mill") ⟨3⟩ numbers).1⟩

end Chronicle

end MTConnect
