import MTConnect.Proofs.Activity.Conservation
import MTConnect.Proofs.Agent.Removal

namespace MTConnect

/-!
# Removing what has been removed

A shelf leaves a tombstone as it is when it is removed again. The agent answers
with it too, but it counts the removal and announces it once more. So the
removals of a run log one event for each live asset that becomes a tombstone,
and another one for each tombstone that is removed again, as far as the devices
of the assets have a data item for such events. A bulk removal passes over the
tombstones; what it logs is right.
-/

/-- Whether an event has the identifier of an asset as its value. -/
def Observation.isAbout (observation : Observation) (id : String) : Bool :=
  observation.value? == some id

namespace Catalog

/--
Whether the removal of an asset is announced: its device is known, the device
has a data item for that, and the identifiers of the two are known.
-/
def announcesRemoval (catalog : Catalog) (asset : Asset) : Bool :=
  match catalog.device? asset.device with
  | none => false
  | some device =>
      match device.itemOfKind? Agent.assetRemovedKind with
      | none => false
      | some item => (catalog.resolve device.uuid item.id).isOk

/-- Whether an asset has an identifier and its removal is announced. -/
def announcesRemovalOf (catalog : Catalog) (id : String) (asset : Asset) : Bool :=
  asset.id == id && catalog.announcesRemoval asset

/-- An announcement is one event with the identifier of the asset as its value. -/
theorem map_values_removalReadings
    (catalog : Catalog)
    (timestamp : Timestamp)
    (asset : Asset) :
    (catalog.removalReadings timestamp asset).map Reading.values =
      if catalog.announcesRemoval asset then
        [.singleton valueKey asset.id]
      else
        [] := by
  unfold removalReadings announcesRemoval
  cases known : catalog.device? asset.device with
  | none => rfl
  | some device =>
      unfold announceReadings
      cases declared : device.itemOfKind? Agent.assetRemovedKind with
      | none => simp only [declared]; rfl
      | some item =>
          unfold readings
          simp only [declared]
          cases catalog.resolve device.uuid item.id with
          | error fault => rfl
          | ok address => rfl

/-- The removal of an asset is logged as one event or none. -/
theorem length_removalReadings
    (catalog : Catalog)
    (timestamp : Timestamp)
    (asset : Asset) :
    (catalog.removalReadings timestamp asset).length =
      if catalog.announcesRemoval asset then 1 else 0 := by
  have values := congrArg List.length
    (catalog.map_values_removalReadings timestamp asset)
  rw [List.length_map] at values
  rw [values]
  split <;> rfl

/-- The announcements about an identifier are those of the assets that have it. -/
theorem countP_removalReadings
    (catalog : Catalog)
    (timestamp : Timestamp)
    (assets : List Asset)
    (id : String) :
    ((assets.flatMap (catalog.removalReadings timestamp)).map
          Reading.values).countP
        (fun values => values.find? valueKey == some id) =
      assets.countP (catalog.announcesRemovalOf id) := by
  induction assets with
  | nil => rfl
  | cons asset rest inductionHypothesis =>
      have isValue :
          (SortedMap.singleton valueKey asset.id : Values).find? valueKey =
            some asset.id := by
        unfold SortedMap.find? SortedMap.singleton
        simp
      rw [List.flatMap_cons, List.map_append, List.countP_append,
        inductionHypothesis, map_values_removalReadings, List.countP_cons,
        Nat.add_comm]
      congr 1
      unfold announcesRemovalOf
      cases catalog.announcesRemoval asset with
      | false => simp
      | true => simp [isValue]

end Catalog

/-! ## Records that become tombstones -/

section

variable {records : List Asset} {before : String → Option Asset}

/-- Of stored records none is live and removed. -/
theorem filter_buried_of_stored
    (stored : ∀ record ∈ records, before record.id = some record) :
    (records.filter fun record =>
        record.removed && (before record.id).any Asset.isLive) =
      [] := by
  rw [List.filter_eq_nil_iff]
  intro record member
  simp [stored record member, Asset.isLive]

/-- Of records that are buried, those are removed and were live that were live. -/
theorem filter_buried_of_bury
    (stored : ∀ record ∈ records, before record.id = some record)
    (test : Asset → Bool)
    (timestamp : Timestamp) :
    ((records.map fun record =>
          if test record then record.tombstone timestamp else record).filter
        fun record =>
          record.removed && (before record.id).any Asset.isLive) =
      (records.filter fun record => record.isLive && test record).map
        fun record => record.tombstone timestamp := by
  induction records with
  | nil => rfl
  | cons record rest inductionHypothesis =>
      rw [List.forall_mem_cons] at stored
      rw [List.map_cons, List.filter_cons, List.filter_cons,
        inductionHypothesis stored.2]
      cases passes : test record with
      | false => simp [stored.1, Asset.isLive]
      | true =>
          cases isLive : record.isLive with
          | false => simp [Asset.tombstone, stored.1, isLive]
          | true => simp [Asset.tombstone, stored.1, isLive]

end

namespace AssetShelf.Refines

variable {shelf : AssetShelf} {row : AssetRow} (refines : shelf.Refines row)

include refines

/-- Every record of the row is the asset that the shelf finds under its identifier. -/
theorem asset?_of_mem :
    ∀ record ∈ row.records, shelf.asset? record.id = some record := by
  obtain ⟨line, arranges, recordsEq⟩ := refines.arranged
  intro record member
  rw [← recordsEq] at member
  obtain ⟨slot, inLine, rfl⟩ := List.mem_map.mp member
  rw [asset?, arranges.find?_slots_iff.mpr ⟨inLine, rfl⟩]
  rfl

/-- There is one record of an identifier at most. -/
theorem filter_id
    {id : String}
    {asset : Asset}
    (stored : shelf.asset? id = some asset) :
    (row.records.filter fun record => record.id == id) = [asset] := by
  obtain ⟨line, arranges, recordsEq⟩ := refines.arranged
  obtain ⟨slot, found, rfl⟩ := Option.map_eq_some_iff.mp stored
  obtain ⟨inLine, rfl⟩ := arranges.find?_slots_iff.mp found
  obtain ⟨front, back, rfl⟩ := List.append_of_mem inLine
  obtain ⟨inFront, inBack⟩ := arranges.ids_ne_of_split
  have noneOf
      {part : List Slot}
      (differ : ∀ other ∈ part, other.asset.id ≠ slot.asset.id) :
      ((part.map Slot.asset).filter fun record =>
          record.id == slot.asset.id) =
        [] := by
    rw [List.filter_eq_nil_iff]
    intro record member
    obtain ⟨other, inPart, rfl⟩ := List.mem_map.mp member
    simpa using differ other inPart
  rw [← recordsEq, List.map_append, List.map_cons, List.filter_append,
    List.filter_cons, noneOf inFront, noneOf inBack]
  simp

end AssetShelf.Refines

namespace Agent

/-- Whether a command removes assets. -/
def Command.removes : Command → Bool
  | .removeAsset .. => true
  | .removeAllAssets .. => true
  | _ => false

/-- The assets that are live before a command and tombstones after it, as tombstones. -/
def buriedBy (agent : Agent) (command : Command) : List Asset :=
  (agent.perform command).assets.toList.filter fun asset =>
    asset.removed && (agent.assets.asset? asset.id).any Asset.isLive

/-- The tombstones that a command removes again. -/
def removedAgainBy (agent : Agent) : Command → List Asset
  | .removeAsset assetId _ =>
      (agent.assets.asset? assetId).toList.filter Asset.removed
  | _ => []

/-- What removing a tombstone does to an agent. -/
structure RemovesAgain
    (agent : Agent)
    (assetId : String)
    (timestamp : Timestamp)
    (tombstone : Asset) :
    Prop where
  /-- The answer is the tombstone, and the shelf stays as it is. -/
  answer_eq :
    agent.log.HasNumbersFor
        (agent.catalog.removalReadings timestamp tombstone) →
    (agent.removeAsset assetId timestamp).1 = .ok tombstone
  shelf_eq : (agent.removeAsset assetId timestamp).2.assets = agent.assets
  /-- One more change of an asset of the type is counted. -/
  counts_eq :
    (agent.removeAsset assetId timestamp).2.monitor.assets =
      ActivityMonitor.countUp agent.monitor.assets tombstone.kind
  /-- The removal is announced, which takes a number if the device announces removals. -/
  log_eq :
    (agent.removeAsset assetId timestamp).2.log =
      agent.log.offerAll (agent.catalog.removalReadings timestamp tombstone)
  next_eq :
    agent.log.HasNumbersFor
        (agent.catalog.removalReadings timestamp tombstone) →
    (agent.removeAsset assetId timestamp).2.log.next =
      agent.log.next +
        if agent.catalog.announcesRemoval tombstone then 1 else 0
  /-- So the agent is never left as it was. -/
  changes : (agent.removeAsset assetId timestamp).2 ≠ agent

variable {agent : Agent}

/-- A tombstone that is removed again is reported again. -/
theorem removeAsset_of_removed
    {assetId : String}
    {asset : Asset}
    (stored : agent.assets.asset? assetId = some asset)
    (removed : asset.removed = true)
    (timestamp : Timestamp) :
    agent.removeAsset assetId timestamp =
      ((agent.reportRemoved asset timestamp).1.map fun _ => asset,
        (agent.reportRemoved asset timestamp).2) := by
  obtain ⟨slot, found, rfl⟩ := Option.map_eq_some_iff.mp stored
  unfold removeAsset AssetShelf.remove
  simp only [found, if_pos removed]

/--
To remove a tombstone answers with it, leaves the shelf alone and announces it again.
-/
theorem removesAgain
    {assetId : String}
    {asset : Asset}
    (stored : agent.assets.asset? assetId = some asset)
    (removed : asset.removed = true)
    (timestamp : Timestamp) :
    agent.RemovesAgain assetId timestamp asset := by
  have outcome := removeAsset_of_removed stored removed timestamp
  have wrote := agent.reportRemoved_wrote asset timestamp
  have counts := agent.assets_reportRemoved asset timestamp
  refine
    { answer_eq := ?_
      shelf_eq := ?_
      counts_eq := ?_
      log_eq := ?_
      next_eq := ?_
      changes := ?_ }
  · intro numbers
    rw [outcome, reportRemoved_ok numbers]
    rfl
  · rw [outcome]
    exact agent.shelf_reportRemoved asset timestamp
  · rw [outcome]
    exact counts
  · rw [outcome]
    exact wrote.log_eq
  · intro numbers
    rw [outcome, wrote.log_eq, numbers.next_offerAll,
      Catalog.length_removalReadings]
  · intro same
    rw [outcome] at same
    dsimp only at same
    rw [same] at counts
    exact ActivityMonitor.countUp_ne _ _ counts.symm

/-! ## One removal -/

section

variable {row : AssetRow} (refines : agent.assets.Refines row)

include refines

/-- A removal buries the asset if it was live. -/
theorem buriedBy_removeAsset (assetId : String) (timestamp : Timestamp) :
    agent.buriedBy (.removeAsset assetId timestamp) =
      ((agent.assets.asset? assetId).toList.filter Asset.isLive).map
        fun asset => asset.tombstone timestamp := by
  have left := (refines.remove assetId timestamp).refines.toList_eq
  have got := refines.get_eq assetId
  have stored := refines.asset?_of_mem
  unfold buriedBy
  rw [agent.shelf_perform]
  simp only [shelfCall?]
  rw [left]
  simp only [AssetRow.answer, AssetRow.remove, ← got, AssetShelf.get]
  cases found : agent.assets.asset? assetId with
  | none => exact filter_buried_of_stored stored
  | some asset =>
      dsimp only
      cases removed : asset.removed with
      | true =>
          have notLive : asset.isLive = false := by simp [Asset.isLive, removed]
          rw [if_pos rfl, filter_buried_of_stored stored]
          simp [notLive]
      | false =>
          have isLive : asset.isLive = true := by simp [Asset.isLive, removed]
          rw [if_neg Bool.false_ne_true]
          dsimp only [AssetRow.bury]
          rw [filter_buried_of_bury stored, ← List.filter_filter,
            refines.filter_id found]
          simp [isLive]

/-- A bulk removal buries the live assets that it is about. -/
theorem buriedBy_removeAllAssets
    (kind? deviceKey? : Option String)
    (timestamp : Timestamp) :
    agent.buriedBy (.removeAllAssets kind? deviceKey? timestamp) =
      (agent.liveAssets kind? deviceKey?).map
        fun asset => asset.tombstone timestamp := by
  have stored := refines.asset?_of_mem
  unfold buriedBy
  rw [agent.shelf_perform]
  cases known : agent.deviceOf deviceKey? with
  | error fault =>
      simp only [shelfCall?, known, liveAssets]
      rw [refines.toList_eq, filter_buried_of_stored stored]
      rfl
  | ok device? =>
      have left :=
        (refines.removeAll kind? device? timestamp).refines.toList_eq
      simp only [shelfCall?, known]
      rw [left, liveAssets_of_known known, refines.toList_eq]
      simp only [AssetRow.answer, AssetRow.removeAll, AssetRow.bury]
      rw [filter_buried_of_bury stored]
      congr 1
      apply List.filter_congr
      intro record _
      simp only [AssetShelf.isTarget, ← Bool.and_assoc, Bool.and_self]

/-- A bulk removal announces what it buries. -/
theorem reports_removeAllAssets
    (kind? deviceKey? : Option String)
    (timestamp : Timestamp) :
    agent.reports (.removeAllAssets kind? deviceKey? timestamp) =
      (agent.buriedBy (.removeAllAssets kind? deviceKey? timestamp)).flatMap
        (agent.catalog.removalReadings timestamp) := by
  rw [buriedBy_removeAllAssets refines]
  cases known : agent.deviceOf deviceKey? with
  | error fault =>
      simp only [liveAssets, known, List.map_nil, List.flatMap_nil]
      unfold deviceOf Catalog.findDevice at known
      unfold reports
      cases deviceKey? with
      | none => cases known
      | some key =>
          cases found : agent.catalog.device? key with
          | none => simp only [found]
          | some device =>
              simp only [found] at known
              cases known
  | ok device? =>
      have removed := (refines.removeAll kind? device? timestamp).answer_eq
      have tombstones :
          (agent.assets.removeAll kind? device? timestamp).1 =
            (row.removeAll kind? device? timestamp).1 :=
        AssetAnswer.records.inj removed
      rw [(removeAllAssets_of_known known).2, removeAllReadings, tombstones,
        liveAssets_of_known known, refines.toList_eq]
      rfl

/-- A single removal announces what it buries, or the tombstone that it removes again. -/
theorem reports_removeAsset_eq (assetId : String) (timestamp : Timestamp) :
    agent.reports (.removeAsset assetId timestamp) =
      (agent.buriedBy (.removeAsset assetId timestamp) ++
          agent.removedAgainBy (.removeAsset assetId timestamp)).flatMap
        (agent.catalog.removalReadings timestamp) := by
  rw [buriedBy_removeAsset refines]
  simp only [reports, removedAgainBy, AssetShelf.remove, AssetShelf.asset?]
  cases found : agent.assets.slots.find? assetId with
  | none => simp
  | some slot =>
      cases removed : slot.asset.removed with
      | true => simp [removed, Asset.isLive]
      | false => simp [removed, Asset.isLive]

/-- What a removal logs about an asset. -/
theorem countP_acceptedBy
    {command : Command}
    (removes : command.removes = true)
    (numbers : agent.log.HasNumbersFor (agent.reports command))
    (id : String) :
    ((agent.acceptedBy command).countP fun event => event.isAbout id) =
      (agent.buriedBy command).countP (agent.catalog.announcesRemovalOf id) +
        (agent.removedAgainBy command).countP
          (agent.catalog.announcesRemovalOf id) := by
  have logged :
      ((agent.acceptedBy command).countP fun event => event.isAbout id) =
        ((agent.reports command).map Reading.values).countP
          (fun values => values.find? valueKey == some id) := by
    rw [← numbers.map_values_accepted, List.countP_map]
    rfl
  rw [logged]
  cases command with
  | removeAsset assetId timestamp =>
      rw [reports_removeAsset_eq refines, Catalog.countP_removalReadings,
        List.countP_append]
  | removeAllAssets kind? deviceKey? timestamp =>
      rw [reports_removeAllAssets refines, Catalog.countP_removalReadings]
      rfl
  | _ => cases removes

end

end Agent

/-! ## A run -/

namespace Chronicle

/-- What comes of the removals of a run, one after the other. -/
def overRemovals
    {α : Type}
    (of : Agent → Agent.Command → List α)
    (chronicle : Chronicle) :
    List Agent.Command → List α
  | [] => []
  | command :: rest =>
      (if command.removes then of chronicle.agent command else []) ++
        overRemovals of (chronicle.perform command) rest

/-- The events that the removals of a run log. -/
def removalEvents (chronicle : Chronicle) (commands : List Agent.Command) : List Observation :=
  chronicle.overRemovals Agent.acceptedBy commands

/-- The assets that the removals of a run turn from live ones into tombstones. -/
def buried (chronicle : Chronicle) (commands : List Agent.Command) : List Asset :=
  chronicle.overRemovals Agent.buriedBy commands

/-- The tombstones that the removals of a run remove again. -/
def removedAgain (chronicle : Chronicle) (commands : List Agent.Command) : List Asset :=
  chronicle.overRemovals Agent.removedAgainBy commands

/--
The events about an asset are as many as its burials and its repeated removals
together.
-/
theorem countP_removalEvents
    {chronicle : Chronicle}
    {row : AssetRow}
    (refines : chronicle.agent.assets.Refines row)
    {commands : List Agent.Command}
    (numbers : chronicle.NeverExhausted commands)
    (id : String) :
    ((chronicle.removalEvents commands).countP fun event =>
        event.isAbout id) =
      (chronicle.buried commands).countP
          (chronicle.agent.catalog.announcesRemovalOf id) +
        (chronicle.removedAgain commands).countP
          (chronicle.agent.catalog.announcesRemovalOf id) := by
  induction commands generalizing chronicle row with
  | nil => rfl
  | cons command rest inductionHypothesis =>
      obtain ⟨now, later⟩ := numbers
      obtain ⟨next, nextRefines⟩ :=
        Agent.exists_refines_perform refines command
      have restCounted :=
        @inductionHypothesis (chronicle.perform command) next nextRefines later
      rw [(chronicle.plan_perform command).1] at restCounted
      unfold removalEvents buried removedAgain at restCounted ⊢
      simp only [overRemovals, List.countP_append, restCounted]
      split
      next removes =>
        rw [Agent.countP_acceptedBy refines removes now]
        omega
      next => simp only [List.countP_nil, Nat.zero_add]

/-- What the removals of a run log, and what a tombstone that is removed again leads to. -/
structure AnnouncesRemovals (opened : Chronicle) (commands : List Agent.Command) : Prop where
  again :
    ∀ assetId timestamp asset,
      (opened.run commands).agent.assets.asset? assetId = some asset →
      asset.removed = true →
      (opened.run commands).agent.RemovesAgain assetId timestamp asset
  events_eq :
    opened.NeverExhausted commands →
    ∀ id,
      ((opened.removalEvents commands).countP fun event =>
          event.isAbout id) =
        (opened.buried commands).countP
            (opened.agent.catalog.announcesRemovalOf id) +
          (opened.removedAgain commands).countP
            (opened.agent.catalog.announcesRemovalOf id)
  /-- There is one event for each asset that was buried exactly if none is removed again. -/
  once_iff :
    opened.NeverExhausted commands →
    ((∀ id,
        ((opened.removalEvents commands).countP fun event =>
            event.isAbout id) =
          (opened.buried commands).countP
            (opened.agent.catalog.announcesRemovalOf id)) ↔
      ∀ asset ∈ opened.removedAgain commands,
        opened.agent.catalog.announcesRemoval asset = false)

/-- In every run a tombstone that is removed again is announced again. -/
theorem removed_again_announced_again
    (plan : AgentPlan)
    (begun : Timestamp)
    (commands : List Agent.Command) :
    (start plan begun).AnnouncesRemovals commands := by
  have nothingStored :
      (start plan begun).agent.assets.Refines
        { capacity := plan.maxAssets, limits := plan.assetLimits } :=
    AssetShelf.refines_empty plan.maxAssets plan.assetLimits
  refine
    { again := fun _ timestamp _ stored removed =>
        Agent.removesAgain stored removed timestamp
      events_eq := fun numbers id =>
        countP_removalEvents nothingStored numbers id
      once_iff := ?_ }
  intro numbers
  constructor
  · intro once asset member
    have events := countP_removalEvents nothingStored numbers asset.id
    rw [once asset.id] at events
    have noneAgain := Nat.add_eq_left.mp events.symm
    rw [List.countP_eq_zero] at noneAgain
    simpa [Catalog.announcesRemovalOf] using noneAgain asset member
  · intro silent id
    rw [countP_removalEvents nothingStored numbers id]
    have noneAgain :
        ((start plan begun).removedAgain commands).countP
            ((start plan begun).agent.catalog.announcesRemovalOf id) =
          0 := by
      rw [List.countP_eq_zero]
      intro asset member
      simp [Catalog.announcesRemovalOf, silent asset member]
    rw [noneAgain, Nat.add_zero]

/-- A tool that is removed twice is announced twice. -/
theorem removal_repeated :
    ¬ ∀ (plan : AgentPlan) (begun : Timestamp) (commands : List Agent.Command)
        (assetId : String) (timestamp : Timestamp) (asset : Asset),
        ((start plan begun).run commands).agent.assets.asset? assetId =
          some asset →
        asset.removed = true →
        ((start plan begun).run commands).agent.removeAsset assetId
            timestamp =
          (.ok asset, ((start plan begun).run commands).agent) := by
  intro idempotent
  have same :=
    idempotent .toolroom ⟨0⟩
      [AgentPlan.toolroomTool "mill" "a", .removeAsset "a" ⟨2⟩] "a" ⟨3⟩
      ⟨"a", "Tool", "m", ⟨2⟩, true, ""⟩ (by decide) rfl
  have sameNext := congrArg (fun written => written.2.log.next) same
  exact absurd sameNext (by decide)

end Chronicle

end MTConnect
