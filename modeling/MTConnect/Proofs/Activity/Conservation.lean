import MTConnect.Proofs.Agent.Chronicle
import MTConnect.Proofs.Agent.Numbers

namespace MTConnect

/-!
# Nothing is counted twice or not at all

The counts that a report shows are set against the run that led to it: the
observations that the log accepted under any identifier, the numbers that were
handed out, and the assets that commands stored or removed. Ticks, resets and
writes that are dropped or fail leave no trace in them.
-/

namespace Agent

/-- The observations that the log accepts when a command is carried out. -/
def acceptedBy (agent : Agent) (command : Command) : List Observation :=
  agent.log.accepted (agent.reports command)

/-- The assets that a command answers with: the one it stored, or those it removed. -/
def changedAssets (agent : Agent) : Command → List Asset
  | .upsertAsset deviceKey assetId kind payload removed timestamp =>
      match
        (agent.upsertAsset deviceKey assetId kind payload removed
          timestamp).1
      with
      | .ok (some stored) => [stored]
      | .ok none => []
      | .error _ => []
  | .removeAsset assetId timestamp =>
      match (agent.removeAsset assetId timestamp).1 with
      | .ok tombstone => [tombstone]
      | .error _ => []
  | .removeAllAssets kind? deviceKey? timestamp =>
      match (agent.removeAllAssets kind? deviceKey? timestamp).1 with
      | .ok tombstones => tombstones
      | .error _ => []
  | _ => []

/-- Reporting a removed asset counts it once. -/
theorem assets_reportRemoved
    (agent : Agent)
    (asset : Asset)
    (timestamp : Timestamp) :
    (agent.reportRemoved asset timestamp).2.monitor.assets =
      ActivityMonitor.countUp agent.monitor.assets asset.kind := by
  unfold reportRemoved
  dsimp only
  split
  next => rfl
  next => exact (announce_keeps _ _ _ _ timestamp).kinds_eq

/-- All of them are counted as long as there are numbers to announce them with. -/
theorem assets_reportAllRemoved
    {agent : Agent}
    {timestamp : Timestamp}
    {assets : List Asset}
    (numbers :
      agent.log.HasNumbersFor
        (assets.flatMap (agent.catalog.removalReadings timestamp))) :
    (agent.reportAllRemoved timestamp assets).2.monitor.assets =
      ActivityMonitor.countKinds agent.monitor.assets
        (assets.map Asset.kind) := by
  induction assets generalizing agent with
  | nil => rfl
  | cons asset rest inductionHypothesis =>
      rw [List.flatMap_cons] at numbers
      have wrote := agent.reportRemoved_wrote asset timestamp
      have later := wrote.hasNumbersFor numbers
      rw [← wrote.catalog_eq] at later
      have answered := reportRemoved_ok numbers.left
      have counted := agent.assets_reportRemoved asset timestamp
      rw [reportAllRemoved]
      split
      next fault after outcome =>
        have failed := congrArg Prod.fst outcome
        exact absurd (answered.symm.trans failed) (by simp)
      next after outcome =>
        have sameAfter := congrArg Prod.snd outcome
        subst sameAfter
        rw [inductionHypothesis later, counted]
        rfl

/-- An upsert on a known device counts one change of the type of the asset. -/
theorem assets_upsertAsset
    (agent : Agent)
    (deviceKey assetId kind payload : String)
    (removed : Bool)
    (timestamp : Timestamp) :
    (agent.upsertAsset deviceKey assetId kind payload removed
          timestamp).2.monitor.assets =
      match agent.catalog.device? deviceKey with
      | none => agent.monitor.assets
      | some _ => ActivityMonitor.countUp agent.monitor.assets kind := by
  unfold upsertAsset
  dsimp only
  cases agent.catalog.device? deviceKey with
  | none => rfl
  | some device =>
      exact (announce_keeps _ device _ assetId timestamp).kinds_eq

/-- With numbers left, a bulk removal counts one change for each asset that it removes. -/
theorem assets_removeAllOf
    {agent : Agent}
    {kind? device? : Option String}
    {timestamp : Timestamp}
    (numbers :
      agent.log.HasNumbersFor
        (agent.removeAllReadings kind? device? timestamp)) :
    (agent.removeAllOf kind? device? timestamp).2.monitor.assets =
      ActivityMonitor.countKinds agent.monitor.assets
        ((agent.assets.removeAll kind? device? timestamp).1.map
          Asset.kind) := by
  have counted :
      ({ agent with
          assets :=
            (agent.assets.removeAll kind? device?
              timestamp).2 }.reportAllRemoved timestamp
          (agent.assets.removeAll kind? device?
            timestamp).1).2.monitor.assets =
        ActivityMonitor.countKinds agent.monitor.assets
          ((agent.assets.removeAll kind? device? timestamp).1.map
            Asset.kind) :=
    assets_reportAllRemoved numbers
  exact counted

/-- A command counts the assets that it answers with, and no others. -/
theorem assets_perform
    (agent : Agent)
    {command : Command}
    (numbers : agent.log.HasNumbersFor (agent.reports command)) :
    (agent.perform command).monitor.assets =
      ActivityMonitor.countKinds agent.monitor.assets
        ((agent.changedAssets command).map Asset.kind) := by
  cases command with
  | append deviceKey itemKey values timestamp =>
      exact (agent.append_keeps deviceKey itemKey values timestamp).kinds_eq
  | markUnavailable deviceKey itemKey timestamp =>
      exact (agent.append_keeps deviceKey itemKey _ timestamp).kinds_eq
  | markDeviceUnavailable deviceKey timestamp =>
      exact (agent.markDeviceUnavailable_keeps deviceKey timestamp).kinds_eq
  | upsertAsset deviceKey assetId kind payload removed timestamp =>
      refine (agent.assets_upsertAsset deviceKey assetId kind payload
        removed timestamp).trans ?_
      simp only [changedAssets, upsertAsset_ok numbers]
      cases agent.catalog.device? deviceKey <;> rfl
  | removeAsset assetId timestamp =>
      rw [changedAssets, removeAsset_ok numbers]
      unfold perform removeAsset
      dsimp only
      cases agent.assets.remove assetId timestamp with
      | error fault => rfl
      | ok outcome =>
          exact assets_reportRemoved _ outcome.1 timestamp
  | removeAllAssets kind? deviceKey? timestamp =>
      simp only [reports] at numbers
      simp only [perform, changedAssets, removeAllAssets]
      cases deviceKey? with
      | none =>
          rw [removeAllOf_ok numbers]
          exact assets_removeAllOf numbers
      | some key =>
          cases found : agent.catalog.device? key with
          | none => simp only [found]; rfl
          | some device =>
              simp only [found] at numbers ⊢
              rw [removeAllOf_ok numbers]
              exact assets_removeAllOf numbers
  | reset => rfl
  | setClock now => rfl
  | advanceClock millis => rfl
  | tick => rfl

end Agent

namespace Chronicle

/-- What was accepted in a run, each observation with the identifier it came under. -/
def acceptances (chronicle : Chronicle) : List Agent.Command → List (Nat × Observation)
  | [] => []
  | command :: rest =>
      (chronicle.agent.acceptedBy command).map
          (Prod.mk chronicle.agent.instanceId) ++
        (chronicle.perform command).acceptances rest

/-- How many numbers were handed out in a run; a reset begins again with the first. -/
def handedOut (chronicle : Chronicle) : List Agent.Command → Nat
  | [] => 0
  | .reset :: rest => (chronicle.perform .reset).handedOut rest
  | command :: rest =>
      ((chronicle.perform command).agent.log.next -
          chronicle.agent.log.next) +
        (chronicle.perform command).handedOut rest

/-- The assets that the commands of a run answered with. -/
def changedAssets (chronicle : Chronicle) : List Agent.Command → List Asset
  | [] => []
  | command :: rest =>
      chronicle.agent.changedAssets command ++
        (chronicle.perform command).changedAssets rest

/-- The numbers last for everything that is reported in a run. -/
def NeverExhausted (chronicle : Chronicle) : List Agent.Command → Prop
  | [] => True
  | command :: rest =>
      chronicle.agent.log.HasNumbersFor (chronicle.agent.reports command) ∧
        (chronicle.perform command).NeverExhausted rest

/-- What is accepted in a run is what its first command has accepted, then the rest. -/
theorem acceptances_cons
    (chronicle : Chronicle)
    (command : Agent.Command)
    (rest : List Agent.Command) :
    (chronicle.acceptances (command :: rest)).map Prod.snd =
      chronicle.agent.acceptedBy command ++
        ((chronicle.perform command).acceptances rest).map Prod.snd := by
  simp [acceptances, Function.comp_def]

/-- A command adds to what was counted the observations that it has accepted. -/
theorem hasCounted_perform
    {chronicle : Chronicle}
    {observations : List Observation}
    (counted : chronicle.agent.monitor.HasCounted observations)
    (command : Agent.Command) :
    (chronicle.perform command).agent.monitor.HasCounted
      (observations ++ chronicle.agent.acceptedBy command) := by
  by_cases reset : command = .reset
  · rw [reset]
    have nothing : chronicle.agent.acceptedBy .reset = [] := rfl
    rw [nothing, List.append_nil]
    exact counted
  · have wrote := chronicle.agent.perform_wrote reset
    exact
      (counted.countAll (chronicle.agent.acceptedBy command)).of_devices_eq
        wrote.devices_eq

/-- In every run the monitor counts what is accepted. -/
theorem hasCounted_run
    {chronicle : Chronicle}
    {observations : List Observation}
    (counted : chronicle.agent.monitor.HasCounted observations)
    (commands : List Agent.Command) :
    (chronicle.run commands).agent.monitor.HasCounted
      (observations ++ (chronicle.acceptances commands).map Prod.snd) := by
  induction commands generalizing chronicle observations with
  | nil =>
      rw [acceptances, List.map_nil, List.append_nil]
      exact counted
  | cons command rest inductionHypothesis =>
      rw [acceptances_cons, ← List.append_assoc]
      exact inductionHypothesis (hasCounted_perform counted command)

/-- What a command has accepted came under the identifier of its time. -/
theorem acceptances_filter_cons
    (chronicle : Chronicle)
    (command : Agent.Command)
    (rest : List Agent.Command)
    (id : Nat) :
    ((chronicle.acceptances (command :: rest)).filter
          fun acceptance => acceptance.1 == id).map Prod.snd =
      (if id = chronicle.agent.instanceId then
          chronicle.agent.acceptedBy command
        else
          []) ++
        (((chronicle.perform command).acceptances rest).filter
          fun acceptance => acceptance.1 == id).map Prod.snd := by
  rw [acceptances, List.filter_append, List.map_append, List.filter_map]
  congr 1
  split
  next current =>
    subst current
    simp [Function.comp_def]
  next other =>
    have differs : ¬ chronicle.agent.instanceId = id := Ne.symm other
    simp [Function.comp_def, differs]

/-- What is accepted under an identifier is what its history gains. -/
theorem annals_run_eq
    {chronicle : Chronicle}
    (sound : chronicle.Sound)
    (commands : List Agent.Command)
    (id : Nat) :
    ((chronicle.run commands).annals id).entries =
      (chronicle.annals id).entries ++
        ((chronicle.acceptances commands).filter
          fun acceptance => acceptance.1 == id).map Prod.snd := by
  induction commands generalizing chronicle with
  | nil => simp [run, acceptances]
  | cons command rest inductionHypothesis =>
      refine (inductionHypothesis (sound.perform command)).trans ?_
      rw [acceptances_filter_cons, ← List.append_assoc]
      congr 1
      split
      next current =>
        subst current
        have gained :=
          sound.represents.entries_offerAll (chronicle.agent.reports command)
        simpa [perform, Agent.acceptedBy, history] using gained
      next other =>
        rw [annals_perform_of_ne other, List.append_nil]

/-- Each number that is handed out goes to an observation that is accepted. -/
theorem length_acceptances
    {chronicle : Chronicle}
    (sound : chronicle.Sound)
    (commands : List Agent.Command) :
    (chronicle.acceptances commands).length =
      chronicle.handedOut commands := by
  induction commands generalizing chronicle with
  | nil => rfl
  | cons command rest inductionHypothesis =>
      have later := inductionHypothesis (sound.perform command)
      rw [acceptances, List.length_append, List.length_map, later]
      by_cases reset : command = .reset
      · subst reset
        simp [handedOut, Agent.acceptedBy, Agent.reports,
          ObservationLog.accepted]
      · have wrote := chronicle.agent.perform_wrote reset
        have gained :=
          sound.represents.next_offerAll (chronicle.agent.reports command)
        rw [← wrote.log_eq] at gained
        have unfolded :
            chronicle.handedOut (command :: rest) =
              ((chronicle.perform command).agent.log.next -
                  chronicle.agent.log.next) +
                (chronicle.perform command).handedOut rest := by
          cases command with
          | reset => exact absurd rfl reset
          | _ => rfl
        rw [unfolded]
        unfold Agent.acceptedBy
        have nextEq :
            (chronicle.perform command).agent.log.next =
              (chronicle.agent.perform command).log.next :=
          rfl
        omega

/-- In a run in which the numbers last, the assets that are answered with are counted. -/
theorem assets_run
    {chronicle : Chronicle}
    {kinds : List String}
    (counted :
      chronicle.agent.monitor.assets =
        ActivityMonitor.countKinds .empty kinds)
    {commands : List Agent.Command}
    (numbers : chronicle.NeverExhausted commands) :
    (chronicle.run commands).agent.monitor.assets =
      ActivityMonitor.countKinds .empty
        (kinds ++ (chronicle.changedAssets commands).map Asset.kind) := by
  induction commands generalizing chronicle kinds with
  | nil =>
      rw [changedAssets, List.map_nil, List.append_nil]
      exact counted
  | cons command rest inductionHypothesis =>
      obtain ⟨now, later⟩ := numbers
      have countedNow := chronicle.agent.assets_perform now
      rw [counted] at countedNow
      have appended :
          (chronicle.perform command).agent.monitor.assets =
            ActivityMonitor.countKinds .empty
              (kinds ++
                (chronicle.agent.changedAssets command).map Asset.kind) :=
        countedNow.trans List.foldl_append.symm
      rw [changedAssets, List.map_append, ← List.append_assoc]
      exact inductionHypothesis appended later

/-- What the report after a run says about the run. -/
structure Conserves (opened : Chronicle) (commands : List Agent.Command) : Prop where
  /-- What was accepted under an identifier is all that was ever logged under it. -/
  annals_eq :
    ∀ id,
      ((opened.run commands).annals id).entries =
        ((opened.acceptances commands).filter
          fun acceptance => acceptance.1 == id).map Prod.snd
  item_count :
    ∀ device item,
      (opened.run commands).agent.monitor.report.itemCount device item =
        (opened.acceptances commands).countP fun acceptance =>
          acceptance.2.key == ⟨device, item⟩
  device_count :
    ∀ device rates,
      (opened.run commands).agent.monitor.report.devices.find? device =
          some rates →
      rates.total.count = (rates.items.values.map Rate.count).sum
  total_observations :
    (opened.run commands).agent.monitor.report.totalObservations =
      opened.handedOut commands
  /-- As long as there are numbers, the assets are those that were answered with. -/
  asset_count :
    opened.NeverExhausted commands →
    ∀ kind,
      (opened.run commands).agent.monitor.report.assetCount kind =
        (opened.changedAssets commands).countP fun asset =>
          asset.kind == kind

/-- Whatever an agent is told, its reports count what was accepted, once. -/
theorem report_conserves
    (plan : AgentPlan)
    (begun : Timestamp)
    (commands : List Agent.Command) :
    (start plan begun).Conserves commands := by
  have sound := sound_start plan begun
  have nothingCounted : (start plan begun).agent.monitor.HasCounted [] :=
    ActivityMonitor.hasCounted_empty plan.smoothing
  have counted := hasCounted_run nothingCounted commands
  rw [List.nil_append] at counted
  exact
    { annals_eq := fun id => annals_run_eq sound commands id
      item_count := by
        intro device item
        rw [counted.itemCount_report, List.countP_map]
        rfl
      device_count := fun _ _ found => counted.device_report found
      total_observations := by
        rw [counted.totalObservations_report, List.length_map,
          length_acceptances sound]
      asset_count := by
        intro numbers kind
        have noAssets :
            (start plan begun).agent.monitor.assets =
              ActivityMonitor.countKinds .empty [] :=
          rfl
        have assets := assets_run noAssets numbers
        rw [List.nil_append] at assets
        rw [ActivityMonitor.assetCount_report assets, List.count,
          List.countP_map]
        rfl }

end Chronicle

end MTConnect
