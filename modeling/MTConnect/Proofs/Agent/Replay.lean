import MTConnect.Agent.Queries
import MTConnect.Proofs.Agent.Chronicle
import MTConnect.Proofs.Observation.Reading

namespace MTConnect

/-!
# Current values as a replay of history

An answer with current values is what a client would find that had seen
everything that was logged since the last reset, up to the number that it asks
for: of every selected data item the newest observation. The agent answers so
for every number in its window, however much it has forgotten.
-/

namespace Catalog

/-- The filter of a scope does not restrict categories. -/
theorem categories_filterOfScope
    (deviceKey? : Option String)
    (devices : List Device) :
    (filterOfScope deviceKey? devices).categories = none := by
  cases deviceKey? with
  | none => rfl
  | some key =>
      have keeps (filter : ObservationFilter) :
          (devices.foldl
              (fun filter device => filter.onDevice device.uuid)
              filter).categories = filter.categories := by
        induction devices generalizing filter with
        | nil => rfl
        | cons device rest inductionHypothesis =>
            exact inductionHypothesis (filter.onDevice device.uuid)
      exact keeps .all

/-- The filter of a path selects by data items, not by categories. -/
theorem categories_of_filterOfPath
    {devices : List Device}
    {text : String}
    {filter : ObservationFilter}
    (selected : filterOfPath devices text = .ok filter) :
    filter.categories = none := by
  unfold filterOfPath at selected
  split at selected
  next => simp at selected
  next path parsed =>
    dsimp only at selected
    split at selected
    next => simp at selected
    next =>
      rw [← Except.ok.inj selected]
      rfl

/-- A device and a path restrict data items, but no categories. -/
theorem categories_of_select
    {catalog : Catalog}
    {deviceKey? path? : Option String}
    {filter : ObservationFilter}
    (selected : catalog.select deviceKey? path? = .ok filter) :
    filter.categories = none := by
  obtain ⟨devices, _, chosen⟩ := bind_eq_ok_iff.mp selected
  cases path? with
  | none =>
      rw [← Except.ok.inj chosen]
      exact categories_filterOfScope deviceKey? devices
  | some text => exact categories_of_filterOfPath chosen

end Catalog

namespace Agent

/-- A request for current values reads one snapshot through its filter. -/
theorem current_of_select
    {agent : Agent}
    {request : CurrentRequest}
    {filter : ObservationFilter}
    (selected : agent.catalog.select request.device request.path = .ok filter) :
    agent.current request =
      (agent.snapshot request.point filter).map agent.currentOf := by
  unfold current currentSnapshot
  simp only [selected, bind, Except.bind, pure, Except.pure]
  cases agent.snapshot request.point filter with
  | error fault => rfl
  | ok snapshot => rfl

/--
The current values that an agent gives for a device and a path, when measured
against a history.
-/
structure AnswersFrom
    (agent : Agent)
    (history : History)
    (device? path? : Option String)
    (filter : ObservationFilter) : Prop where
  /-- Which observations pass depends on their data items alone. -/
  admits_eq :
    ∀ observation,
      filter.admits observation = filter.selects observation.key
  /-- Exactly the numbers outside the window are refused. -/
  error_iff :
    ∀ point fault,
      agent.current
            { device := device?, path := path?, point := some point } =
          .error fault ↔
        (point < agent.log.first ∨ agent.log.next < point) ∧
          fault = .outOfRange point agent.log.first agent.log.next
  /-- As of a number in the window the history up to there is replayed. -/
  asOf :
    ∀ point,
      agent.log.first ≤ point →
      point ≤ agent.log.next →
      ∃ document,
        agent.current
              { device := device?, path := path?, point := some point } =
            .ok document ∧
          document.header.lastSequence =
            min point agent.log.window.last ∧
          (∀ observation ∈ document.observations,
            observation.sequence ≤ document.header.lastSequence) ∧
          Replays document.observations filter (history.upTo point)
  /-- Without a number the whole history is replayed. -/
  now :
    ∃ document,
      agent.current { device := device?, path := path?, point := none } =
          .ok document ∧
        Replays document.observations filter history.entries

variable
  {agent : Agent}
  {history : History}
  {device? path? : Option String}
  {filter : ObservationFilter}

/-- In the window the history up to a number is replayed. -/
theorem current_asOf
    (represents : agent.log.Represents history)
    (selected : agent.catalog.select device? path? = .ok filter)
    {point : Nat}
    (firstLe : agent.log.first ≤ point)
    (leNext : point ≤ agent.log.next) :
    ∃ document,
      agent.current
            { device := device?, path := path?, point := some point } =
          .ok document ∧
        document.header.lastSequence = min point agent.log.window.last ∧
        (∀ observation ∈ document.observations,
          observation.sequence ≤ document.header.lastSequence) ∧
        Replays document.observations filter (history.upTo point) := by
  have accepted : agent.log.window.accepts point = true :=
    (agent.log.accepts_iff point).mpr ⟨firstLe, leNext⟩
  obtain ⟨snapshot, read, windowEq, replays⟩ :=
    represents.asOf_replays accepted (Catalog.categories_of_select selected)
  refine ⟨agent.currentOf snapshot, ?_, ?_, ?_, replays⟩
  · rw [current_of_select selected, Agent.snapshot, read]
    rfl
  · simp [currentOf, headerFor, windowEq]
  · intro observation shown
    obtain ⟨_, newest⟩ := (replays.mem_iff observation).mp shown
    obtain ⟨inEntries, upTo⟩ := List.mem_filter.mp newest.member
    have belowNext := (History.bounds_of_mem inEntries).2
    rw [← represents.next_eq] at belowNext
    simp only [decide_eq_true_eq] at upTo
    simp only [currentOf, headerFor, windowEq, ObservationLog.last_window]
    omega

/-- Outside the window the request is refused, and nowhere else. -/
theorem current_error_iff
    (represents : agent.log.Represents history)
    (selected : agent.catalog.select device? path? = .ok filter)
    (point : Nat)
    (fault : Fault) :
    agent.current
          { device := device?, path := path?, point := some point } =
        .error fault ↔
      (point < agent.log.first ∨ agent.log.next < point) ∧
        fault = .outOfRange point agent.log.first agent.log.next := by
  by_cases accepted : agent.log.first ≤ point ∧ point ≤ agent.log.next
  · obtain ⟨document, answered, _⟩ :=
      current_asOf represents selected accepted.1 accepted.2
    rw [answered]
    constructor
    · intro impossible
      simp at impossible
    · rintro ⟨outside, _⟩
      omega
  · have refused : agent.log.window.accepts point = false := by
      rw [← Bool.not_eq_true, agent.log.accepts_iff]
      exact accepted
    have outside : point < agent.log.first ∨ agent.log.next < point := by
      omega
    rw [current_of_select selected, Agent.snapshot,
      ObservationLog.asOf_of_refused refused]
    constructor
    · intro failed
      exact ⟨outside, (Except.error.inj failed).symm⟩
    · rintro ⟨_, rfl⟩
      rfl

/-- An agent whose log represents a history answers from that history. -/
theorem answersFrom_of_represents
    (represents : agent.log.Represents history)
    (selected : agent.catalog.select device? path? = .ok filter) :
    agent.AnswersFrom history device? path? filter where
  admits_eq :=
    ObservationFilter.admits_eq_selects
      (Catalog.categories_of_select selected)
  error_iff := current_error_iff represents selected
  asOf := fun _ => current_asOf represents selected
  now := by
    refine ⟨agent.currentOf (agent.log.now filter), ?_,
      represents.now_replays (Catalog.categories_of_select selected)⟩
    rw [current_of_select selected]
    rfl

end Agent

namespace Chronicle

/-- Whatever an agent has been told, its current values replay its history. -/
theorem current_replays_history
    (plan : AgentPlan)
    (begun : Timestamp)
    (commands : List Agent.Command)
    (device? path? : Option String)
    (filter : ObservationFilter)
    (selected : plan.catalog.select device? path? = .ok filter) :
    ((start plan begun).run commands).agent.AnswersFrom
      ((start plan begun).run commands).history device? path? filter := by
  have sound := (sound_start plan begun).run commands
  refine Agent.answersFrom_of_represents sound.represents ?_
  rw [catalog_run]
  exact selected

/-- The first value is evicted, and the device is asked for by its name. -/
theorem current_replays_evicted :
    AgentPlan.oneItem.catalog.select (some "mill") none =
        .ok (ObservationFilter.all.onDevice "d") ∧
      ((start .oneItem ⟨0⟩).run
          [AgentPlan.oneItemValue "1",
            AgentPlan.oneItemValue "2"]).agent.AnswersFrom
        ((start .oneItem ⟨0⟩).run
          [AgentPlan.oneItemValue "1", AgentPlan.oneItemValue "2"]).history
        (some "mill") none (ObservationFilter.all.onDevice "d") :=
  ⟨rfl,
    current_replays_history .oneItem ⟨0⟩
      [AgentPlan.oneItemValue "1", AgentPlan.oneItemValue "2"]
      (some "mill") none (ObservationFilter.all.onDevice "d") rfl⟩

end Chronicle

end MTConnect
