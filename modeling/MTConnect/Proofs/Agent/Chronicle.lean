import MTConnect.Proofs.Agent.Command

namespace MTConnect

/-!
# The chronicle of an agent

A chronicle is an agent together with everything that was ever logged, sorted
by the instance identifier under which it was logged. The agent itself keeps
only a window of its current history; the chronicle keeps all of every
history. In every run the log of the agent represents the history that the
chronicle has of the current instance, and no instance comes back.
-/

/-- For every instance identifier, what was logged under it. -/
abbrev Annals := Nat → History

/-- An agent and all that was ever logged. -/
structure Chronicle where
  agent : Agent
  annals : Annals

namespace Chronicle

/-- A new agent; nothing has been logged under any identifier. -/
def start (plan : AgentPlan) (now : Timestamp) : Chronicle where
  agent := .start plan now
  annals := fun _ => .beginningAt 1

/-- Carry out a command, and note what it reports under the current identifier. -/
def perform (chronicle : Chronicle) (command : Agent.Command) : Chronicle where
  agent := chronicle.agent.perform command
  annals := fun id =>
    if id = chronicle.agent.instanceId then
      (chronicle.annals id).offerAll (chronicle.agent.reports command)
    else
      chronicle.annals id

/-- Carry out commands, one after the other. -/
def run (chronicle : Chronicle) (commands : List Agent.Command) : Chronicle :=
  commands.foldl perform chronicle

/-- What was logged under the current identifier. -/
def history (chronicle : Chronicle) : History :=
  chronicle.annals chronicle.agent.instanceId

/-- The agent and the annals agree, and the identifiers to come are unused. -/
structure Sound (chronicle : Chronicle) : Prop where
  represents : chronicle.agent.log.Represents chronicle.history
  unused :
    ∀ id,
      chronicle.agent.instanceId < id →
      chronicle.annals id = .beginningAt 1

theorem sound_start (plan : AgentPlan) (now : Timestamp) :
    (start plan now).Sound where
  represents := ObservationLog.represents_startingAt _ (by decide)
  unused := fun _ _ => rfl

/-- The histories of other instances are closed. -/
theorem annals_perform_of_ne
    {chronicle : Chronicle}
    {id : Nat}
    (other : id ≠ chronicle.agent.instanceId)
    (command : Agent.Command) :
    (chronicle.perform command).annals id = chronicle.annals id := by
  simp [perform, other]

/-- Every history only grows. -/
theorem exists_annals_perform
    (chronicle : Chronicle)
    (command : Agent.Command)
    (id : Nat) :
    ∃ readings,
      (chronicle.perform command).annals id =
        (chronicle.annals id).offerAll readings := by
  by_cases current : id = chronicle.agent.instanceId
  · exact ⟨chronicle.agent.reports command, by simp [perform, current]⟩
  · exact ⟨[], annals_perform_of_ne current command⟩

/-- What was noted under an identifier is never taken back. -/
theorem next_le_perform
    (chronicle : Chronicle)
    (command : Agent.Command)
    (id : Nat) :
    (chronicle.annals id).next ≤
      ((chronicle.perform command).annals id).next := by
  obtain ⟨readings, grown⟩ := chronicle.exists_annals_perform command id
  rw [grown]
  exact History.next_le_offerAll _ readings

/-- What was chosen below the next number of a history stays. -/
theorem between_perform
    {chronicle : Chronicle}
    {id stop : Nat}
    (reached : stop ≤ (chronicle.annals id).next)
    (command : Agent.Command)
    (filter : ObservationFilter)
    (start : Nat) :
    ((chronicle.perform command).annals id).between filter start stop =
      (chronicle.annals id).between filter start stop := by
  obtain ⟨readings, grown⟩ := chronicle.exists_annals_perform command id
  rw [grown]
  exact History.between_offerAll reached filter start readings

/-- Only a reset changes the instance identifier. -/
theorem instanceId_perform_of_ne
    (chronicle : Chronicle)
    {command : Agent.Command}
    (noReset : command ≠ .reset) :
    (chronicle.perform command).agent.instanceId =
      chronicle.agent.instanceId := by
  have wrote := chronicle.agent.perform_wrote noReset
  simp [perform, Agent.instanceId, wrote.identity_eq]

/-- Without a reset the current history gains what a command reports. -/
theorem history_perform_of_ne
    (chronicle : Chronicle)
    {command : Agent.Command}
    (noReset : command ≠ .reset) :
    (chronicle.perform command).history =
      chronicle.history.offerAll (chronicle.agent.reports command) := by
  rw [history, chronicle.instanceId_perform_of_ne noReset]
  simp [perform, history]

/-- A reset makes the instance identifier larger. -/
theorem instanceId_lt_reset (chronicle : Chronicle) :
    chronicle.agent.instanceId <
      (chronicle.perform .reset).agent.instanceId :=
  AgentInstance.value_lt_renew _ _

/-- A command never makes the identifier smaller. -/
theorem instanceId_le_perform
    (chronicle : Chronicle)
    (command : Agent.Command) :
    chronicle.agent.instanceId ≤
      (chronicle.perform command).agent.instanceId := by
  by_cases reset : command = .reset
  · rw [reset]
    exact Nat.le_of_lt chronicle.instanceId_lt_reset
  · exact Nat.le_of_eq (chronicle.instanceId_perform_of_ne reset).symm

/-- The catalog and the limits are those that the agent was started with. -/
theorem plan_perform (chronicle : Chronicle) (command : Agent.Command) :
    (chronicle.perform command).agent.catalog = chronicle.agent.catalog ∧
      (chronicle.perform command).agent.limits = chronicle.agent.limits := by
  by_cases reset : command = .reset
  · rw [reset]
    exact ⟨rfl, rfl⟩
  · have wrote := chronicle.agent.perform_wrote reset
    exact ⟨wrote.catalog_eq, wrote.limits_eq⟩

namespace Sound

/-- Every command keeps the agent and the annals in agreement. -/
theorem perform
    {chronicle : Chronicle}
    (sound : chronicle.Sound)
    (command : Agent.Command) :
    (chronicle.perform command).Sound := by
  have grows := chronicle.instanceId_le_perform command
  refine ⟨?_, ?_⟩
  · by_cases reset : command = .reset
    · -- The new identifier is larger, so that nothing was logged under it.
      subst reset
      have newer := chronicle.instanceId_lt_reset
      rw [history, annals_perform_of_ne (Nat.ne_of_gt newer),
        sound.unused _ newer]
      exact ObservationLog.Represents.reset _
    · have wrote := chronicle.agent.perform_wrote reset
      rw [chronicle.history_perform_of_ne reset]
      have represents :=
        sound.represents.offerAll (chronicle.agent.reports command)
      rw [← wrote.log_eq] at represents
      exact represents
  · intro id newer
    have newerThanBefore := Nat.lt_of_le_of_lt grows newer
    rw [annals_perform_of_ne (Nat.ne_of_gt newerThanBefore)]
    exact sound.unused id newerThanBefore

/-- In every run the agent and the annals agree. -/
theorem run
    {chronicle : Chronicle}
    (sound : chronicle.Sound)
    (commands : List Agent.Command) :
    (chronicle.run commands).Sound := by
  induction commands generalizing chronicle with
  | nil => exact sound
  | cons command rest inductionHypothesis =>
      exact inductionHypothesis (sound.perform command)

end Sound

/-! ## Over several commands -/

theorem run_append
    (chronicle : Chronicle)
    (earlier later : List Agent.Command) :
    chronicle.run (earlier ++ later) = (chronicle.run earlier).run later :=
  List.foldl_append

/-- Whatever is carried out, every history only grows. -/
theorem exists_annals_run
    (chronicle : Chronicle)
    (commands : List Agent.Command)
    (id : Nat) :
    ∃ readings,
      (chronicle.run commands).annals id =
        (chronicle.annals id).offerAll readings := by
  induction commands generalizing chronicle with
  | nil => exact ⟨[], rfl⟩
  | cons command rest inductionHypothesis =>
      obtain ⟨first, grown⟩ := chronicle.exists_annals_perform command id
      obtain ⟨others, grownOn⟩ :=
        inductionHypothesis (chronicle.perform command)
      refine ⟨first ++ others, grownOn.trans ?_⟩
      rw [grown]
      exact List.foldl_append.symm

/-- Without a reset the identifier stays. -/
theorem instanceId_run_of_noReset
    (chronicle : Chronicle)
    {commands : List Agent.Command}
    (noReset : .reset ∉ commands) :
    (chronicle.run commands).agent.instanceId =
      chronicle.agent.instanceId := by
  induction commands generalizing chronicle with
  | nil => rfl
  | cons command rest inductionHypothesis =>
      rw [List.mem_cons, not_or] at noReset
      exact
        (inductionHypothesis (chronicle.perform command) noReset.2).trans
          (chronicle.instanceId_perform_of_ne (Ne.symm noReset.1))

/-- A run never makes the identifier smaller. -/
theorem instanceId_le_run
    (chronicle : Chronicle)
    (commands : List Agent.Command) :
    chronicle.agent.instanceId ≤
      (chronicle.run commands).agent.instanceId := by
  induction commands generalizing chronicle with
  | nil => exact Nat.le_refl _
  | cons command rest inductionHypothesis =>
      exact
        Nat.le_trans (chronicle.instanceId_le_perform command)
          (inductionHypothesis (chronicle.perform command))

/-- Whatever the clock does, after a reset the identifier is a larger one. -/
theorem instanceId_lt_run
    (chronicle : Chronicle)
    {commands : List Agent.Command}
    (reset : .reset ∈ commands) :
    chronicle.agent.instanceId <
      (chronicle.run commands).agent.instanceId := by
  obtain ⟨earlier, later, rfl⟩ := List.append_of_mem reset
  calc
    chronicle.agent.instanceId ≤
        (chronicle.run earlier).agent.instanceId :=
      chronicle.instanceId_le_run earlier
    _ < ((chronicle.run earlier).perform .reset).agent.instanceId :=
      (chronicle.run earlier).instanceId_lt_reset
    _ ≤ (((chronicle.run earlier).perform .reset).run
          later).agent.instanceId :=
      instanceId_le_run _ later
    _ = (chronicle.run (earlier ++ .reset :: later)).agent.instanceId := by
      rw [run_append]
      rfl

/-- The catalog outlasts all commands. -/
theorem catalog_run (chronicle : Chronicle) (commands : List Agent.Command) :
    (chronicle.run commands).agent.catalog = chronicle.agent.catalog := by
  induction commands generalizing chronicle with
  | nil => rfl
  | cons command rest inductionHypothesis =>
      exact (inductionHypothesis (chronicle.perform command)).trans
        (chronicle.plan_perform command).1

/-- The limits outlast all commands. -/
theorem limits_run (chronicle : Chronicle) (commands : List Agent.Command) :
    (chronicle.run commands).agent.limits = chronicle.agent.limits := by
  induction commands generalizing chronicle with
  | nil => rfl
  | cons command rest inductionHypothesis =>
      exact (inductionHypothesis (chronicle.perform command)).trans
        (chronicle.plan_perform command).2

end Chronicle

/-- A plan with one device of one data item, of which one observation is retained. -/
def AgentPlan.oneItem : AgentPlan where
  catalog :=
    { devices :=
        [{ uuid := "d"
           name := "mill"
           dataItems :=
             [{ id := "x", category := .sample, kind := "POSITION" }] }] }
  bufferSize := 1

/-- A value of that data item. -/
def AgentPlan.oneItemValue (value : String) : Agent.Command :=
  .append "mill" "x" (.singleton valueKey value) ⟨0⟩

end MTConnect
