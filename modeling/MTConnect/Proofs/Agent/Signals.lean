import MTConnect.Proofs.Agent.Chronicle

namespace MTConnect

/-!
# What an agent signals

An agent publishes a signal with every observation that it logs, and two of
them with a reset. A watcher that counts how often a signal was published knows
how far what it stands for can have moved on.
-/

theorem Signal.changedSince_eq_false_iff
    {α : Type}
    {signal : Signal α}
    {seen : Nat} :
    signal.changedSince seen = false ↔ seen = signal.revision := by
  rw [changedSince, bne_eq_false_iff_eq, eq_comm]

namespace ObservationLog

/-- A log moves on by one number at most whenever its signal is published. -/
structure Signalled (log after : ObservationLog) : Prop where
  revision_le : log.appended.revision ≤ after.appended.revision
  next_le :
    after.next + log.appended.revision ≤ log.next + after.appended.revision

namespace Signalled

theorem refl (log : ObservationLog) : log.Signalled log :=
  ⟨Nat.le_refl _, Nat.le_refl _⟩

/-- Signals of two moves are signals of both together. -/
theorem trans
    {first second third : ObservationLog}
    (earlier : first.Signalled second)
    (later : second.Signalled third) :
    first.Signalled third where
  revision_le := Nat.le_trans earlier.revision_le later.revision_le
  next_le := by
    have := earlier.next_le
    have := later.next_le
    omega

/-- What is logged is published, and what is refused is not. -/
theorem offer (log : ObservationLog) (reading : Reading) :
    log.Signalled (log.offer reading) := by
  by_cases below : log.next < Word.top
  · have published :
        (log.offer reading).appended.revision = log.appended.revision + 1 := by
      simp only [ObservationLog.offer, append_of_lt below, announce, settle,
        Signal.publish, (trim_frame _).2.2.2, record]
    have counted :
        (log.offer reading).next = log.next + 1 := by
      simp only [ObservationLog.offer, append_of_lt below]
      exact congrArg SequenceCounter.next (trim_frame _).2.1
    exact ⟨by omega, by omega⟩
  · rw [ObservationLog.offer, append_of_le (Nat.not_lt.mp below)]
    exact refl log

theorem offerAll (log : ObservationLog) (readings : List Reading) :
    log.Signalled (log.offerAll readings) := by
  induction readings generalizing log with
  | nil => exact refl log
  | cons reading rest inductionHypothesis =>
      exact (offer log reading).trans
        (inductionHypothesis (log.offer reading))

/-- A reset is published once and leads back to the first number. -/
theorem reset (log : ObservationLog) : log.Signalled log.reset := by
  have published :
      log.reset.appended.revision = log.appended.revision + 1 := rfl
  have restarted : log.reset.next = 1 := rfl
  exact ⟨by omega, by omega⟩

end Signalled

end ObservationLog

namespace Agent

/-- What the signals of an agent tell of what has happened to it. -/
structure Signalled (agent after : Agent) : Prop where
  log : agent.log.Signalled after.log
  revision_le : agent.identity.id.revision ≤ after.identity.id.revision
  id_le : agent.instanceId ≤ after.instanceId
  /-- As long as the instance's signal is not published the instance is the same. -/
  instanceId_eq :
    after.identity.id.revision = agent.identity.id.revision →
    after.instanceId = agent.instanceId
  /-- Within an instance the log does not go back. -/
  next_le :
    after.instanceId = agent.instanceId →
    agent.log.next ≤ after.log.next

/-- Every command signals what it changes. -/
theorem signalled_perform (agent : Agent) (command : Command) :
    agent.Signalled (agent.perform command) := by
  by_cases reset : command = .reset
  · subst reset
    have newer : agent.instanceId < (agent.perform .reset).instanceId :=
      AgentInstance.value_lt_renew _ _
    exact
      { log := .reset agent.log
        revision_le := Nat.le_succ _
        id_le := Nat.le_of_lt newer
        instanceId_eq := fun same => absurd same (Nat.succ_ne_self _)
        next_le := fun same => absurd same (Nat.ne_of_gt newer) }
  · have wrote := agent.perform_wrote reset
    have sameId :
        (agent.perform command).instanceId = agent.instanceId := by
      rw [instanceId, wrote.identity_eq, instanceId]
    exact
      { log := wrote.log_eq ▸ .offerAll agent.log (agent.reports command)
        revision_le := wrote.identity_eq ▸ Nat.le_refl _
        id_le := Nat.le_of_eq sameId.symm
        instanceId_eq := fun _ => sameId
        next_le := fun _ => by
          rw [wrote.log_eq]
          exact agent.log.le_next_offerAll (agent.reports command) }

end Agent

end MTConnect
