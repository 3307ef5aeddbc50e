import MTConnect.Proofs.Stream.Lossless

namespace MTConnect

/-!
# Where the frames of a stream come from

A session makes a frame in one of three situations: it puts a header over a page
that it has read, it makes a heartbeat, or it tells of a fault that it has met.
Every frame of a stream was made so by one step of its run; what came before
that step made exactly the frames before it. A fault was met in an earlier step,
and from then on the session did nothing but make the error.
-/

/-- The header that a frame carries, unless it is an error. -/
def Frame.header? : Frame → Option Header
  | .data document => some document.header
  | .heartbeat header _ => some header
  | .failure _ => none

/-- The number from which reading goes on after a frame. -/
def Frame.resumesAt? : Frame → Option Nat
  | .data document => some document.endSequence
  | .heartbeat _ endSequence => some endSequence
  | .failure _ => none

/-- Whether a session in a phase makes no frame any more. -/
def SessionPhase.isOver : SessionPhase → Bool
  | .sending (.failure _) => true
  | .stopped => true
  | _ => false

namespace Session

/-- The frame that a session makes of what it finds in the agent. -/
inductive Makes (session : Session) (agent : Agent) : Frame → Prop where
  | data
      (page : Page)
      (heading : session.phase = .heading page)
      (something : page.observations ≠ []) :
      Makes session agent (.data (agent.sampleOf page))
  | heartbeat
      (beating : session.phase = .beating) :
      Makes session agent (.heartbeat agent.header session.cursor)
  | failure
      (fault : Fault)
      (failing : session.phase = .failing fault) :
      Makes session agent (.failure (agent.errorDocument fault))

/-- What a session finds that ends it with an error. -/
inductive Meets (session : Session) (agent : Agent) : Fault → Prop where
  /-- The options do not allow a beginning. -/
  | refused
      (fault : Fault)
      (refuses : session.Refuses agent fault) :
      Meets session agent fault
  /-- The history that the session began in is gone. -/
  | replaced
      (looking : session.phase = .checking ∨ session.phase = .polling)
      (other : agent.instanceId ≠ session.instanceId) :
      Meets session agent
        (.instanceMismatch session.instanceId agent.instanceId)
  /-- The log does not accept the cursor. -/
  | misread
      (fault : Fault)
      (reading : session.phase = .reading)
      (failed :
        agent.log.range session.cursor none session.count session.filter =
          .error fault) :
      Meets session agent fault

variable {session next : Session} {agent : Agent} {now : Nat} {frame : Frame}

/-- A frame that waits after a step was made in this step. -/
theorem makes_of_step
    (stepped : session.step? agent now = some next)
    (member : frame ∈ next.blocked) :
    session.Makes agent frame := by
  cases takes_of_step stepped with
  | delivers page heading something =>
      rw [List.mem_singleton.mp member]
      exact .data page heading something
  | reports fault failing =>
      rw [List.mem_singleton.mp member]
      exact .failure fault failing
  | beats beating =>
      rw [List.mem_singleton.mp member]
      exact .heartbeat beating
  | emits sent sending wanted hasRoom =>
      cases sent with
      | data document => cases member
      | heartbeat header endSequence => cases member
      | failure document => cases member
  | _ => cases member

/-- A session that is about to tell of a fault has met it in the step before. -/
theorem meets_of_step
    {fault : Fault}
    (stepped : session.step? agent now = some next)
    (failing : next.phase = .failing fault) :
    session.Meets agent fault := by
  cases takes_of_step stepped with
  | rejects met validating refused =>
      obtain rfl := SessionPhase.failing.inj failing
      exact .refused met (.terms met validating refused)
  | misplaces met placing refused =>
      obtain rfl := SessionPhase.failing.inj failing
      exact .refused met (.start met placing refused)
  | replaced looking other =>
      obtain rfl := SessionPhase.failing.inj failing
      exact .replaced looking other
  | misreads met reading failed =>
      obtain rfl := SessionPhase.failing.inj failing
      exact .misread met reading failed
  | emits sent sending wanted hasRoom =>
      cases sent with
      | data document => cases failing
      | heartbeat header endSequence => cases failing
      | failure document => cases failing
  | _ => cases failing

/-- A session that has ended, or that waits to end, makes no frame any more. -/
theorem isOver_of_step
    (ended : session.phase.isOver = true)
    (stepped : session.step? agent now = some next) :
    next.phase.isOver = true ∧ next.blocked = [] := by
  have goesOn := phase_ne_of_step stepped
  unfold SessionPhase.isOver at ended
  split at ended
  next document sending =>
    simp only [step?, sending] at stepped
    split at stepped
    next =>
      rw [← Option.some.inj stepped]
      exact ⟨rfl, rfl⟩
    next =>
      split at stepped
      next =>
        rw [← Option.some.inj stepped]
        exact ⟨rfl, rfl⟩
      next => cases stepped
  next stopped => exact absurd stopped goesOn
  next => cases ended

end Session

namespace Streaming

variable {streaming : Streaming}

/-- The next step of the session makes a frame. -/
structure Making (streaming : Streaming) (made : MadeFrame) : Prop where
  makes : streaming.session.Makes streaming.agent made.frame
  made_eq : (streaming.after .step).made = streaming.made ++ [made]
  blocked_eq : (streaming.after .step).session.blocked = [made.frame]
  cursor_eq : (streaming.after .step).session.cursor = made.cursor

/-- Nothing but a step makes a frame, and no step makes two. -/
theorem made_after (streaming : Streaming) (event : StreamEvent) :
    (streaming.after event).made = streaming.made ∨
      event = .step ∧ ∃ made, streaming.Making made := by
  cases event with
  | step =>
      cases stepped :
          streaming.session.step? streaming.agent streaming.now with
      | none =>
          rw [after_step_of_none stepped]
          exact .inl rfl
      | some next =>
          have afterEq := after_step_of_some stepped
          rcases next.blocked_cases with silent | ⟨frame, blockedEq⟩
          · left
            simp [afterEq, Streaming.stepped, silent]
          · right
            refine ⟨rfl, { frame := frame, cursor := next.cursor }, ?_⟩
            exact
              { makes := Session.makes_of_step stepped (by simp [blockedEq])
                made_eq := by simp [afterEq, Streaming.stepped, blockedEq]
                blocked_eq := by rw [afterEq]; exact blockedEq
                cursor_eq := by rw [afterEq]; rfl }
  | receive =>
      obtain ⟨queue, received, afterEq⟩ := streaming.after_receive_cases
      rw [afterEq]
      exact .inl rfl
  | _ => exact .inl rfl

/-- The frames that were made remain the first ones. -/
theorem made_prefix_run (streaming : Streaming) (events : List StreamEvent) :
    streaming.made <+: (streaming.run events).made := by
  induction events generalizing streaming with
  | nil => exact List.prefix_refl _
  | cons event rest inductionHypothesis =>
      refine List.IsPrefix.trans ?_ (inductionHypothesis (streaming.after event))
      rcases streaming.made_after event with same | ⟨rfl, made, making⟩
      · exact same ▸ List.prefix_refl _
      · rw [making.made_eq]
        exact List.prefix_append _ _

/-- Every frame of a run was made by one of its steps. -/
theorem exists_making
    {events : List StreamEvent}
    {earlier later : List MadeFrame}
    {made : MadeFrame}
    (known : streaming.made <+: earlier)
    (split : (streaming.run events).made = earlier ++ made :: later) :
    ∃ before after,
      events = before ++ .step :: after ∧
        (streaming.run before).made = earlier ∧
        (streaming.run before).Making made := by
  induction events generalizing streaming with
  | nil =>
      obtain ⟨others, rfl⟩ := known
      simp [run] at split
  | cons event rest inductionHypothesis =>
      -- Either the frame is made by a later event, or this one makes it.
      have fromLater
          (stillKnown : (streaming.after event).made <+: earlier) :
          ∃ before after,
            event :: rest = before ++ .step :: after ∧
              (streaming.run before).made = earlier ∧
              (streaming.run before).Making made := by
        obtain ⟨before, after, rfl, madeEq, making⟩ :=
          inductionHypothesis stillKnown split
        exact ⟨event :: before, after, rfl, madeEq, making⟩
      rcases streaming.made_after event with same | ⟨rfl, first, making⟩
      · exact fromLater (same ▸ known)
      · obtain ⟨others, rfl⟩ := known
        obtain ⟨final, grown⟩ :=
          (streaming.after .step).made_prefix_run rest
        rw [making.made_eq] at grown
        have tails : first :: final = others ++ made :: later := by
          have whole := grown.trans split
          simpa [run] using whole
        cases others with
        | nil =>
            obtain ⟨rfl, _⟩ := List.cons.inj tails
            exact ⟨[], rest, rfl, by simp [run], making⟩
        | cons second others =>
            obtain ⟨rfl, _⟩ := List.cons.inj tails
            refine fromLater ?_
            rw [making.made_eq]
            exact ⟨others, by simp⟩

/-- Once the session makes no frame any more, none is made. -/
theorem isOver_after
    (ended : streaming.session.phase.isOver = true)
    (event : StreamEvent) :
    (streaming.after event).session.phase.isOver = true ∧
      (streaming.after event).made = streaming.made := by
  cases event with
  | step =>
      cases stepped :
          streaming.session.step? streaming.agent streaming.now with
      | none =>
          rw [after_step_of_none stepped]
          exact ⟨ended, rfl⟩
      | some next =>
          obtain ⟨stillOver, silent⟩ := Session.isOver_of_step ended stepped
          rw [after_step_of_some stepped]
          exact ⟨stillOver, by simp [Streaming.stepped, silent]⟩
  | receive =>
      obtain ⟨queue, received, afterEq⟩ := streaming.after_receive_cases
      rw [afterEq]
      exact ⟨ended, rfl⟩
  | _ => exact ⟨ended, rfl⟩

/-- At the end of a run, too, nothing has been added to what was made by then. -/
theorem isOver_run
    (ended : streaming.session.phase.isOver = true)
    (events : List StreamEvent) :
    (streaming.run events).session.phase.isOver = true ∧
      (streaming.run events).made = streaming.made := by
  induction events generalizing streaming with
  | nil => exact ⟨ended, rfl⟩
  | cons event rest inductionHypothesis =>
      obtain ⟨stillOver, sameMade⟩ := isOver_after ended event
      obtain ⟨overAtEnd, madeEq⟩ := inductionHypothesis stillOver
      exact ⟨overAtEnd, madeEq.trans sameMade⟩

/-- A session that is about to tell of a fault was so before, or has just met it. -/
theorem failing_after
    {event : StreamEvent}
    {fault : Fault}
    (failing : (streaming.after event).session.phase = .failing fault) :
    (streaming.after event).made = streaming.made ∧
      (streaming.session.phase = .failing fault ∨
        event = .step ∧ streaming.session.Meets streaming.agent fault) := by
  cases event with
  | step =>
      cases stepped :
          streaming.session.step? streaming.agent streaming.now with
      | none =>
          rw [after_step_of_none stepped] at failing ⊢
          exact ⟨rfl, .inl failing⟩
      | some next =>
          rw [after_step_of_some stepped] at failing ⊢
          have silent : next.blocked = [] :=
            Session.blocked_of_ne fun frame sending =>
              nomatch failing.symm.trans sending
          exact
            ⟨by simp [Streaming.stepped, silent],
              .inr ⟨rfl, Session.meets_of_step stepped failing⟩⟩
  | receive =>
      obtain ⟨queue, received, afterEq⟩ := streaming.after_receive_cases
      rw [afterEq] at failing ⊢
      exact ⟨rfl, .inl failing⟩
  | _ => exact ⟨rfl, .inl failing⟩

/-- A fault that a session is about to tell of was met in a step, and no frame was made since. -/
theorem exists_meeting
    {fault : Fault}
    (notYet : streaming.session.phase ≠ .failing fault)
    {events : List StreamEvent}
    (failing : (streaming.run events).session.phase = .failing fault) :
    ∃ before after,
      events = before ++ .step :: after ∧
        (streaming.run before).session.Meets (streaming.run before).agent
          fault ∧
        (streaming.run before).made = (streaming.run events).made := by
  obtain ⟨before, event, after, eventsEq, notBefore, nowFailing, madeNow⟩ :=
    exists_turn
      (fun other : Streaming =>
        other.session.phase = .failing fault ∧
          other.made = (streaming.run events).made)
      (fun held => notYet held.1) ⟨failing, rfl⟩
  obtain ⟨madeEq, alreadyFailing | ⟨rfl, meets⟩⟩ := failing_after nowFailing
  · exact absurd ⟨alreadyFailing, madeEq.symm.trans madeNow⟩ notBefore
  · exact ⟨before, after, eventsEq, meets, madeEq.symm.trans madeNow⟩

end Streaming

end MTConnect
