import MTConnect.Proofs.Stream.Emission

namespace MTConnect

/-!
# How long a stream is silent

A session that nobody stops and that always finds room waits in two places
only. Waiting for something new it sends a heartbeat in time. Waiting for the
interval to pass it sends nothing, so it is silent for as long as the longer
one of the two lasts, and the heartbeat bounds the silence only if the interval
does not exceed it.
-/

/-- The longest time for which a session waits by itself. -/
def StreamOptions.longestWait (options : StreamOptions) : Nat :=
  max options.interval options.heartbeat

namespace Streaming

/-- The session waits, or has ended. -/
def Rests (streaming : Streaming) : Prop :=
  streaming.session.step? streaming.agent streaming.now = none

/--
What can happen to a stream that is left to itself: nobody stops it, the
instance stays, and once it has begun time passes only while the session waits,
and not beyond the moment at which it goes on by itself.
-/
def Spares (streaming : Streaming) : StreamEvent → Prop
  | .command command => command ≠ .reset
  | .enter command => command ≠ .reset
  | .announce => True
  | .pass millis =>
      streaming.session.phase = .starting ∨
        streaming.Rests ∧
          ∀ deadline,
            streaming.session.deadline? = some deadline →
            streaming.now + millis ≤ deadline
  | .step => True
  | .receive => True
  | .stop => False
  | .disconnect => False

/-- In the course of some events the stream is left to itself and its queue always has room. -/
def Undisturbed (streaming : Streaming) : List StreamEvent → Prop
  | [] => streaming.session.hasRoom = true
  | event :: rest =>
      streaming.session.hasRoom = true ∧
        streaming.Spares event ∧
        (streaming.after event).Undisturbed rest

/-- A session that goes on has not been silent for longer than a limit. -/
def IsHeard (streaming : Streaming) (limit : Nat) : Prop :=
  streaming.session.phase ≠ .stopped →
  streaming.now ≤ streaming.session.lastEmit + limit

/-- The silence since a time is not longer than a limit, and no wait makes it so. -/
structure HeardWithin (streaming : Streaming) (limit heard : Nat) : Prop where
  now_le : streaming.now ≤ heard + limit
  deadline_le :
    streaming.Rests →
    ∃ deadline,
      streaming.session.deadline? = some deadline ∧ deadline ≤ heard + limit

/-- No stream with an interval and a heartbeat is silent for longer than a limit. -/
def NeverSilentBeyond (interval heartbeat limit : Nat) : Prop :=
  ∀ (plan : AgentPlan)
    (begun : Timestamp)
    (options : StreamOptions)
    (events : List StreamEvent),
    options.interval = interval →
    options.heartbeat = heartbeat →
    (opened plan begun options).Undisturbed events →
    ((opened plan begun options).run events).session.phase ≠ .starting →
    ((opened plan begun options).run events).session.phase ≠ .stopped →
    ((opened plan begun options).run events).HeardWithin limit
      (Emission.lastHeard
        ((opened plan begun options).beganAt events)
        ((opened plan begun options).emissions events))

variable
  {streaming : Streaming}
  {options : StreamOptions}
  {began : Nat}
  {past : List Emission}
  {limit : Nat}

namespace Undisturbed

/-- There is room at the beginning. -/
theorem hasRoom
    {events : List StreamEvent}
    (undisturbed : streaming.Undisturbed events) :
    streaming.session.hasRoom = true := by
  cases events with
  | nil => exact undisturbed
  | cons event rest => exact undisturbed.1

/-- What is left to itself in a whole run is so in its second part. -/
theorem of_append
    {earlier later : List StreamEvent}
    (undisturbed : streaming.Undisturbed (earlier ++ later)) :
    (streaming.run earlier).Undisturbed later := by
  induction earlier generalizing streaming with
  | nil => exact undisturbed
  | cons event rest inductionHypothesis =>
      exact inductionHypothesis undisturbed.2.2

/-- What is left to itself in both parts of a run is so in the whole. -/
theorem append
    {earlier later : List StreamEvent}
    (undisturbed : streaming.Undisturbed earlier)
    (goesOn : (streaming.run earlier).Undisturbed later) :
    streaming.Undisturbed (earlier ++ later) := by
  induction earlier generalizing streaming with
  | nil => exact goesOn
  | cons event rest inductionHypothesis =>
      exact
        ⟨undisturbed.1, undisturbed.2.1,
          inductionHypothesis undisturbed.2.2 goesOn⟩

end Undisturbed

/-!
## While a stream is left to itself
-/

namespace Keeps

/-- A session that has begun and that finds room waits for one of its two times only. -/
theorem deadline_of_rests
    (keeps : streaming.Keeps options began past)
    (hasRoom : streaming.session.hasRoom = true)
    (rests : streaming.Rests)
    (goesOn : streaming.session.phase ≠ .stopped) :
    ∃ deadline,
      streaming.session.deadline? = some deadline ∧
        deadline ≤ streaming.session.lastEmit + options.longestWait := by
  have due := keeps.remembers.due
  have begun := keeps.begun
  rw [Rests, Session.step?] at rests
  rw [Session.deadline?]
  cases phase : streaming.session.phase with
  | starting => simp [phase, SessionPhase.isOpening] at begun
  | identifying => simp [phase, SessionPhase.isOpening] at begun
  | validating => simp [phase, SessionPhase.isOpening] at begun
  | placing => simp [phase, SessionPhase.isOpening] at begun
  | pacing deadline =>
      rw [phase] at due
      obtain ⟨sent, isSent, deadlineEq⟩ :=
        Session.sent_of_pacingDeadline due
      refine ⟨deadline, rfl, ?_⟩
      rw [deadlineEq, ← keeps.options_eq]
      exact
        Nat.add_le_add (keeps.remembers.lastData_le sent isSent)
          (Nat.le_max_left _ _)
  | sending frame =>
      simp only [phase, hasRoom, if_true] at rests
      split at rests <;> cases rests
  | polling =>
      simp only [phase] at rests
      split at rests <;> cases rests
  | waiting =>
      refine ⟨streaming.session.heartbeatDeadline, rfl, ?_⟩
      rw [Session.heartbeatDeadline, ← keeps.options_eq]
      exact Nat.add_le_add_left (Nat.le_max_right _ _) _
  | stopped => exact absurd phase goesOn
  | _ => simp only [phase, reduceCtorEq] at rests

/-- As long as nothing disturbs it, a session that goes on has not been silent for too long. -/
theorem isHeard_after
    (keeps : streaming.Keeps options began past)
    (hasRoom : streaming.session.hasRoom = true)
    {event : StreamEvent}
    (spares : streaming.Spares event)
    (isHeard : streaming.IsHeard options.longestWait) :
    (streaming.after event).IsHeard options.longestWait := by
  cases event with
  | command command => exact isHeard
  | enter command => exact isHeard
  | announce => exact isHeard
  | pass millis =>
      intro goesOn
      rcases spares with starting | ⟨rests, inTime⟩
      · have begun := keeps.begun
        rw [starting] at begun
        cases begun
      · obtain ⟨deadline, isDeadline, notAfter⟩ :=
          keeps.deadline_of_rests hasRoom rests goesOn
        exact Nat.le_trans (inTime deadline isDeadline) notAfter
  | step =>
      cases stepped :
          streaming.session.step? streaming.agent streaming.now with
      | none =>
          rw [after_step_of_none stepped]
          exact isHeard
      | some next =>
          rw [after_step_of_some stepped]
          cases keeps.moves stepped with
          | still still begun due =>
              intro _
              rw [Streaming.stepped, still.lastEmit_eq]
              exact isHeard (Session.phase_ne_of_step stepped)
          | emits frame sending nextEq =>
              subst nextEq
              intro goesOn
              cases frame with
              | data document => exact Nat.le_add_right _ _
              | heartbeat header endSequence => exact Nat.le_add_right _ _
              | failure document => exact absurd rfl goesOn
  | receive =>
      cases popped : streaming.session.queue.pop? with
      | none =>
          rw [after_receive_of_none popped]
          exact isHeard
      | some taken =>
          rw [after_receive_of_some popped]
          exact isHeard
  | stop => exact spares.elim
  | disconnect => exact spares.elim

/-- In a whole run that nothing disturbs the session is never silent for too long. -/
theorem isHeard_run
    (keeps : streaming.Keeps options began past)
    {events : List StreamEvent}
    (undisturbed : streaming.Undisturbed events)
    (isHeard : streaming.IsHeard options.longestWait) :
    (streaming.run events).IsHeard options.longestWait := by
  induction events generalizing streaming past with
  | nil => exact isHeard
  | cons event rest inductionHypothesis =>
      exact
        inductionHypothesis (keeps.after event) undisturbed.2.2
          (keeps.isHeard_after undisturbed.hasRoom undisturbed.2.1 isHeard)

end Keeps

/-- There is room at the end. -/
theorem Undisturbed.hasRoom_run
    {events : List StreamEvent}
    (undisturbed : streaming.Undisturbed events) :
    (streaming.run events).session.hasRoom = true := by
  have atEnd : (streaming.run events).Undisturbed [] := by
    apply of_append
    rw [List.append_nil]
    exact undisturbed
  exact atEnd

/-! ## Before a session has begun, and after it was refused -/

/-- A session that does not wait has just been heard. -/
theorem HeardWithin.of_moving
    (moving : ¬streaming.Rests)
    (limit : Nat) :
    streaming.HeardWithin limit streaming.now where
  now_le := Nat.le_add_right _ _
  deadline_le := fun rests => absurd rests moving

/-- A session waits for nothing before it has found its starting point. -/
theorem Opening.moving (opening : streaming.Opening options) :
    ¬streaming.Rests := by
  have isOpening := opening.opening
  rw [Rests, Session.step?]
  cases phase : streaming.session.phase with
  | starting => simp only [reduceCtorEq, not_false_eq_true]
  | identifying => simp only [reduceCtorEq, not_false_eq_true]
  | validating => simp only [reduceCtorEq, not_false_eq_true]
  | placing => simp only [reduceCtorEq, not_false_eq_true]
  | _ => simp [phase, SessionPhase.isOpening] at isOpening

/-- The session is about to make an error, or to hand it over. -/
def Complains (streaming : Streaming) : Prop :=
  (∃ fault, streaming.session.phase = .failing fault) ∨
    ∃ document, streaming.session.phase = .sending (.failure document)

/-- With room for its error a session waits for nothing either. -/
theorem Complains.moving
    (complains : streaming.Complains)
    (hasRoom : streaming.session.hasRoom = true) :
    ¬streaming.Rests := by
  rw [Rests, Session.step?]
  rcases complains with ⟨fault, failing⟩ | ⟨document, sending⟩
  · simp only [failing, reduceCtorEq, not_false_eq_true]
  · simp only [sending, hasRoom, if_true]
    split <;> exact Option.some_ne_none _

/-- A session that complains goes on to do so, and no time passes, unless it ends. -/
theorem Complains.after
    (complains : streaming.Complains)
    (hasRoom : streaming.session.hasRoom = true)
    {event : StreamEvent}
    (spares : streaming.Spares event) :
    (streaming.after event).session.phase = .stopped ∨
      (streaming.after event).Complains ∧
        (streaming.after event).now = streaming.now ∧
        streaming.handedOver event = [] := by
  cases event with
  | command command => exact .inr ⟨complains, rfl, rfl⟩
  | enter command => exact .inr ⟨complains, rfl, rfl⟩
  | announce => exact .inr ⟨complains, rfl, rfl⟩
  | pass millis =>
      rcases spares with starting | ⟨rests, _⟩
      · rcases complains with ⟨fault, failing⟩ | ⟨document, sending⟩
        · cases starting.symm.trans failing
        · cases starting.symm.trans sending
      · exact absurd rests (complains.moving hasRoom)
  | step =>
      rcases complains with ⟨fault, failing⟩ | ⟨document, sending⟩
      · have stepped :
            streaming.session.step? streaming.agent streaming.now =
              some (streaming.session.report streaming.agent fault) := by
          rw [Session.step?, failing]
        rw [handedOver_of_still stepped rfl, after_step_of_some stepped]
        exact .inr ⟨.inr ⟨_, rfl⟩, rfl, rfl⟩
      · -- It is handed over, or dropped because it is not wanted.
        left
        cases stepped :
            streaming.session.step? streaming.agent streaming.now with
        | none =>
            exact
              absurd stepped
                (Complains.moving (.inr ⟨document, sending⟩) hasRoom)
        | some next =>
            rw [after_step_of_some stepped]
            simp only [Session.step?, sending, hasRoom, if_true] at stepped
            split at stepped <;> exact Option.some.inj stepped ▸ rfl
  | receive =>
      obtain ⟨queue, received, afterEq⟩ := streaming.after_receive_cases
      rw [afterEq]
      exact .inr ⟨complains, rfl, rfl⟩
  | stop => exact spares.elim
  | disconnect => exact spares.elim

/-- A session that has ended stays so. -/
theorem stopped_run
    (stopped : streaming.session.phase = .stopped)
    (events : List StreamEvent) :
    (streaming.run events).session.phase = .stopped := by
  induction events generalizing streaming with
  | nil => exact stopped
  | cons event rest inductionHypothesis =>
      have stillStopped : (streaming.after event).session.phase = .stopped := by
        cases event with
        | step =>
            rw [after_step_of_none (by rw [Session.step?, stopped])]
            exact stopped
        | receive =>
            obtain ⟨queue, received, afterEq⟩ := streaming.after_receive_cases
            rw [afterEq]
            exact stopped
        | _ => exact stopped
      exact inductionHypothesis stillStopped

/-- As long as a session complains that is left to itself, no time passes. -/
theorem Complains.run
    (complains : streaming.Complains)
    {events : List StreamEvent}
    (undisturbed : streaming.Undisturbed events)
    (goesOn : (streaming.run events).session.phase ≠ .stopped) :
    (streaming.run events).Complains ∧
      (streaming.run events).now = streaming.now ∧
      streaming.emissions events = [] := by
  induction events generalizing streaming with
  | nil => exact ⟨complains, rfl, rfl⟩
  | cons event rest inductionHypothesis =>
      rcases complains.after undisturbed.hasRoom undisturbed.2.1 with
        stopped | ⟨stillComplains, nowEq, nothing⟩
      · exact absurd (stopped_run stopped rest) goesOn
      · obtain ⟨complainsOn, nowOn, nothingOn⟩ :=
          inductionHypothesis stillComplains undisturbed.2.2 goesOn
        refine ⟨complainsOn, nowOn.trans nowEq, ?_⟩
        rw [emissions, nothing, nothingOn]
        rfl

/-! ## The longest silence -/

section Beside

variable {before after : List StreamEvent}

/-- A session that has found its starting point is never silent for longer than its longest wait. -/
theorem Opening.heardWithin_of_started
    (opening : streaming.Opening options)
    (stillOpening : (streaming.run before).Opening options)
    {start : StreamStart}
    (starts : (streaming.run before).Starts start)
    (undisturbed : streaming.Undisturbed (before ++ .step :: after))
    (goesOn :
      (streaming.run (before ++ .step :: after)).session.phase ≠ .stopped) :
    (streaming.run (before ++ .step :: after)).HeardWithin options.longestWait
      (Emission.lastHeard
        (streaming.beganAt (before ++ .step :: after))
        (streaming.emissions (before ++ .step :: after))) := by
  have keeps := opening.keeps_of_started stillOpening starts after
  have undisturbedNow := undisturbed.of_append
  rw [← keeps.lastEmit_eq goesOn]
  refine { now_le := ?_, deadline_le := ?_ }
  · obtain ⟨_, startsToKeep⟩ := stillOpening.keeps_of_starts starts
    have heard := startsToKeep.isHeard_run undisturbedNow.2.2
    rw [run_append] at goesOn ⊢
    refine heard (fun _ => ?_) goesOn
    rw [(stillOpening.after_starts starts).1]
    exact Nat.le_add_right _ _
  · intro rests
    exact keeps.deadline_of_rests undisturbed.hasRoom_run rests goesOn

/-- A session that has refused its options ends before any time passes. -/
theorem Opening.heardWithin_of_refused
    (opening : streaming.Opening options)
    (stillOpening : (streaming.run before).Opening options)
    {fault : Fault}
    (refuses :
      (streaming.run before).session.Refuses (streaming.run before).agent
        fault)
    (undisturbed : streaming.Undisturbed (before ++ .step :: after))
    (goesOn :
      (streaming.run (before ++ .step :: after)).session.phase ≠ .stopped)
    (limit : Nat) :
    (streaming.run (before ++ .step :: after)).HeardWithin limit
      (Emission.lastHeard
        (streaming.beganAt (before ++ .step :: after))
        (streaming.emissions (before ++ .step :: after))) := by
  have hasRoom := undisturbed.hasRoom_run
  have undisturbedNow := undisturbed.of_append
  obtain ⟨stepEq, sound⟩ := stillOpening.after_refuses refuses
  have complains : ((streaming.run before).after .step).Complains := by
    rw [stepEq]
    exact .inl ⟨fault, rfl⟩
  have nothing : (streaming.run before).handedOver .step = [] := by
    rw [handedOver, stepEq, Streaming.stepped, Session.fail, List.drop_length]
    rfl
  rw [run_append] at goesOn
  obtain ⟨stillComplains, nowEq, nothingLater⟩ :=
    complains.run undisturbedNow.2.2 goesOn
  rw [beganAt_of_turn stillOpening.opening sound.runs.begun, emissions_append,
    opening.emissions_nil stillOpening, emissions, nothing, nothingLater]
  rw [run_append] at hasRoom ⊢
  have heard := HeardWithin.of_moving (stillComplains.moving hasRoom) limit
  have sameTime :
      ((streaming.run before).after .step).now =
        (streaming.run before).now := by
    rw [stepEq]
    rfl
  rw [nowEq, sameTime] at heard
  exact heard

/-- A session that waits has found its starting point. -/
theorem Opening.keeps_of_rests
    (opening : streaming.Opening options)
    {events : List StreamEvent}
    (undisturbed : streaming.Undisturbed events)
    (rests : (streaming.run events).Rests)
    (goesOn : (streaming.run events).session.phase ≠ .stopped) :
    (streaming.run events).Keeps options
      (streaming.beganAt events)
      (streaming.emissions events) := by
  cases opening.course events with
  | opening stillOpening => exact absurd rests stillOpening.moving
  | started start before after eventsEq stillOpening starts =>
      subst eventsEq
      exact opening.keeps_of_started stillOpening starts after
  | refused fault before after eventsEq stillOpening refuses =>
      subst eventsEq
      have hasRoom := undisturbed.hasRoom_run
      have undisturbedNow := undisturbed.of_append
      have complains : ((streaming.run before).after .step).Complains := by
        rw [(stillOpening.after_refuses refuses).1]
        exact .inl ⟨fault, rfl⟩
      rw [run_append] at goesOn rests hasRoom
      have stillComplains := (complains.run undisturbedNow.2.2 goesOn).1
      exact absurd rests (stillComplains.moving hasRoom)

end Beside

/-- A greater limit is a limit, too. -/
theorem HeardWithin.mono
    {lower heard : Nat}
    (within : streaming.HeardWithin lower heard)
    (le : lower ≤ limit) :
    streaming.HeardWithin limit heard where
  now_le := Nat.le_trans within.now_le (Nat.add_le_add_left le _)
  deadline_le := fun rests =>
    have ⟨deadline, isDeadline, notAfter⟩ := within.deadline_le rests
    ⟨deadline, isDeadline, Nat.le_trans notAfter (Nat.add_le_add_left le _)⟩

/-- No silence is longer than the longest wait. -/
theorem neverSilentBeyond_of_le
    {interval heartbeat : Nat}
    (within : max interval heartbeat ≤ limit) :
    NeverSilentBeyond interval heartbeat limit := by
  rintro plan begun options events rfl rfl undisturbed _ goesOn
  have opening : (opened plan begun options).Opening options :=
    .beside (Chronicle.sound_start plan begun) options
  cases opening.course events with
  | opening stillOpening =>
      have beganEq :
          (opened plan begun options).beganAt (events ++ []) =
            ((opened plan begun options).run events).now :=
        beganAt_append stillOpening.opening []
      rw [List.append_nil] at beganEq
      rw [beganEq, opening.emissions_nil stillOpening]
      exact .of_moving stillOpening.moving limit
  | started start before after eventsEq stillOpening starts =>
      subst eventsEq
      exact
        (opening.heardWithin_of_started stillOpening starts undisturbed
          goesOn).mono within
  | refused fault before after eventsEq stillOpening refuses =>
      subst eventsEq
      exact
        opening.heardWithin_of_refused stillOpening refuses undisturbed goesOn
          limit

/-!
## Waits that are as long as they can be
-/

/-- Time may pass up to the moment at which the session goes on by itself. -/
theorem Undisturbed.pass
    {events : List StreamEvent}
    (undisturbed : streaming.Undisturbed events)
    (rests : (streaming.run events).Rests)
    {deadline : Nat}
    (isDeadline :
      (streaming.run events).session.deadline? = some deadline)
    {millis : Nat}
    (inTime : (streaming.run events).now + millis ≤ deadline) :
    streaming.Undisturbed (events ++ [.pass millis]) := by
  apply undisturbed.append
  refine ⟨undisturbed.hasRoom_run, .inr ⟨rests, ?_⟩, undisturbed.hasRoom_run⟩
  intro other isOther
  obtain rfl := Option.some.inj (isDeadline.symm.trans isOther)
  exact inTime

/-- After some events a stream waits by itself for a span of time since it was heard last. -/
structure WaitsFor
    (streaming : Streaming)
    (events : List StreamEvent)
    (span : Nat) : Prop where
  undisturbed : streaming.Undisturbed events
  goesOn : (streaming.run events).session.phase ≠ .stopped
  rests : (streaming.run events).Rests
  now_eq :
    (streaming.run events).now = (streaming.run events).session.lastEmit
  deadline_eq :
    (streaming.run events).session.deadline? =
      some ((streaming.run events).session.lastEmit + span)

/-- A limit to every silence is not exceeded by any wait. -/
theorem NeverSilentBeyond.span_le
    {interval heartbeat span : Nat}
    (bounded : NeverSilentBeyond interval heartbeat limit)
    {plan : AgentPlan}
    {moment : Timestamp}
    {events : List StreamEvent}
    (intervalEq : options.interval = interval)
    (heartbeatEq : options.heartbeat = heartbeat)
    (waits : (opened plan moment options).WaitsFor events span) :
    span ≤ limit := by
  have opening : (opened plan moment options).Opening options :=
    .beside (Chronicle.sound_start plan moment) options
  have keeps :=
    opening.keeps_of_rests waits.undisturbed waits.rests waits.goesOn
  have passed :
      (opened plan moment options).run (events ++ [.pass span]) =
        ((opened plan moment options).run events).after (.pass span) :=
    run_append _ _ _
  have undisturbed :
      (opened plan moment options).Undisturbed (events ++ [.pass span]) := by
    apply waits.undisturbed.pass waits.rests waits.deadline_eq
    exact Nat.add_le_add_right (Nat.le_of_eq waits.now_eq) span
  have stillBegun :
      ((opened plan moment options).run
        (events ++ [.pass span])).session.phase ≠ .starting := by
    rw [passed]
    intro starting
    have begun := keeps.begun
    simp only [Streaming.after] at starting
    rw [starting] at begun
    cases begun
  have stillGoesOn :
      ((opened plan moment options).run
        (events ++ [.pass span])).session.phase ≠ .stopped := by
    rw [passed]
    exact waits.goesOn
  have heard :=
    bounded plan moment options (events ++ [.pass span]) intervalEq heartbeatEq
      undisturbed stillBegun stillGoesOn
  have nothingElse :
      ((opened plan moment options).run events).emissions [.pass span] = [] :=
    rfl
  rw [beganAt_append_of_begun keeps.begun, emissions_append, nothingElse,
    List.append_nil, ← keeps.lastEmit_eq waits.goesOn, passed] at heard
  have now_le :
      ((opened plan moment options).run events).now + span ≤
        ((opened plan moment options).run events).session.lastEmit + limit :=
    heard.now_le
  rw [waits.now_eq] at now_le
  exact Nat.le_of_add_le_add_left now_le

/-- What happens first is followed by the wait. -/
theorem WaitsFor.cons
    {event : StreamEvent}
    {rest : List StreamEvent}
    {span : Nat}
    (hasRoom : streaming.session.hasRoom = true)
    (spares : streaming.Spares event)
    (waits : (streaming.after event).WaitsFor rest span) :
    streaming.WaitsFor (event :: rest) span where
  undisturbed := ⟨hasRoom, spares, waits.undisturbed⟩
  goesOn := waits.goesOn
  rests := waits.rests
  now_eq := waits.now_eq
  deadline_eq := waits.deadline_eq

/-- A step of the session is followed by the wait. -/
theorem WaitsFor.step
    {next : Session}
    {rest : List StreamEvent}
    {span : Nat}
    (hasRoom : streaming.session.hasRoom = true)
    (stepped :
      streaming.session.step? streaming.agent streaming.now = some next)
    (waits : (streaming.stepped next).WaitsFor rest span) :
    streaming.WaitsFor (.step :: rest) span := by
  have spares : streaming.Spares .step := trivial
  apply WaitsFor.cons hasRoom spares
  rw [after_step_of_some stepped]
  exact waits

section Waits

variable
  {chronicle : Chronicle}
  {start : StreamStart}
  {page : Page}
  {rest : List StreamEvent}
  {span : Nat}

/-- A session that has found its starting point, and has not moved on from there. -/
def placed
    (chronicle : Chronicle)
    (options : StreamOptions)
    (start : StreamStart)
    (phase : SessionPhase)
    (status : SessionStatus) :
    Streaming where
  chronicle := chronicle
  session :=
    { options := options
      phase := phase
      status := status
      instanceId := chronicle.agent.instanceId
      filter := start.filter
      count := start.count
      cursor := start.cursor
      seenAppends := chronicle.agent.log.appended.revision
      seenInstance := chronicle.agent.identity.id.revision }

/-- The first four steps lead up to the first reading. -/
theorem WaitsFor.of_placed
    (hasRoom : (Session.fresh options).hasRoom = true)
    (allowed :
      chronicle.agent.checkedTerms options = .ok start.toStreamTerms)
    (found : chronicle.agent.streamCursor options.start = .ok start.cursor)
    (waits :
      (placed chronicle options start .turning .init).WaitsFor rest span) :
    (beside chronicle options).WaitsFor
      (.step :: .step :: .step :: .step :: rest) span := by
  refine .step hasRoom rfl (.step hasRoom rfl ?_)
  refine .step hasRoom (Session.accept_of_allowed rfl allowed _) ?_
  exact .step hasRoom (Session.place_of_found rfl found _) waits

/-- The log is read in four more steps. -/
theorem WaitsFor.of_read
    (hasRoom : (Session.fresh options).hasRoom = true)
    (found :
      chronicle.agent.log.range start.cursor none start.count start.filter =
        .ok page)
    (waits :
      (placed chronicle options start (.heading page) .streaming).WaitsFor rest
        span) :
    (placed chronicle options start .turning .init).WaitsFor
      (.step :: .step :: .step :: .step :: rest) span := by
  refine .step hasRoom (Session.turn_of_none rfl rfl _) ?_
  refine .step hasRoom (Session.confirm_of_current rfl rfl _) ?_
  refine .step hasRoom rfl ?_
  exact .step hasRoom (Session.read_of_found rfl found _) waits

/-- A stream with nothing to send waits for its heartbeat. -/
theorem waitsFor_heartbeat
    (start : StreamStart)
    (hasRoom : (Session.fresh options).hasRoom = true)
    (allowed :
      chronicle.agent.checkedTerms options = .ok start.toStreamTerms)
    (placed : chronicle.agent.streamCursor options.start = .ok start.cursor)
    (found :
      chronicle.agent.log.range start.cursor none start.count start.filter =
        .ok page)
    (nothing : page.observations = [])
    (beats : 0 < options.heartbeat) :
    (beside chronicle options).WaitsFor (List.replicate 11 .step)
      options.heartbeat := by
  have notDue := Nat.lt_add_of_pos_right (n := 0) beats
  refine .of_placed hasRoom allowed placed (.of_read hasRoom found ?_)
  refine .step hasRoom (Session.drain_of_nothing rfl nothing _) ?_
  refine .step hasRoom (Session.pass_of_seen rfl rfl rfl _) ?_
  refine .step hasRoom (Session.heed_of_seen rfl rfl notDue) ?_
  exact
    { undisturbed := hasRoom
      goesOn := nofun
      rests := Session.rest_of_seen rfl rfl rfl rfl notDue
      now_eq := rfl
      deadline_eq := rfl }

/-- A stream that has sent observations waits for the interval, and sends nothing meanwhile. -/
theorem waitsFor_interval
    (start : StreamStart)
    (hasRoom : (Session.fresh options).hasRoom = true)
    (holdsTwo : 1 < raisedCapacity options.capacity)
    (allowed :
      chronicle.agent.checkedTerms options = .ok start.toStreamTerms)
    (placed : chronicle.agent.streamCursor options.start = .ok start.cursor)
    (found :
      chronicle.agent.log.range start.cursor none start.count start.filter =
        .ok page)
    (something : page.observations ≠ [])
    (paces : 0 < options.interval) :
    (beside chronicle options).WaitsFor (List.replicate 11 .step)
      options.interval := by
  have stillRoom := decide_eq_true holdsTwo
  refine .of_placed hasRoom allowed placed (.of_read hasRoom found ?_)
  refine .step hasRoom (Session.send_of_something rfl something _) ?_
  refine .step hasRoom (Session.emit_of_sending rfl rfl (by exact hasRoom) _) ?_
  refine .step stillRoom (Session.turn_of_some rfl rfl (by exact paces) _) ?_
  exact
    { undisturbed := stillRoom
      goesOn := nofun
      rests :=
        Session.pause_of_pacing rfl rfl (Nat.lt_add_of_pos_right paces)
      now_eq := rfl
      deadline_eq := rfl }

end Waits

section OneItem

variable (interval heartbeat : Nat)

theorem oneItem_waitsFor_heartbeat (beats : 0 < heartbeat) :
    (opened .oneItem ⟨0⟩
      { interval := interval, heartbeat := heartbeat }).WaitsFor
        (List.replicate 11 .step) heartbeat :=
  waitsFor_heartbeat { filter := .all, count := 100, cursor := 1 }
    rfl rfl rfl rfl rfl beats

/-- After its first frame a paced stream waits for the interval. -/
theorem oneItem_waitsFor_interval (paces : 0 < interval) :
    (opened .oneItem ⟨0⟩
      { interval := interval, heartbeat := heartbeat }).WaitsFor
        (.command (AgentPlan.oneItemValue "1") :: List.replicate 11 .step)
        interval := by
  have noReset : AgentPlan.oneItemValue "1" ≠ .reset := by decide
  have holdsTwo : 1 < raisedCapacity 16 := by decide
  refine .cons rfl noReset ?_
  exact
    waitsFor_interval { filter := .all, count := 100, cursor := 1 }
      rfl holdsTwo rfl rfl rfl nofun paces

end OneItem

/--
A stream is never silent for longer than the longer one of its interval and its
heartbeat, and that is as much as can be said: the heartbeat alone is a limit
only if the interval does not exceed it.
-/
theorem silence_bounded_iff (interval heartbeat limit : Nat) :
    NeverSilentBeyond interval heartbeat limit ↔
      max interval heartbeat ≤ limit := by
  constructor
  · intro bounded
    apply Nat.max_le.mpr
    constructor
    · rcases Nat.eq_zero_or_pos interval with noInterval | paces
      · exact noInterval ▸ Nat.zero_le limit
      · have waits := oneItem_waitsFor_interval interval heartbeat paces
        exact bounded.span_le rfl rfl waits
    · rcases Nat.eq_zero_or_pos heartbeat with noHeartbeat | beats
      · exact noHeartbeat ▸ Nat.zero_le limit
      · have waits := oneItem_waitsFor_heartbeat interval heartbeat beats
        exact bounded.span_le rfl rfl waits
  · exact neverSilentBeyond_of_le

/-- A value is logged and sent, and then two seconds pass. -/
def twoSecondsAfterValue : List StreamEvent :=
  .command (AgentPlan.oneItemValue "1") ::
    List.replicate 11 .step ++ [.pass 2000]

/-- With an interval of three seconds a heartbeat of one second does not come in time. -/
theorem silent_while_pacing :
    (opened .oneItem ⟨0⟩ { interval := 3000, heartbeat := 1000 }).Undisturbed
        twoSecondsAfterValue ∧
      ((opened .oneItem ⟨0⟩ { interval := 3000, heartbeat := 1000 }).run
          twoSecondsAfterValue).session.phase = .pacing 3000 ∧
      ¬((opened .oneItem ⟨0⟩ { interval := 3000, heartbeat := 1000 }).run
          twoSecondsAfterValue).HeardWithin 1000
          (Emission.lastHeard
            ((opened .oneItem ⟨0⟩
              { interval := 3000, heartbeat := 1000 }).beganAt
                twoSecondsAfterValue)
            ((opened .oneItem ⟨0⟩
              { interval := 3000, heartbeat := 1000 }).emissions
                twoSecondsAfterValue)) := by
  have waits := oneItem_waitsFor_interval 3000 1000 (by decide)
  refine ⟨?_, rfl, ?_⟩
  · exact waits.undisturbed.pass waits.rests waits.deadline_eq (by decide)
  · intro heard
    exact absurd heard.now_le (by decide)

end Streaming

end MTConnect
