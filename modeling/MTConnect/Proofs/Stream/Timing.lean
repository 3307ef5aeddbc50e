import MTConnect.Proofs.Stream.Ending

namespace MTConnect

/-!
# The times that a session remembers

Of the times at which it has put frames into its queue a session remembers two:
that of the last frame, and that of the last frame with observations. It takes
no step towards the next frame before enough time has passed since then.
-/

namespace Session

/-- The interval since the last frame with observations is over. -/
def IsPaced (session : Session) (now : Nat) : Prop :=
  ∀ deadline, session.pacingDeadline? = some deadline → deadline ≤ now

/-- What is over at a time when a session is in a phase. -/
def IsDue (session : Session) (now : Nat) : SessionPhase → Prop
  | .pacing deadline => session.pacingDeadline? = some deadline
  | .checking => session.IsPaced now
  | .marking => session.IsPaced now
  | .reading => session.IsPaced now
  | .heading _ => session.IsPaced now
  | .sending (.data _) => session.IsPaced now
  | .beating => session.heartbeatDeadline ≤ now
  | .sending (.heartbeat _ _) => session.heartbeatDeadline ≤ now
  | _ => True

/-- Two sessions that remember the same times and hold the same frames. -/
structure Still (session next : Session) : Prop where
  options_eq : next.options = session.options
  queue_eq : next.queue = session.queue
  lastEmit_eq : next.lastEmit = session.lastEmit
  lastData_eq : next.lastData = session.lastData

/-- The times that a session remembers are past, and the later one is of the last frame. -/
structure Remembers (session : Session) (now : Nat) : Prop where
  lastEmit_le : session.lastEmit ≤ now
  lastData_le : ∀ time, session.lastData = some time → time ≤ session.lastEmit
  due : session.IsDue now session.phase

/-- What a session that has begun does in a step. -/
inductive Moves (session : Session) (now : Nat) (next : Session) : Prop where
  | still
      (still : session.Still next)
      (begun : next.phase.isOpening = false)
      (due : next.IsDue now next.phase)
  | emits
      (frame : Frame)
      (sending : session.phase = .sending frame)
      (next_eq : next = session.emit now frame)

variable {session next : Session} {agent : Agent} {now : Nat}

theorem IsPaced.pass
    (paced : session.IsPaced now)
    (millis : Nat) :
    session.IsPaced (now + millis) :=
  fun deadline isDeadline =>
    Nat.le_add_right_of_le (paced deadline isDeadline)

/-- What is due stays due. -/
theorem IsDue.pass
    {phase : SessionPhase}
    (due : session.IsDue now phase)
    (millis : Nat) :
    session.IsDue (now + millis) phase := by
  cases phase with
  | pacing deadline => exact due
  | checking => exact IsPaced.pass due millis
  | marking => exact IsPaced.pass due millis
  | reading => exact IsPaced.pass due millis
  | heading page => exact IsPaced.pass due millis
  | beating => exact Nat.le_add_right_of_le due
  | sending frame =>
      cases frame with
      | data document => exact IsPaced.pass due millis
      | heartbeat header endSequence => exact Nat.le_add_right_of_le due
      | failure document => trivial
  | _ => trivial

/-- A session that waits for the interval waits for as long as it lasts since the last data. -/
theorem sent_of_pacingDeadline
    {deadline : Nat}
    (isDeadline : session.pacingDeadline? = some deadline) :
    ∃ sent,
      session.lastData = some sent ∧
        deadline = sent + session.options.interval := by
  unfold pacingDeadline? at isDeadline
  split at isDeadline
  next => cases isDeadline
  next =>
    obtain ⟨sent, isSent, deadlineEq⟩ := Option.map_eq_some_iff.mp isDeadline
    exact ⟨sent, isSent, deadlineEq.symm⟩

theorem queue_emit (session : Session) (now : Nat) (frame : Frame) :
    (session.emit now frame).queue = session.queue.push frame := by
  cases frame <;> rfl

/-- A step of a session that has begun hands the frame over that it holds, or none. -/
theorem moves_of_step
    (begun : session.phase.isOpening = false)
    (due : session.IsDue now session.phase)
    (stepped : session.step? agent now = some next) :
    session.Moves now next := by
  cases takes_of_step stepped with
  | subscribes starting =>
      rw [starting] at begun
      cases begun
  | identifies identifying =>
      rw [identifying] at begun
      cases begun
  | accepts terms validating =>
      rw [validating] at begun
      cases begun
  | rejects fault validating =>
      rw [validating] at begun
      cases begun
  | places cursor placing =>
      rw [placing] at begun
      cases begun
  | misplaces fault placing =>
      rw [placing] at begun
      cases begun
  | hurries turning unpaced =>
      -- There is no interval to wait for.
      refine .still ⟨rfl, rfl, rfl, rfl⟩ rfl ?_
      intro deadline isDeadline
      exact nomatch unpaced.symm.trans isDeadline
  | pauses deadline turning paced =>
      exact .still ⟨rfl, rfl, rfl, rfl⟩ rfl paced
  | resumes deadline pacing elapsed =>
      rw [pacing] at due
      refine .still ⟨rfl, rfl, rfl, rfl⟩ rfl ?_
      intro other isDeadline
      obtain rfl := Option.some.inj (isDeadline.symm.trans due)
      exact elapsed
  | confirms checking current =>
      rw [checking] at due
      exact .still ⟨rfl, rfl, rfl, rfl⟩ rfl due
  | marks marking =>
      rw [marking] at due
      exact .still ⟨rfl, rfl, rfl, rfl⟩ rfl due
  | reads page reading found =>
      rw [reading] at due
      exact .still ⟨rfl, rfl, rfl, rfl⟩ rfl due
  | delivers page heading something =>
      rw [heading] at due
      exact .still ⟨rfl, rfl, rfl, rfl⟩ rfl due
  | tires heeding noNews isDue =>
      exact .still ⟨rfl, rfl, rfl, rfl⟩ rfl isDue
  | beats beating =>
      rw [beating] at due
      exact .still ⟨rfl, rfl, rfl, rfl⟩ rfl due
  | emits frame sending wanted hasRoom => exact .emits frame sending rfl
  | _ => exact .still ⟨rfl, rfl, rfl, rfl⟩ rfl trivial

/-- No step but the handing over of a frame changes the queue. -/
theorem queue_of_step
    (stepped : session.step? agent now = some next) :
    next.queue = session.queue ∨
      ∃ frame,
        session.phase = .sending frame ∧ next = session.emit now frame := by
  cases takes_of_step stepped with
  | emits frame sending wanted hasRoom => exact .inr ⟨frame, sending, rfl⟩
  | _ => exact .inl rfl

namespace Remembers

/-- While time passes nothing becomes undue. -/
theorem pass
    (remembers : session.Remembers now)
    (millis : Nat) :
    session.Remembers (now + millis) where
  lastEmit_le := Nat.le_add_right_of_le remembers.lastEmit_le
  lastData_le := remembers.lastData_le
  due := remembers.due.pass millis

/-- A session that has just found its starting point remembers that time. -/
theorem placed
    (nothingSent : session.lastData = none)
    (cursor : Nat) :
    Remembers
      { session with phase := .turning, cursor := cursor, lastEmit := now }
      now where
  lastEmit_le := Nat.le_refl _
  lastData_le := fun _ sent => nomatch nothingSent.symm.trans sent
  due := trivial

/-- When the interval is over, it has passed since the last frame with observations. -/
theorem interval_le
    (remembers : session.Remembers now)
    (paced : session.IsPaced now)
    {time : Nat}
    (sent : session.lastData = some time) :
    time + session.options.interval ≤ now := by
  by_cases noInterval : session.options.interval = 0
  · rw [noInterval]
    exact
      Nat.le_trans (remembers.lastData_le time sent) remembers.lastEmit_le
  · apply paced
    rw [pacingDeadline?, if_neg noInterval, sent, Option.map_some]

/-- A step that emits nothing keeps the times in order. -/
theorem still
    (remembers : session.Remembers now)
    (still : session.Still next)
    (due : next.IsDue now next.phase) :
    next.Remembers now where
  lastEmit_le := still.lastEmit_eq ▸ remembers.lastEmit_le
  lastData_le := by
    rw [still.lastEmit_eq, still.lastData_eq]
    exact remembers.lastData_le
  due := due

/-- A frame that is emitted now leaves the times in order. -/
theorem emit
    (remembers : session.Remembers now)
    (frame : Frame) :
    (session.emit now frame).Remembers now := by
  cases frame with
  | data document =>
      exact
        { lastEmit_le := Nat.le_refl _
          lastData_le := fun time isTime =>
            Nat.le_of_eq (Option.some.inj isTime).symm
          due := trivial }
  | heartbeat header endSequence =>
      exact
        { lastEmit_le := Nat.le_refl _
          lastData_le := fun time isTime =>
            Nat.le_trans (remembers.lastData_le time isTime)
              remembers.lastEmit_le
          due := trivial }
  | failure document =>
      exact
        { lastEmit_le := remembers.lastEmit_le
          lastData_le := remembers.lastData_le
          due := trivial }

end Remembers

/-! ## Steps that are certain -/

/-- Nothing has been sent that would have to be waited for. -/
theorem turn_of_none
    (turning : session.phase = .turning)
    (nothingSent : session.lastData = none)
    (now : Nat) :
    session.step? agent now =
      some { session with phase := .checking, status := .streaming } := by
  rw [step?, turning]
  simp only [turn, pacingDeadline?, nothingSent, Option.map_none, ite_self]

/-- Something has been sent, and the interval is to pass. -/
theorem turn_of_some
    (turning : session.phase = .turning)
    {time : Nat}
    (sent : session.lastData = some time)
    (paces : 0 < session.options.interval)
    (now : Nat) :
    session.step? agent now =
      some
        { session with
          phase := .pacing (time + session.options.interval)
          status := .streaming } := by
  rw [step?, turning]
  simp only [turn, pacingDeadline?, sent, Option.map_some,
    if_neg (Nat.ne_of_gt paces)]

/-- The history is still the same. -/
theorem confirm_of_current
    (checking : session.phase = .checking)
    (current : agent.instanceId = session.instanceId)
    (now : Nat) :
    session.step? agent now =
      some { session.lookUp agent with phase := .marking } := by
  rw [step?, checking]
  simp only [check, if_pos current]

/-- The log is read. -/
theorem read_of_found
    (reading : session.phase = .reading)
    {page : Page}
    (found :
      agent.log.range session.cursor none session.count session.filter =
        .ok page)
    (now : Nat) :
    session.step? agent now = some { session with phase := .heading page } := by
  rw [step?, reading]
  simp only [read, found]

/-- What was read is sent. -/
theorem send_of_something
    {page : Page}
    (heading : session.phase = .heading page)
    (something : page.observations ≠ [])
    (now : Nat) :
    session.step? agent now =
      some
        ({ session with cursor := page.endSequence }.send
          (.data (agent.sampleOf page))) := by
  have notEmpty : (agent.sampleOf page).isEmpty = false := by
    simp [SampleDocument.isEmpty, Agent.sampleOf, something]
  rw [step?, heading]
  simp only [deliver, notEmpty, Bool.false_eq_true, if_false]
  rfl

/-- Nothing was read, and the session looks around before it waits. -/
theorem drain_of_nothing
    {page : Page}
    (heading : session.phase = .heading page)
    (nothing : page.observations = [])
    (now : Nat) :
    session.step? agent now =
      some
        { session with
          phase := .polling
          status := .heartbeatWait
          cursor := page.endSequence } := by
  have isEmpty : (agent.sampleOf page).isEmpty = true := by
    simp [SampleDocument.isEmpty, Agent.sampleOf, nothing]
  rw [step?, heading]
  simp only [deliver, isEmpty, if_true]
  rfl

/-- There is room for the frame. -/
theorem emit_of_sending
    {frame : Frame}
    (sending : session.phase = .sending frame)
    (wanted : session.isUnwanted = false)
    (hasRoom : session.hasRoom = true)
    (now : Nat) :
    session.step? agent now = some (session.emit now frame) := by
  rw [step?, sending]
  simp only [wanted, hasRoom, Bool.false_eq_true, if_false, if_true]

/-- The interval is not over. -/
theorem pause_of_pacing
    {deadline now : Nat}
    (pacing : session.phase = .pacing deadline)
    (wanted : session.isUnwanted = false)
    (notOver : now < deadline) :
    session.step? agent now = none := by
  rw [step?, pacing]
  simp only [wanted, Bool.false_eq_true, if_false,
    if_neg (Nat.not_le_of_lt notOver)]

/-- No other history has been announced. -/
theorem pass_of_seen
    (polling : session.phase = .polling)
    (wanted : session.isUnwanted = false)
    (sameInstance : session.seenInstance = agent.identity.id.revision)
    (now : Nat) :
    session.step? agent now = some { session with phase := .heeding } := by
  have noChange := Signal.changedSince_eq_false_iff.mpr sameInstance
  rw [step?, polling]
  simp only [wanted, poll, noChange, Bool.false_eq_true, if_false]

/-- Nothing has been announced, and the heartbeat is not due. -/
theorem heed_of_seen
    (heeding : session.phase = .heeding)
    (noAppends : session.seenAppends = agent.log.appended.revision)
    (notDue : now < session.heartbeatDeadline) :
    session.step? agent now = some { session with phase := .waiting } := by
  have nothingNew := Signal.changedSince_eq_false_iff.mpr noAppends
  rw [step?, heeding]
  simp only [heed, nothingNew, if_neg (Nat.not_le_of_lt notDue),
    Bool.false_eq_true, if_false]

/-- There is no reason to look around again. -/
theorem rest_of_seen
    (waiting : session.phase = .waiting)
    (wanted : session.isUnwanted = false)
    (sameInstance : session.seenInstance = agent.identity.id.revision)
    (noAppends : session.seenAppends = agent.log.appended.revision)
    (notDue : now < session.heartbeatDeadline) :
    session.step? agent now = none := by
  have noChange := Signal.changedSince_eq_false_iff.mpr sameInstance
  have nothingNew := Signal.changedSince_eq_false_iff.mpr noAppends
  have early := decide_eq_false (Nat.not_le_of_lt notDue)
  rw [step?, waiting]
  simp only [isStirred, wanted, noChange, nothingNew, early, Bool.or_self,
    Bool.false_eq_true, if_false]

end Session

end MTConnect
