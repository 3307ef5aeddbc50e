import MTConnect.Proofs.Agent.Signals
import MTConnect.Proofs.Stream.Origin

namespace MTConnect

/-!
# A session that waits has read everything that was announced

A session takes what was announced as seen, then reads, and goes to wait only
when it found nothing. What is logged afterwards is announced after that. Hence
a session that waits with nothing unseen has read the log up to the observations
whose announcements are still to come: none is left that only a heartbeat could
lead it to.

An observation is announced when the log is free again, so for a moment it is
there and no signal tells of it. And a heartbeat shows the header of the moment
when it is made, which is later than the moment when it was decided on.
-/

/-- Whether a session in a phase relies on what it has seen of the instance's signal. -/
def SessionPhase.isAlert : SessionPhase → Bool
  | .starting => false
  | .identifying => false
  | .failing _ => false
  | .sending (.failure _) => false
  | .stopped => false
  | _ => true

/-- Whether a session in a phase may report a status. -/
def SessionPhase.Reports : SessionPhase → SessionStatus → Prop
  | .starting, status => status = .init
  | .identifying, status => status = .init
  | .validating, status => status = .init
  | .placing, status => status = .init
  | .turning, status => status ≠ .heartbeatWait
  | .pacing _, status => status = .streaming
  | .checking, status => status = .streaming
  | .marking, status => status = .streaming
  | .reading, status => status = .streaming
  | .heading _, status => status = .streaming
  | .failing _, _ => True
  | .sending (.data _), status => status = .streaming
  | .sending (.heartbeat _ _), status => status = .heartbeatWait
  | .sending (.failure _), _ => True
  | .polling, status => status = .heartbeatWait
  | .heeding, status => status = .heartbeatWait
  | .waiting, status => status = .heartbeatWait
  | .beating, status => status = .heartbeatWait
  | .stopped, status => status = .stopped

/-- The end of a heartbeat, and the next number that its header tells. -/
def Frame.heartbeatNumbers? : Frame → Option (Nat × Nat)
  | .heartbeat header endSequence => some (endSequence, header.nextSequence)
  | _ => none

namespace Session

/--
What a session knows of an agent while some announcements are still to come. It
has seen no revision that is not published yet; while it waits it has read
whatever the revision that it has seen of the log stands for; and as long as it
goes on, the revision that it has seen of the instance stands for the one it
began in.
-/
structure Watches (session : Session) (agent : Agent) (withheld : Nat) : Prop where
  counts : 0 < session.count
  reports : session.phase.Reports session.status
  seenAppends_le :
    session.seenAppends + withheld ≤ agent.log.appended.revision
  seenInstance_le : session.seenInstance ≤ agent.identity.id.revision
  id_le : session.instanceId ≤ agent.instanceId
  caught_up :
    session.status = .heartbeatWait →
    agent.log.next + session.seenAppends ≤
      session.cursor + agent.log.appended.revision
  /-- An empty page ends where the log ended when it was read. -/
  found_nothing :
    ∀ page,
      session.phase = .heading page →
      page.observations = [] →
      agent.log.next + session.seenAppends ≤
        page.endSequence + agent.log.appended.revision
  unplaced : session.phase.isOpening = true → session.cursor = 0
  reached :
    agent.instanceId = session.instanceId →
    session.cursor ≤ agent.log.next
  page_reached :
    ∀ page,
      session.phase = .heading page →
      agent.instanceId = session.instanceId →
      page.endSequence ≤ agent.log.next
  current :
    session.phase.isAlert = true →
    session.seenInstance = agent.identity.id.revision →
    agent.instanceId = session.instanceId

variable
  {session next : Session}
  {agent : Agent}
  {history : History}
  {withheld now : Nat}

/-- A session at an alert phase is alert. -/
theorem alert_of
    {phase : SessionPhase}
    (atPhase : session.phase = phase)
    (alert : phase.isAlert = true) :
    session.phase.isAlert = true :=
  atPhase ▸ alert

/-- A session that has not begun has seen nothing yet, and so missed nothing. -/
theorem watches_fresh
    (options : StreamOptions)
    (withinPublished : withheld ≤ agent.log.appended.revision) :
    (fresh options).Watches agent withheld where
  counts := Int.zero_lt_one
  reports := rfl
  seenAppends_le := (Nat.zero_add withheld).symm ▸ withinPublished
  seenInstance_le := Nat.zero_le _
  id_le := Nat.zero_le _
  caught_up := nofun
  found_nothing := nofun
  unplaced := fun _ => rfl
  reached := fun _ => Nat.zero_le _
  page_reached := nofun
  current := nofun

namespace Watches

/-- The status in a phase that allows for one only. -/
theorem status_eq
    (watches : session.Watches agent withheld)
    {phase : SessionPhase}
    (atPhase : session.phase = phase)
    {status : SessionStatus}
    (reported : ∀ other, phase.Reports other → other = status) :
    session.status = status := by
  have reports := watches.reports
  rw [atPhase] at reports
  exact reported _ reports

/-- A session that ends, or that has met a fault, relies on nothing any more. -/
theorem ended
    (watches : session.Watches agent withheld)
    {phase : SessionPhase}
    {status : SessionStatus}
    (reports : phase.Reports status)
    (waits : status = .heartbeatWait → session.status = .heartbeatWait)
    (begun : phase.isOpening = false)
    (notAlert : phase.isAlert = false)
    (notHeading : ∀ page, phase ≠ .heading page) :
    Watches { session with phase := phase, status := status } agent
      withheld :=
  { watches with
    reports := reports
    caught_up := fun waiting => watches.caught_up (waits waiting)
    found_nothing := fun page heading => absurd heading (notHeading page)
    unplaced := fun opening => by simp [begun] at opening
    page_reached := fun page heading => absurd heading (notHeading page)
    current := fun alert => by simp [notAlert] at alert }

/-- A session that ends misses nothing. -/
theorem halt (watches : session.Watches agent withheld) :
    session.halt.Watches agent withheld :=
  watches.ended rfl nofun rfl rfl nofun

/-- Nor does one that is about to end with an error. -/
theorem fail
    (watches : session.Watches agent withheld)
    (fault : Fault) :
    (session.fail fault).Watches agent withheld :=
  watches.ended trivial id rfl rfl nofun

/-- Nor does one that has made its error frame. -/
theorem report
    (watches : session.Watches agent withheld)
    (teller : Agent)
    (fault : Fault) :
    (session.report teller fault).Watches agent withheld :=
  watches.ended trivial id rfl rfl nofun

/-- What is logged is watched from what is published now. -/
theorem subscribe
    (watches : session.Watches agent withheld)
    (starting : session.phase = .starting)
    {teller : Agent}
    (published :
      teller.log.appended.revision + withheld = agent.log.appended.revision)
    (now : Nat) :
    (session.subscribe teller now).Watches agent withheld := by
  have isInit : session.status = .init :=
    watches.status_eq starting fun _ => id
  exact
    { watches with
      reports := isInit
      seenAppends_le := Nat.le_of_eq published
      caught_up := fun waiting => by cases isInit.symm.trans waiting
      found_nothing := nofun
      unplaced := fun _ =>
        watches.unplaced (congrArg SessionPhase.isOpening starting)
      page_reached := nofun
      current := nofun }

/-- The instance that is remembered is the current one. -/
theorem identify
    (watches : session.Watches agent withheld)
    (identifying : session.phase = .identifying) :
    (session.identify agent).Watches agent withheld := by
  have isInit : session.status = .init :=
    watches.status_eq identifying fun _ => id
  have atZero :=
    watches.unplaced (congrArg SessionPhase.isOpening identifying)
  exact
    { watches with
      reports := isInit
      seenInstance_le := Nat.le_refl _
      id_le := Nat.le_refl _
      found_nothing := nofun
      unplaced := fun _ => atZero
      reached := fun _ => Nat.le_trans (Nat.le_of_eq atZero) (Nat.zero_le _)
      page_reached := nofun
      current := fun _ _ => rfl }

/-- Terms that are accepted allow for an observation in each frame. -/
theorem accept
    (watches : session.Watches agent withheld)
    (validating : session.phase = .validating)
    {filter : ObservationFilter}
    {count : Int}
    (positive : 0 < count) :
    Watches { session with phase := .placing, filter := filter, count := count }
      agent withheld := by
  have isInit : session.status = .init :=
    watches.status_eq validating fun _ => id
  exact
    { watches with
      counts := positive
      reports := isInit
      found_nothing := nofun
      unplaced := fun _ =>
        watches.unplaced (congrArg SessionPhase.isOpening validating)
      page_reached := nofun
      current := fun _ => watches.current (alert_of validating rfl) }

/-- The starting point lies in the window. -/
theorem place
    (watches : session.Watches agent withheld)
    (placing : session.phase = .placing)
    {cursor : Nat}
    (inWindow : cursor ≤ agent.log.next)
    (now : Nat) :
    Watches
      { session with phase := .turning, cursor := cursor, lastEmit := now }
      agent withheld := by
  have isInit : session.status = .init :=
    watches.status_eq placing fun _ => id
  exact
    { watches with
      reports := by simp [SessionPhase.Reports, isInit]
      caught_up := fun waiting => by cases isInit.symm.trans waiting
      found_nothing := nofun
      unplaced := nofun
      reached := fun _ => inWindow
      page_reached := nofun
      current := fun _ => watches.current (alert_of placing rfl) }

/-- All that is published is taken as seen before the log is read. -/
theorem mark
    (watches : session.Watches agent withheld)
    (marking : session.phase = .marking)
    {teller : Agent}
    (published :
      teller.log.appended.revision + withheld = agent.log.appended.revision) :
    (session.mark teller).Watches agent withheld := by
  have streaming : session.status = .streaming :=
    watches.status_eq marking fun _ => id
  exact
    { watches with
      reports := streaming
      seenAppends_le := Nat.le_of_eq published
      caught_up := fun waiting => by cases streaming.symm.trans waiting
      found_nothing := nofun
      unplaced := nofun
      page_reached := nofun
      current := fun _ => watches.current (alert_of marking rfl) }

/-- Something was announced, so the log is read again. -/
theorem notice
    (watches : session.Watches agent withheld)
    (heeding : session.phase = .heeding)
    {teller : Agent}
    (published :
      teller.log.appended.revision + withheld = agent.log.appended.revision) :
    Watches
      { session with
        phase := .turning
        status := .dataReady
        seenAppends := teller.log.appended.revision }
      agent withheld :=
  { watches with
    reports := by simp [SessionPhase.Reports]
    seenAppends_le := Nat.le_of_eq published
    caught_up := nofun
    found_nothing := nofun
    unplaced := nofun
    page_reached := nofun
    current := fun _ => watches.current (alert_of heeding rfl) }

/-- The session has looked at the instance's signal and goes on. -/
theorem lookUp
    (watches : session.Watches agent withheld)
    (current : agent.instanceId = session.instanceId) :
    (session.lookUp agent).Watches agent withheld :=
  { watches with
    seenInstance_le := Nat.le_refl _
    current := fun _ _ => current }

/-- The session has looked at the instance's signal, and its history is gone. -/
theorem failInstance (watches : session.Watches agent withheld) :
    ((session.lookUp agent).failInstance agent).Watches agent withheld :=
  { watches.fail (.instanceMismatch session.instanceId agent.instanceId) with
    seenInstance_le := Nat.le_refl _
    current := nofun }

/-- The session goes on in another phase, with what it knew. -/
theorem goOn
    (watches : session.Watches agent withheld)
    {phase : SessionPhase}
    {status : SessionStatus}
    (reports : phase.Reports status)
    (waits : status = .heartbeatWait → session.status = .heartbeatWait)
    (begun : phase.isOpening = false)
    (alert : session.phase.isAlert = true)
    (notHeading : ∀ page, phase ≠ .heading page) :
    Watches { session with phase := phase, status := status } agent
      withheld :=
  { watches with
    reports := reports
    caught_up := fun waiting => watches.caught_up (waits waiting)
    found_nothing := fun page heading => absurd heading (notHeading page)
    unplaced := fun opening => by simp [begun] at opening
    page_reached := fun page heading => absurd heading (notHeading page)
    current := fun _ => watches.current alert }

/-- The session goes on in a phase that allows for the status of the one before. -/
theorem moveOn
    (watches : session.Watches agent withheld)
    {before phase : SessionPhase}
    (atPhase : session.phase = before)
    (reports : before.Reports session.status → phase.Reports session.status)
    (begun : phase.isOpening = false)
    (alert : before.isAlert = true)
    (notHeading : ∀ page, phase ≠ .heading page) :
    Watches { session with phase := phase } agent withheld :=
  watches.goOn (reports (atPhase ▸ watches.reports)) id begun
    (alert_of atPhase alert) notHeading

/-- What a log holds from the cursor on ends where the log ends, if it is nothing. -/
theorem fetch
    (watches : session.Watches agent withheld)
    (represents : agent.log.Represents history)
    (reading : session.phase = .reading)
    {page : Page}
    (found :
      agent.log.range session.cursor none session.count session.filter =
        .ok page) :
    Watches { session with phase := .heading page } agent withheld := by
  have covers := fits_of_range represents watches.counts found
  have seenAppendsLe := watches.seenAppends_le
  have streaming : session.status = .streaming :=
    watches.status_eq reading fun _ => id
  exact
    { watches with
      reports := streaming
      found_nothing := by
        rintro other ⟨⟩ nothing
        have complete := covers.complete (by
          rw [nothing]
          exact Int.natAbs_pos.mpr (Int.ne_of_gt watches.counts))
        rw [represents.next_eq, complete]
        exact
          Nat.add_le_add_left
            (Nat.le_trans (Nat.le_add_right _ _) seenAppendsLe) _
      unplaced := nofun
      page_reached := by
        rintro other ⟨⟩ _
        rw [represents.next_eq]
        exact covers.end_le
      current := fun _ =>
        watches.current (alert_of reading rfl) }

/-- The cursor moves over the page that the session has. -/
theorem deliver
    (watches : session.Watches agent withheld)
    {page : Page}
    (heading : session.phase = .heading page)
    (document : SampleDocument) :
    (({ session with cursor := page.endSequence } : Session).send
      (.data document)).Watches agent withheld := by
  have streaming : session.status = .streaming :=
    watches.status_eq heading fun _ => id
  exact
    { watches with
      reports := streaming
      caught_up := fun waiting => by
        simp [Session.send, streaming] at waiting
      found_nothing := nofun
      unplaced := nofun
      reached := watches.page_reached page heading
      page_reached := nofun
      current := fun _ =>
        watches.current (alert_of heading rfl) }

/-- Finding nothing means that nothing was left. -/
theorem drain
    (watches : session.Watches agent withheld)
    {page : Page}
    (heading : session.phase = .heading page)
    (nothing : page.observations = []) :
    Watches
      { session with
        phase := .polling
        status := .heartbeatWait
        cursor := page.endSequence }
      agent withheld :=
  { watches with
    reports := rfl
    caught_up := fun _ => watches.found_nothing page heading nothing
    found_nothing := nofun
    unplaced := nofun
    reached := watches.page_reached page heading
    page_reached := nofun
    current := fun _ =>
      watches.current (alert_of heading rfl) }

/-- To hand a frame over changes nothing of what was seen. -/
theorem emit
    (watches : session.Watches agent withheld)
    {frame : Frame}
    (sending : session.phase = .sending frame) :
    (session.emit now frame).Watches agent withheld := by
  cases frame with
  | data document =>
      have streaming : session.status = .streaming :=
        watches.status_eq sending fun _ => id
      exact
        { watches with
          reports := by simp [Session.emit, SessionPhase.Reports, streaming]
          found_nothing := nofun
          unplaced := nofun
          page_reached := nofun
          current := fun _ =>
            watches.current (alert_of sending rfl) }
  | heartbeat header endSequence =>
      have waiting : session.status = .heartbeatWait :=
        watches.status_eq sending fun _ => id
      exact
        { watches with
          reports := waiting
          found_nothing := nofun
          unplaced := nofun
          page_reached := nofun
          current := fun _ =>
            watches.current (alert_of sending rfl) }
  | failure document => exact { watches.halt with }

/-- Every step keeps what a session knows. -/
theorem step
    (watches : session.Watches agent withheld)
    (represents : agent.log.Represents history)
    (stepped :
      session.step? (agent.withholding withheld) now = some next) :
    next.Watches agent withheld := by
  have seenAppendsLe := watches.seenAppends_le
  have published :
      (agent.withholding withheld).log.appended.revision + withheld =
        agent.log.appended.revision :=
    Nat.sub_add_cancel (by omega)
  cases takes_of_step stepped with
  | subscribes starting => exact watches.subscribe starting published now
  | identifies identifying => exact watches.identify identifying
  | accepts terms validating allowed =>
      obtain ⟨_, termsEq⟩ := Agent.checkedTerms_eq_ok_iff.mp allowed
      exact watches.accept validating (Agent.pos_of_streamTerms termsEq)
  | rejects fault validating refused => exact watches.fail fault
  | places cursor placing found =>
      obtain ⟨_, accepted⟩ := Agent.streamCursor_eq_ok_iff.mp found
      have inWindow := ((ObservationLog.accepts_iff _ _).mp accepted).2
      exact watches.place placing inWindow now
  | misplaces fault placing refused => exact watches.fail fault
  | hurries turning =>
      exact
        watches.goOn rfl nofun rfl (alert_of turning rfl)
          nofun
  | pauses deadline turning =>
      exact
        watches.goOn rfl nofun rfl (alert_of turning rfl)
          nofun
  | resumes deadline pacing => exact watches.moveOn pacing id rfl rfl nofun
  | confirms checking current =>
      exact (watches.lookUp current).moveOn checking id rfl rfl nofun
  | replaced looking other => exact watches.failInstance
  | marks marking => exact watches.mark marking published
  | reads page reading found => exact watches.fetch represents reading found
  | misreads fault reading failed => exact watches.fail fault
  | delivers page heading something => exact watches.deliver heading _
  | drains page heading nothing => exact watches.drain heading nothing
  | reports fault failing => exact watches.report _ fault
  | emits frame sending wanted hasRoom => exact watches.emit sending
  | drops frame sending unwanted => exact watches.halt
  | halts idling unwanted => exact watches.halt
  | recovers polling current =>
      exact (watches.lookUp current).moveOn polling id rfl rfl nofun
  | passes polling => exact watches.moveOn polling id rfl rfl nofun
  | notices heeding news => exact watches.notice heeding published
  | tires heeding => exact watches.moveOn heeding id rfl rfl nofun
  | rests heeding => exact watches.moveOn heeding id rfl rfl nofun
  | stirs waiting => exact watches.moveOn waiting id rfl rfl nofun
  | beats beating => exact watches.moveOn beating id rfl rfl nofun

/-- Whatever the agent is told, what the session knows of it is still true. -/
theorem perform
    (watches : session.Watches agent withheld)
    (command : Agent.Command)
    {withheldThen : Nat}
    (published :
      withheldThen + agent.log.appended.revision ≤
        withheld + (agent.perform command).log.appended.revision) :
    session.Watches (agent.perform command) withheldThen := by
  have signalled := agent.signalled_perform command
  have idLe := watches.id_le
  have stillCurrent
      (current : (agent.perform command).instanceId = session.instanceId) :
      (agent.perform command).instanceId = agent.instanceId := by
    have := signalled.id_le
    omega
  have nextLe := signalled.log.next_le
  refine
    { watches with
      seenAppends_le := ?_
      seenInstance_le :=
        Nat.le_trans watches.seenInstance_le signalled.revision_le
      id_le := Nat.le_trans idLe signalled.id_le
      caught_up := ?_
      found_nothing := ?_
      reached := ?_
      page_reached := ?_
      current := ?_ }
  · have := watches.seenAppends_le
    omega
  · intro waiting
    have := watches.caught_up waiting
    omega
  · intro page heading nothing
    have := watches.found_nothing page heading nothing
    omega
  · intro current
    have same := stillCurrent current
    exact
      Nat.le_trans (watches.reached (same.symm.trans current))
        (signalled.next_le same)
  · intro page heading current
    have same := stillCurrent current
    exact
      Nat.le_trans (watches.page_reached page heading (same.symm.trans current))
        (signalled.next_le same)
  · intro alert seenAll
    have still :
        (agent.perform command).identity.id.revision =
          agent.identity.id.revision :=
      Nat.le_antisymm (seenAll ▸ watches.seenInstance_le)
        signalled.revision_le
    rw [signalled.instanceId_eq still]
    exact watches.current alert (seenAll.trans still)

end Watches

/-- A session that is about to make a heartbeat has found nothing announced in the step before. -/
theorem tires_of_step
    (stepped : session.step? agent now = some next)
    (beating : next.phase = .beating) :
    session.phase = .heeding ∧
      agent.log.appended.changedSince session.seenAppends = false ∧
      next.cursor = session.cursor := by
  cases takes_of_step stepped with
  | tires heeding noNews due => exact ⟨heeding, noNews, rfl⟩
  | emits frame sending wanted hasRoom =>
      cases frame with
      | data document => cases beating
      | heartbeat header endSequence => cases beating
      | failure document => cases beating
  | _ => cases beating

end Session

namespace Streaming

/-- The session knows what it has seen of an agent whose log keeps its history. -/
structure Watchful (streaming : Streaming) : Prop where
  chronicle : streaming.chronicle.Sound
  watches :
    streaming.session.Watches streaming.chronicle.agent streaming.withheld

variable {streaming : Streaming}

namespace Watchful

/-- A session that is opened beside an agent knows nothing of it. -/
theorem beside
    {chronicle : Chronicle}
    (sound : chronicle.Sound)
    (options : StreamOptions) :
    (Streaming.beside chronicle options).Watchful :=
  ⟨sound, Session.watches_fresh options (Nat.zero_le _)⟩

/-- What the agent is told adds to its announcements. -/
theorem perform
    (watchful : streaming.Watchful)
    (command : Agent.Command) :
    (streaming.after (.command command)).Watchful ∧
      (streaming.after (.enter command)).Watchful := by
  have published :
      streaming.chronicle.agent.log.appended.revision ≤
        (streaming.chronicle.agent.perform command).log.appended.revision :=
    (streaming.chronicle.agent.signalled_perform command).log.revision_le
  have sound := watchful.chronicle.perform command
  refine
    ⟨⟨sound, watchful.watches.perform command ?_⟩,
      ⟨sound, watchful.watches.perform command ?_⟩⟩
  · exact Nat.add_le_add_left published _
  · simp only [Streaming.after, entered, Agent.announcements]
    omega

/-- Every event keeps what the session knows. -/
theorem after
    (watchful : streaming.Watchful)
    (event : StreamEvent) :
    (streaming.after event).Watchful := by
  have performed := watchful.perform
  obtain ⟨chronicle, watches⟩ := watchful
  cases event with
  | command command => exact (performed command).1
  | enter command => exact (performed command).2
  | announce =>
      refine ⟨chronicle, { watches with seenAppends_le := ?_ }⟩
      exact
        Nat.le_trans (Nat.add_le_add_left (Nat.sub_le _ _) _)
          watches.seenAppends_le
  | pass millis => exact ⟨chronicle, watches⟩
  | step =>
      cases stepped :
          streaming.session.step? streaming.agent streaming.now with
      | none =>
          rw [after_step_of_none stepped]
          exact ⟨chronicle, watches⟩
      | some next =>
          rw [after_step_of_some stepped]
          exact ⟨chronicle, watches.step chronicle.represents stepped⟩
  | receive =>
      obtain ⟨queue, received, afterEq⟩ := streaming.after_receive_cases
      rw [afterEq]
      exact ⟨chronicle, { watches with }⟩
  | stop => exact ⟨chronicle, { watches with }⟩
  | disconnect => exact ⟨chronicle, { watches with }⟩

/-- In every run the session knows what it has seen. -/
theorem run
    (watchful : streaming.Watchful)
    (events : List StreamEvent) :
    (streaming.run events).Watchful := by
  induction events generalizing streaming with
  | nil => exact watchful
  | cons event rest inductionHypothesis =>
      exact inductionHypothesis (watchful.after event)

end Watchful

/--
The session reports that it waits, be it for something new or for room for a
heartbeat, it has met no fault, and it has no unseen news: nothing but the
heartbeat moves it on.
-/
structure IsParked (streaming : Streaming) : Prop where
  waiting : streaming.session.status = .heartbeatWait
  alert : streaming.session.phase.isAlert = true
  sameInstance :
    streaming.agent.identity.id.changedSince
      streaming.session.seenInstance = false
  noAppends :
    streaming.agent.log.appended.changedSince
      streaming.session.seenAppends = false

/--
A step decides on a heartbeat and a later one makes it. In the meantime the
agent may be told something, but the session does not move.
-/
structure Beats
    (opened : Streaming)
    (before between : List StreamEvent)
    (header : Header)
    (endSequence : Nat) : Prop where
  /-- The heartbeat ends where the session was when it decided. -/
  cursor_eq : (opened.run before).session.cursor = endSequence
  /-- By then it had read all that was announced. -/
  next_le :
    (opened.run before).agent.log.next ≤
      endSequence + (opened.run before).withheld
  /-- The header is that of the moment when the heartbeat is made. -/
  header_eq :
    header = (opened.run (before ++ .step :: between)).agent.header
  /-- If nothing was logged in between and all is announced, this is the next number. -/
  endSequence_eq :
    between.filterMap StreamEvent.command? = [] →
    (opened.run before).withheld = 0 →
    header.instanceId = (opened.run before).session.instanceId →
    endSequence = header.nextSequence
  /-- In any case it is not beyond that, unless the instance is another one. -/
  endSequence_le :
    header.instanceId =
      (opened.run (before ++ .step :: between)).session.instanceId →
    endSequence ≤ header.nextSequence

/-- No news passes the session by. -/
structure Attentive (opened : Streaming) (events : List StreamEvent) : Prop where
  /-- A parked session stands before those observations at most that are not announced yet. -/
  caught_up :
    (opened.run events).IsParked →
    (opened.run events).session.cursor ≤ (opened.run events).agent.log.next ∧
      (opened.run events).agent.log.next ≤
        (opened.run events).session.cursor + (opened.run events).withheld
  /-- Nothing that is announced and that the filter admits is left at the cursor or beyond it. -/
  delivered :
    (opened.run events).IsParked →
    ∀ observation ∈ (opened.run events).agent.log.retained.toList,
      (opened.run events).session.filter.admits observation = true →
      observation.sequence <
        (opened.run events).session.cursor + (opened.run events).withheld
  /-- While something announced is left, the session does not go on waiting. -/
  wakes :
    (opened.run events).session.phase = .waiting →
    (opened.run events).session.cursor + (opened.run events).withheld <
      (opened.run events).agent.log.next →
    ∀ now,
      ∃ next,
        (opened.run events).session.step? (opened.run events).agent now =
            some next ∧
          next.phase = .polling
  /-- And it reads before it sends another heartbeat. -/
  reads_on :
    (opened.run events).session.phase = .heeding →
    (opened.run events).session.cursor + (opened.run events).withheld <
      (opened.run events).agent.log.next →
    ∀ now,
      ∃ next,
        (opened.run events).session.step? (opened.run events).agent now =
            some next ∧
          next.phase = .turning
  heartbeats :
    ∀ made ∈ (opened.run events).made,
      ∀ header endSequence,
        made.frame = .heartbeat header endSequence →
        ∃ before between after,
          events = before ++ .step :: (between ++ .step :: after) ∧
            opened.Beats before between header endSequence

namespace Watchful

/-- What has been seen of the log, and what is still to come, is all there is. -/
theorem next_le
    (watchful : streaming.Watchful)
    (waiting : streaming.session.status = .heartbeatWait)
    (noAppends :
      streaming.agent.log.appended.changedSince
        streaming.session.seenAppends = false) :
    streaming.agent.log.next ≤
      streaming.session.cursor + streaming.withheld := by
  have seenAll : streaming.session.seenAppends =
      streaming.chronicle.agent.log.appended.revision - streaming.withheld :=
    Signal.changedSince_eq_false_iff.mp noAppends
  have caughtUp := watchful.watches.caught_up waiting
  have published := watchful.watches.seenAppends_le
  have sameNext :
      streaming.agent.log.next = streaming.chronicle.agent.log.next := rfl
  omega

/-- A parked session has read what was announced, and no more than was logged. -/
theorem caught_up
    (watchful : streaming.Watchful)
    (parked : streaming.IsParked) :
    streaming.session.cursor ≤ streaming.agent.log.next ∧
      streaming.agent.log.next ≤
        streaming.session.cursor + streaming.withheld := by
  have seen := Signal.changedSince_eq_false_iff.mp parked.sameInstance
  exact
    ⟨watchful.watches.reached (watchful.watches.current parked.alert seen),
      watchful.next_le parked.waiting parked.noAppends⟩

/-- What is retained has a number below the next one. -/
theorem delivered
    (watchful : streaming.Watchful)
    (parked : streaming.IsParked)
    {observation : Observation}
    (retained : observation ∈ streaming.agent.log.retained.toList) :
    observation.sequence <
      streaming.session.cursor + streaming.withheld := by
  have represents := represents_agent watchful.chronicle
  rw [represents.retained_eq] at retained
  have below := (History.bounds_of_mem (List.mem_of_mem_drop retained)).2
  rw [← represents.next_eq] at below
  exact Nat.lt_of_lt_of_le below (watchful.caught_up parked).2

/-- A session that waits while something announced is left has something unseen. -/
theorem changedSince_of_behind
    (watchful : streaming.Watchful)
    (waiting : streaming.session.status = .heartbeatWait)
    (behind :
      streaming.session.cursor + streaming.withheld <
        streaming.agent.log.next) :
    streaming.agent.log.appended.changedSince
      streaming.session.seenAppends = true := by
  cases news :
      streaming.agent.log.appended.changedSince
        streaming.session.seenAppends with
  | true => rfl
  | false =>
      have caughtUp := watchful.next_le waiting news
      omega

/-- It does not go on waiting. -/
theorem wakes
    (watchful : streaming.Watchful)
    (waiting : streaming.session.phase = .waiting)
    (behind :
      streaming.session.cursor + streaming.withheld <
        streaming.agent.log.next)
    (now : Nat) :
    ∃ next,
      streaming.session.step? streaming.agent now = some next ∧
        next.phase = .polling := by
  have news :=
    watchful.changedSince_of_behind
      (watchful.watches.status_eq waiting fun _ => id) behind
  refine ⟨{ streaming.session with phase := .polling }, ?_, rfl⟩
  simp [Session.step?, waiting, Session.isStirred, news]

/-- And it does not make a heartbeat first. -/
theorem reads_on
    (watchful : streaming.Watchful)
    (heeding : streaming.session.phase = .heeding)
    (behind :
      streaming.session.cursor + streaming.withheld <
        streaming.agent.log.next)
    (now : Nat) :
    ∃ next,
      streaming.session.step? streaming.agent now = some next ∧
        next.phase = .turning := by
  have news :=
    watchful.changedSince_of_behind
      (watchful.watches.status_eq heeding fun _ => id) behind
  refine ⟨_, by simp [Session.step?, heeding, Session.heed, news]; rfl, rfl⟩

end Watchful

/-- A session that is about to make a heartbeat was so before, or has just decided on it. -/
theorem beating_after
    {event : StreamEvent}
    (beating : (streaming.after event).session.phase = .beating) :
    (streaming.after event).session.cursor = streaming.session.cursor ∧
      (streaming.session.phase = .beating ∨
        event = .step ∧
          streaming.session.phase = .heeding ∧
            streaming.agent.log.appended.changedSince
              streaming.session.seenAppends = false) := by
  cases event with
  | step =>
      cases stepped :
          streaming.session.step? streaming.agent streaming.now with
      | none =>
          rw [after_step_of_none stepped] at beating ⊢
          exact ⟨rfl, .inl beating⟩
      | some next =>
          rw [after_step_of_some stepped] at beating ⊢
          obtain ⟨heeding, noNews, cursorEq⟩ :=
            Session.tires_of_step stepped beating
          exact ⟨cursorEq, .inr ⟨rfl, heeding, noNews⟩⟩
  | receive =>
      obtain ⟨queue, received, afterEq⟩ := streaming.after_receive_cases
      rw [afterEq] at beating ⊢
      exact ⟨rfl, .inl beating⟩
  | _ => exact ⟨rfl, .inl beating⟩

/-- A heartbeat was decided on in a step, and the session has not moved since. -/
theorem exists_tiring
    (notYet : streaming.session.phase ≠ .beating)
    {events : List StreamEvent}
    (beating : (streaming.run events).session.phase = .beating) :
    ∃ before between,
      events = before ++ .step :: between ∧
        (streaming.run before).session.phase = .heeding ∧
        (streaming.run before).agent.log.appended.changedSince
            (streaming.run before).session.seenAppends = false ∧
        (streaming.run before).session.cursor =
          (streaming.run events).session.cursor := by
  obtain ⟨before, event, between, eventsEq, notBefore, nowBeating, cursorNow⟩ :=
    exists_turn
      (fun other : Streaming =>
        other.session.phase = .beating ∧
          other.session.cursor = (streaming.run events).session.cursor)
      (fun held => notYet held.1) ⟨beating, rfl⟩
  obtain ⟨cursorEq, alreadyBeating | ⟨rfl, heeding, noNews⟩⟩ :=
    beating_after nowBeating
  · exact absurd ⟨alreadyBeating, cursorEq.symm.trans cursorNow⟩ notBefore
  · exact
      ⟨before, between, eventsEq, heeding, noNews, cursorEq.symm.trans cursorNow⟩

/-- What a heartbeat tells, from what the session knew when it decided on it. -/
theorem beats_of_tiring
    (watchful : streaming.Watchful)
    {before between : List StreamEvent}
    {endSequence : Nat}
    (heeding : (streaming.run before).session.phase = .heeding)
    (noNews :
      (streaming.run before).agent.log.appended.changedSince
        (streaming.run before).session.seenAppends = false)
    (cursorBefore : (streaming.run before).session.cursor = endSequence)
    (cursorThen :
      (streaming.run (before ++ .step :: between)).session.cursor =
        endSequence) :
    streaming.Beats before between
      (streaming.run (before ++ .step :: between)).agent.header
      endSequence := by
  have watchfulBefore := watchful.run before
  have watchfulThen := watchful.run (before ++ .step :: between)
  have caughtUp :=
    watchfulBefore.next_le
      (watchfulBefore.watches.status_eq heeding fun _ => id) noNews
  rw [cursorBefore] at caughtUp
  refine
    { cursor_eq := cursorBefore
      next_le := caughtUp
      header_eq := rfl
      endSequence_eq := ?_
      endSequence_le := fun current =>
        cursorThen ▸ watchfulThen.watches.reached current }
  intro quiet allAnnounced current
  -- Nobody has told the agent anything, so it is the one that the session knew.
  have same :
      (streaming.run (before ++ .step :: between)).chronicle =
        (streaming.run before).chronicle := by
    rw [run_append, chronicle_run (streaming.run before)]
    exact congrArg (Chronicle.run _) quiet
  have nextEq :
      (streaming.run (before ++ .step :: between)).agent.header.nextSequence =
        (streaming.run before).agent.log.next := by
    rw [agent, same]
    rfl
  have idEq :
      (streaming.run before).chronicle.agent.instanceId =
        (streaming.run before).session.instanceId := by
    rw [agent, same] at current
    exact current
  have reached := watchfulBefore.watches.reached idEq
  rw [cursorBefore] at reached
  rw [allAnnounced] at caughtUp
  rw [nextEq]
  exact Nat.le_antisymm reached caughtUp

/-- A value, and as many steps as it takes to send it and to wait for the next one. -/
def untilWaiting : List StreamEvent :=
  .command (AgentPlan.oneItemValue "1") :: List.replicate 17 .step

/-- A value that is logged and not announced, while the session waits. -/
def enteredUnannounced : List StreamEvent :=
  untilWaiting ++ [.enter (AgentPlan.oneItemValue "2")]

/-- A value that is logged between the decision on a heartbeat and the heartbeat. -/
def loggedBeforeHeader : List StreamEvent :=
  untilWaiting ++
    [.pass 10000, .step, .step, .step, .command (AgentPlan.oneItemValue "2"),
      .step]

end Streaming

end MTConnect
