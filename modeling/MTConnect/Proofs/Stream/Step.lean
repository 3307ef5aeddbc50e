import MTConnect.Proofs.Agent.Page
import MTConnect.Stream.Session

namespace MTConnect

/-!
# One step of a stream session

What a session can do in one step is said once, in one case for each access to
what is shared. All else that holds of steps follows from these cases.

A session that has begun can go on in three ways. It puts the frame that waits
for room into the queue; it drops that frame because it has been stopped or
its client has gone; or, when no frame waits, its cursor stays or moves on, and
a frame may wait afterwards.
-/

namespace Agent

/-- Counts that may be streamed are positive. -/
theorem pos_of_checked
    {agent : Agent}
    {count? : Option Int}
    {count : Int}
    (counted : agent.checkedCount count? = .ok count)
    (forward : checkForward count = .ok ()) :
    0 < count := by
  obtain ⟨_, notZero, _⟩ := checkedCount_eq_ok_iff.mp counted
  obtain ⟨notNegative, _⟩ := if_error_eq_ok_iff.mp forward
  omega

/-- The terms of a stream allow for one observation in a frame at least. -/
theorem pos_of_streamTerms
    {agent : Agent}
    {options : StreamOptions}
    {terms : StreamTerms}
    (allowed : agent.streamTerms options = .ok terms) :
    0 < terms.count := by
  obtain ⟨_, counted, forward⟩ := streamTerms_eq_ok_iff.mp allowed
  exact pos_of_checked counted forward

end Agent

/-- The observations of a frame. -/
def Frame.observations : Frame → List Observation
  | .data document => document.observations
  | .heartbeat _ _ => []
  | .failure _ => []

/-- What a frame may hold that is made when the cursor stands at a number. -/
def Frame.Fits (count : Int) (cursor : Nat) : Frame → Prop
  | .data document =>
      document.observations ≠ [] ∧
        (document.observations.length : Int) ≤ count ∧
        document.endSequence = cursor
  | .heartbeat _ endSequence => endSequence = cursor
  | .failure _ => True

/-- Whether a session in a phase has not found its starting point yet. -/
def SessionPhase.isOpening : SessionPhase → Bool
  | .starting => true
  | .identifying => true
  | .validating => true
  | .placing => true
  | _ => false

namespace Session

/-- The frame that waits for room in the queue. -/
def blocked (session : Session) : List Frame :=
  match session.phase with
  | .sending frame => [frame]
  | _ => []

/-- What a session becomes in one step, by what it finds in the agent. -/
inductive Takes (session : Session) (agent : Agent) (now : Nat) : Session → Prop where
  | subscribes
      (starting : session.phase = .starting) :
      Takes session agent now (session.subscribe agent now)
  | identifies
      (identifying : session.phase = .identifying) :
      Takes session agent now (session.identify agent)
  | accepts
      (terms : StreamTerms)
      (validating : session.phase = .validating)
      (allowed : agent.checkedTerms session.options = .ok terms) :
      Takes session agent now
        { session with
          phase := .placing
          filter := terms.filter
          count := terms.count }
  | rejects
      (fault : Fault)
      (validating : session.phase = .validating)
      (refused : agent.checkedTerms session.options = .error fault) :
      Takes session agent now (session.fail fault)
  | places
      (cursor : Nat)
      (placing : session.phase = .placing)
      (found : agent.streamCursor session.options.start = .ok cursor) :
      Takes session agent now
        { session with phase := .turning, cursor := cursor, lastEmit := now }
  | misplaces
      (fault : Fault)
      (placing : session.phase = .placing)
      (refused : agent.streamCursor session.options.start = .error fault) :
      Takes session agent now (session.fail fault)
  | hurries
      (turning : session.phase = .turning)
      (unpaced : session.pacingDeadline? = none) :
      Takes session agent now
        { session with phase := .checking, status := .streaming }
  | pauses
      (deadline : Nat)
      (turning : session.phase = .turning)
      (paced : session.pacingDeadline? = some deadline) :
      Takes session agent now
        { session with phase := .pacing deadline, status := .streaming }
  | resumes
      (deadline : Nat)
      (pacing : session.phase = .pacing deadline)
      (elapsed : deadline ≤ now) :
      Takes session agent now { session with phase := .checking }
  | confirms
      (checking : session.phase = .checking)
      (current : agent.instanceId = session.instanceId) :
      Takes session agent now { session.lookUp agent with phase := .marking }
  | replaced
      (looking : session.phase = .checking ∨ session.phase = .polling)
      (other : agent.instanceId ≠ session.instanceId) :
      Takes session agent now ((session.lookUp agent).failInstance agent)
  | marks
      (marking : session.phase = .marking) :
      Takes session agent now (session.mark agent)
  | reads
      (page : Page)
      (reading : session.phase = .reading)
      (found :
        agent.log.range session.cursor none session.count session.filter =
          .ok page) :
      Takes session agent now { session with phase := .heading page }
  | misreads
      (fault : Fault)
      (reading : session.phase = .reading)
      (failed :
        agent.log.range session.cursor none session.count session.filter =
          .error fault) :
      Takes session agent now (session.fail fault)
  | delivers
      (page : Page)
      (heading : session.phase = .heading page)
      (something : page.observations ≠ []) :
      Takes session agent now
        ({ session with cursor := page.endSequence }.send
          (.data (agent.sampleOf page)))
  | drains
      (page : Page)
      (heading : session.phase = .heading page)
      (nothing : page.observations = []) :
      Takes session agent now
        { session with
          phase := .polling
          status := .heartbeatWait
          cursor := page.endSequence }
  | reports
      (fault : Fault)
      (failing : session.phase = .failing fault) :
      Takes session agent now (session.report agent fault)
  | emits
      (frame : Frame)
      (sending : session.phase = .sending frame)
      (wanted : session.isUnwanted = false)
      (hasRoom : session.hasRoom = true) :
      Takes session agent now (session.emit now frame)
  | drops
      (frame : Frame)
      (sending : session.phase = .sending frame)
      (unwanted : session.isUnwanted = true) :
      Takes session agent now session.halt
  | halts
      (idling :
        (∃ deadline, session.phase = .pacing deadline) ∨
          session.phase = .polling)
      (unwanted : session.isUnwanted = true) :
      Takes session agent now session.halt
  | recovers
      (polling : session.phase = .polling)
      (current : agent.instanceId = session.instanceId) :
      Takes session agent now { session.lookUp agent with phase := .polling }
  | passes
      (polling : session.phase = .polling)
      (unchanged :
        agent.identity.id.changedSince session.seenInstance = false) :
      Takes session agent now { session with phase := .heeding }
  | notices
      (heeding : session.phase = .heeding)
      (news : agent.log.appended.changedSince session.seenAppends = true) :
      Takes session agent now
        { session with
          phase := .turning
          status := .dataReady
          seenAppends := agent.log.appended.revision }
  | tires
      (heeding : session.phase = .heeding)
      (noNews : agent.log.appended.changedSince session.seenAppends = false)
      (due : session.heartbeatDeadline ≤ now) :
      Takes session agent now { session with phase := .beating }
  | rests
      (heeding : session.phase = .heeding)
      (noNews : agent.log.appended.changedSince session.seenAppends = false)
      (notDue : now < session.heartbeatDeadline) :
      Takes session agent now { session with phase := .waiting }
  | stirs
      (waiting : session.phase = .waiting) :
      Takes session agent now { session with phase := .polling }
  | beats
      (beating : session.phase = .beating) :
      Takes session agent now (session.beat agent)

variable {session next : Session} {agent : Agent} {now : Nat} {frame : Frame}

theorem blocked_of_sending (sending : session.phase = .sending frame) :
    session.blocked = [frame] := by
  simp [blocked, sending]

/-- Without a frame to send nothing is blocked. -/
theorem blocked_of_ne (notSending : ∀ frame, session.phase ≠ .sending frame) :
    session.blocked = [] := by
  unfold blocked
  split
  next frame sending => exact absurd sending (notSending frame)
  next => rfl

theorem blocked_cases (session : Session) :
    session.blocked = [] ∨ ∃ frame, session.blocked = [frame] := by
  unfold blocked
  split
  next frame _ => exact .inr ⟨frame, rfl⟩
  next => exact .inl rfl

theorem phase_of_blocked (blockedEq : session.blocked = [frame]) :
    session.phase = .sending frame := by
  unfold blocked at blockedEq
  split at blockedEq
  next sent sending => rw [sending, (List.cons.inj blockedEq).1]
  next => simp at blockedEq

/-! ## Which steps there are -/

theorem takes_of_validate (validating : session.phase = .validating) :
    session.Takes agent now (session.validate agent) := by
  unfold validate
  split
  next fault refused => exact .rejects fault validating refused
  next terms allowed => exact .accepts terms validating allowed

theorem takes_of_place (placing : session.phase = .placing) :
    session.Takes agent now (session.place agent now) := by
  unfold place
  split
  next fault refused => exact .misplaces fault placing refused
  next cursor found => exact .places cursor placing found

theorem takes_of_turn (turning : session.phase = .turning) :
    session.Takes agent now session.turn := by
  unfold turn
  dsimp only
  split
  next unpaced => exact .hurries turning unpaced
  next deadline paced => exact .pauses deadline turning paced

theorem takes_of_check (checking : session.phase = .checking) :
    session.Takes agent now (session.check agent) := by
  unfold check
  dsimp only
  split
  next current => exact .confirms checking current
  next other => exact .replaced (.inl checking) other

theorem takes_of_read (reading : session.phase = .reading) :
    session.Takes agent now (session.read agent) := by
  unfold read
  split
  next fault failed => exact .misreads fault reading failed
  next page found => exact .reads page reading found

/-- A document that was read is sent, or found to be empty. -/
theorem takes_of_deliver
    {page : Page}
    (heading : session.phase = .heading page) :
    session.Takes agent now (session.deliver (agent.sampleOf page)) := by
  unfold deliver
  dsimp only
  split
  next isEmpty =>
    refine .drains page heading ?_
    simpa [SampleDocument.isEmpty, Agent.sampleOf] using isEmpty
  next notEmpty =>
    refine .delivers page heading ?_
    simpa [SampleDocument.isEmpty, Agent.sampleOf] using notEmpty

/-- Another history is met, or the look at the instance finds none. -/
theorem takes_of_poll (polling : session.phase = .polling) :
    session.Takes agent now (session.poll agent) := by
  unfold poll
  dsimp only
  split
  next =>
    split
    next current => exact .recovers polling current
    next other => exact .replaced (.inr polling) other
  next unchanged =>
    exact .passes polling (Bool.eq_false_iff.mpr unchanged)

/-- Something was announced, the heartbeat is due, or the session waits. -/
theorem takes_of_heed (heeding : session.phase = .heeding) :
    session.Takes agent now (session.heed agent now) := by
  unfold heed
  split
  next news => exact .notices heeding news
  next noNews =>
    split
    next due => exact .tires heeding (Bool.eq_false_iff.mpr noNews) due
    next notDue =>
      exact
        .rests heeding (Bool.eq_false_iff.mpr noNews) (Nat.lt_of_not_le notDue)

/-- These are all steps that a session takes. -/
theorem takes_of_step (stepped : session.step? agent now = some next) :
    session.Takes agent now next := by
  unfold step? at stepped
  split at stepped
  next starting => exact Option.some.inj stepped ▸ .subscribes starting
  next identifying => exact Option.some.inj stepped ▸ .identifies identifying
  next validating => exact Option.some.inj stepped ▸ takes_of_validate validating
  next placing => exact Option.some.inj stepped ▸ takes_of_place placing
  next turning => exact Option.some.inj stepped ▸ takes_of_turn turning
  next deadline pacing =>
    split at stepped
    next unwanted =>
      exact
        Option.some.inj stepped ▸ .halts (.inl ⟨deadline, pacing⟩) unwanted
    next =>
      split at stepped
      next elapsed =>
        exact Option.some.inj stepped ▸ .resumes deadline pacing elapsed
      next => cases stepped
  next checking => exact Option.some.inj stepped ▸ takes_of_check checking
  next marking => exact Option.some.inj stepped ▸ .marks marking
  next reading => exact Option.some.inj stepped ▸ takes_of_read reading
  next page heading =>
    exact Option.some.inj stepped ▸ takes_of_deliver heading
  next fault failing =>
    exact Option.some.inj stepped ▸ .reports fault failing
  next frame sending =>
    split at stepped
    next unwanted =>
      exact Option.some.inj stepped ▸ .drops frame sending unwanted
    next wanted =>
      split at stepped
      next hasRoom =>
        exact
          Option.some.inj stepped ▸
            .emits frame sending (Bool.eq_false_iff.mpr wanted) hasRoom
      next => cases stepped
  next polling =>
    split at stepped
    next unwanted =>
      exact Option.some.inj stepped ▸ .halts (.inr polling) unwanted
    next => exact Option.some.inj stepped ▸ takes_of_poll polling
  next heeding => exact Option.some.inj stepped ▸ takes_of_heed heeding
  next waiting =>
    split at stepped
    next => exact Option.some.inj stepped ▸ .stirs waiting
    next => cases stepped
  next beating => exact Option.some.inj stepped ▸ .beats beating
  next => cases stepped

/-- A session that has ended takes no step. -/
theorem phase_ne_of_step (stepped : session.step? agent now = some next) :
    session.phase ≠ .stopped := by
  intro stopped
  simp [step?, stopped] at stepped

/-! ## How a session goes on that has begun -/

/-- What stays the same once a session has found its starting point. -/
structure SameTerms (session next : Session) : Prop where
  begun : next.phase.isOpening = false
  instanceId_eq : next.instanceId = session.instanceId
  filter_eq : next.filter = session.filter
  count_eq : next.count = session.count
  stopRequested_eq : next.stopRequested = session.stopRequested
  receiverClosed_eq : next.receiverClosed = session.receiverClosed

/-- The frame that waited is dropped, and the session has ended. -/
structure Drops (session next : Session) : Prop where
  unwanted : session.stopRequested = true ∨ session.receiverClosed = true
  phase_eq : next.phase = .stopped
  queue_eq : next.queue = session.queue
  cursor_eq : next.cursor = session.cursor

/-- The frame that waited is put into the queue. -/
structure Emits (session next : Session) (frame : Frame) : Prop where
  receiverOpen : session.receiverClosed = false
  blocked_eq : next.blocked = []
  queue_eq : next.queue = session.queue.push frame
  cursor_eq : next.cursor = session.cursor

/-- No frame waited, and the cursor does not go back. -/
structure Advances (session next : Session) : Prop where
  idle : session.blocked = []
  queue_eq : next.queue = session.queue
  cursor_le : session.cursor ≤ next.cursor
  fits : ∀ frame ∈ next.blocked, frame.Fits session.count next.cursor

/-- The ways in which a session goes on. -/
inductive Goes (session next : Session) : Prop where
  | dropping
      (drops : session.Drops next)
  | emitting
      (frame : Frame)
      (sending : session.phase = .sending frame)
      (emits : session.Emits next frame)
  | advancing
      (advances : session.Advances next)

/-- A session that has begun; what it has read fits into a frame, whatever log it was read from. -/
structure Underway (session : Session) : Prop where
  counts : 0 < session.count
  page_fits :
    ∀ page,
      session.phase = .heading page →
      session.cursor ≤ page.endSequence ∧
        (page.observations.length : Int) ≤ session.count

theorem Drops.blocked_eq (drops : session.Drops next) : next.blocked = [] := by
  simp [blocked, drops.phase_eq]

theorem isUnwanted_iff :
    session.isUnwanted = true ↔
      session.stopRequested = true ∨ session.receiverClosed = true := by
  rw [isUnwanted, Bool.or_eq_true]

/-- What has been read from a log that represents a history fits into a frame. -/
theorem fits_of_range
    {history : History}
    (represents : agent.log.Represents history)
    (counts : 0 < session.count)
    {page : Page}
    (found :
      agent.log.range session.cursor none session.count session.filter =
        .ok page) :
    page.Covers history session.filter session.cursor session.count.natAbs := by
  cases accepted : agent.log.window.accepts session.cursor with
  | false =>
      rw [ObservationLog.range_of_refused accepted] at found
      cases found
  | true =>
      obtain ⟨read, readEq, _, covers⟩ :=
        represents.range_forward accepted counts session.filter
      obtain rfl := Except.ok.inj (readEq.symm.trans found)
      exact covers

/-- The cursor stays, and at most a frame without observations is made. -/
theorem Advances.of_still
    (idle : session.blocked = [])
    (queueEq : next.queue = session.queue)
    (cursorEq : next.cursor = session.cursor)
    (fits : ∀ frame ∈ next.blocked, frame.Fits session.count session.cursor) :
    session.Advances next where
  idle := idle
  queue_eq := queueEq
  cursor_le := Nat.le_of_eq cursorEq.symm
  fits := cursorEq.symm ▸ fits

/-- What a step leads to: the same terms, one of the ways on, and what the next step needs. -/
structure GoesOn (session next : Session) : Prop where
  same : session.SameTerms next
  goes : session.Goes next
  underway : next.Underway

/-- The cursor stays, no frame waited and none is made. -/
theorem GoesOn.silent
    (underway : session.Underway)
    (notSending : ∀ frame, session.phase ≠ .sending frame)
    (same : session.SameTerms next)
    (queueEq : next.queue = session.queue)
    (cursorEq : next.cursor = session.cursor)
    (silent : ∀ frame, next.phase ≠ .sending frame)
    (noPage : ∀ page, next.phase ≠ .heading page) :
    session.GoesOn next where
  same := same
  goes :=
    .advancing
      (.of_still (blocked_of_ne notSending) queueEq cursorEq
        (by simp [blocked_of_ne silent]))
  underway :=
    { counts := same.count_eq ▸ underway.counts
      page_fits := fun page heading => absurd heading (noPage page) }

/-- The cursor stays, and a frame without observations is made. -/
theorem GoesOn.making
    (underway : session.Underway)
    (notSending : ∀ frame, session.phase ≠ .sending frame)
    (same : session.SameTerms next)
    (queueEq : next.queue = session.queue)
    (cursorEq : next.cursor = session.cursor)
    (sending : next.phase = .sending frame)
    (fits : frame.Fits session.count session.cursor) :
    session.GoesOn next where
  same := same
  goes :=
    .advancing
      (.of_still (blocked_of_ne notSending) queueEq cursorEq
        (by simpa [blocked_of_sending sending] using fits))
  underway :=
    { counts := same.count_eq ▸ underway.counts
      page_fits := fun page heading => by simp [sending] at heading }

/-- The session ends, and the frame that waited is lost if there was one. -/
theorem GoesOn.halt
    (underway : session.Underway)
    (unwanted : session.isUnwanted = true) :
    session.GoesOn session.halt where
  same := ⟨rfl, rfl, rfl, rfl, rfl, rfl⟩
  goes := .dropping ⟨isUnwanted_iff.mp unwanted, rfl, rfl, rfl⟩
  underway :=
    { counts := underway.counts
      page_fits := nofun }

/-- The frame that waits goes into the queue, whatever it is. -/
theorem GoesOn.emit
    (underway : session.Underway)
    (sending : session.phase = .sending frame)
    (wanted : session.isUnwanted = false) :
    session.GoesOn (session.emit now frame) := by
  have receiverOpen : session.receiverClosed = false := by
    rw [isUnwanted, Bool.or_eq_false_iff] at wanted
    exact wanted.2
  cases frame with
  | data document =>
      exact
        { same := ⟨rfl, rfl, rfl, rfl, rfl, rfl⟩
          goes := .emitting _ sending ⟨receiverOpen, rfl, rfl, rfl⟩
          underway := ⟨underway.counts, nofun⟩ }
  | heartbeat header endSequence =>
      exact
        { same := ⟨rfl, rfl, rfl, rfl, rfl, rfl⟩
          goes := .emitting _ sending ⟨receiverOpen, rfl, rfl, rfl⟩
          underway := ⟨underway.counts, nofun⟩ }
  | failure document =>
      exact
        { same := ⟨rfl, rfl, rfl, rfl, rfl, rfl⟩
          goes := .emitting _ sending ⟨receiverOpen, rfl, rfl, rfl⟩
          underway := ⟨underway.counts, nofun⟩ }

/-- The log is read, and what was read will fit into a frame. -/
theorem GoesOn.fetch
    {history : History}
    (underway : session.Underway)
    (represents : agent.log.Represents history)
    (reading : session.phase = .reading)
    {page : Page}
    (found :
      agent.log.range session.cursor none session.count session.filter =
        .ok page) :
    session.GoesOn { session with phase := .heading page } := by
  have covers := fits_of_range represents underway.counts found
  have counts := underway.counts
  have short : (page.observations.length : Int) ≤ session.count := by
    have := covers.length_le
    omega
  exact
    { same := ⟨rfl, rfl, rfl, rfl, rfl, rfl⟩
      goes :=
        .advancing
          (.of_still (blocked_of_ne (by simp [reading])) rfl rfl nofun)
      underway :=
        { counts := counts
          page_fits := by
            rintro other ⟨⟩
            exact ⟨covers.start_le, short⟩ } }

/-- What was read gets its header, and makes a frame as it is not empty. -/
theorem GoesOn.deliver
    (underway : session.Underway)
    {page : Page}
    (heading : session.phase = .heading page)
    (something : page.observations ≠ []) :
    session.GoesOn
      ({ session with cursor := page.endSequence }.send
        (.data (agent.sampleOf page))) := by
  obtain ⟨startLe, short⟩ := underway.page_fits page heading
  refine
    { same := ⟨rfl, rfl, rfl, rfl, rfl, rfl⟩
      goes :=
        .advancing
          { idle := blocked_of_ne (by simp [heading])
            queue_eq := rfl
            cursor_le := startLe
            fits := ?_ }
      underway := ⟨underway.counts, nofun⟩ }
  intro frame member
  rw [List.mem_singleton.mp member]
  exact ⟨something, short, rfl⟩

/-- Nothing was read, and the cursor moves over it without a frame. -/
theorem GoesOn.drain
    (underway : session.Underway)
    {page : Page}
    (heading : session.phase = .heading page) :
    session.GoesOn
      { session with
        phase := .polling
        status := .heartbeatWait
        cursor := page.endSequence } where
  same := ⟨rfl, rfl, rfl, rfl, rfl, rfl⟩
  goes :=
    .advancing
      { idle := blocked_of_ne (by simp [heading])
        queue_eq := rfl
        cursor_le := (underway.page_fits page heading).1
        fits := nofun }
  underway := ⟨underway.counts, nofun⟩

/-- Every step of a session that has begun goes on in one of the ways. -/
theorem goesOn_of_step
    {history : History}
    (underway : session.Underway)
    (begun : session.phase.isOpening = false)
    (represents : agent.log.Represents history)
    (stepped : session.step? agent now = some next) :
    session.GoesOn next := by
  cases takes_of_step stepped with
  | subscribes starting => simp [starting, SessionPhase.isOpening] at begun
  | identifies identifying =>
      simp [identifying, SessionPhase.isOpening] at begun
  | accepts terms validating =>
      simp [validating, SessionPhase.isOpening] at begun
  | rejects fault validating =>
      simp [validating, SessionPhase.isOpening] at begun
  | places cursor placing => simp [placing, SessionPhase.isOpening] at begun
  | misplaces fault placing => simp [placing, SessionPhase.isOpening] at begun
  | hurries turning =>
      exact
        .silent underway (by simp [turning]) ⟨rfl, rfl, rfl, rfl, rfl, rfl⟩
          rfl rfl nofun nofun
  | pauses deadline turning =>
      exact
        .silent underway (by simp [turning]) ⟨rfl, rfl, rfl, rfl, rfl, rfl⟩
          rfl rfl nofun nofun
  | resumes deadline pacing =>
      exact
        .silent underway (by simp [pacing]) ⟨rfl, rfl, rfl, rfl, rfl, rfl⟩
          rfl rfl nofun nofun
  | confirms checking =>
      exact
        .silent underway (by simp [checking]) ⟨rfl, rfl, rfl, rfl, rfl, rfl⟩
          rfl rfl nofun nofun
  | replaced looking =>
      refine
        .silent underway ?_ ⟨rfl, rfl, rfl, rfl, rfl, rfl⟩ rfl rfl nofun nofun
      rcases looking with checking | polling
      · simp [checking]
      · simp [polling]
  | marks marking =>
      exact
        .silent underway (by simp [marking]) ⟨rfl, rfl, rfl, rfl, rfl, rfl⟩
          rfl rfl nofun nofun
  | reads page reading found => exact .fetch underway represents reading found
  | misreads fault reading =>
      exact
        .silent underway (by simp [reading]) ⟨rfl, rfl, rfl, rfl, rfl, rfl⟩
          rfl rfl nofun nofun
  | delivers page heading something => exact .deliver underway heading something
  | drains page heading nothing => exact .drain underway heading
  | reports fault failing =>
      exact
        .making underway (by simp [failing]) ⟨rfl, rfl, rfl, rfl, rfl, rfl⟩
          rfl rfl rfl trivial
  | emits frame sending wanted hasRoom => exact .emit underway sending wanted
  | drops frame sending unwanted => exact .halt underway unwanted
  | halts idling unwanted => exact .halt underway unwanted
  | recovers polling =>
      exact
        .silent underway (by simp [polling]) ⟨rfl, rfl, rfl, rfl, rfl, rfl⟩
          rfl rfl nofun nofun
  | passes polling =>
      exact
        .silent underway (by simp [polling]) ⟨rfl, rfl, rfl, rfl, rfl, rfl⟩
          rfl rfl nofun nofun
  | notices heeding =>
      exact
        .silent underway (by simp [heeding]) ⟨rfl, rfl, rfl, rfl, rfl, rfl⟩
          rfl rfl nofun nofun
  | tires heeding =>
      exact
        .silent underway (by simp [heeding]) ⟨rfl, rfl, rfl, rfl, rfl, rfl⟩
          rfl rfl nofun nofun
  | rests heeding =>
      exact
        .silent underway (by simp [heeding]) ⟨rfl, rfl, rfl, rfl, rfl, rfl⟩
          rfl rfl nofun nofun
  | stirs waiting =>
      exact
        .silent underway (by simp [waiting]) ⟨rfl, rfl, rfl, rfl, rfl, rfl⟩
          rfl rfl nofun nofun
  | beats beating =>
      exact
        .making underway (by simp [beating]) ⟨rfl, rfl, rfl, rfl, rfl, rfl⟩
          rfl rfl rfl rfl

end Session

end MTConnect
