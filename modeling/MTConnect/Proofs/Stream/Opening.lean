import MTConnect.Proofs.Stream.Run

namespace MTConnect

/-!
# How a stream begins

Before it can read, a session finds out four things, one after the other and
each in a step of its own: what has been announced, which instance is the
current one, whether its options are allowed, and whether its starting point
lies in the window. Only the third and the fourth can fail. What the third one
finds depends on the devices and the limits, which do not change, and on the
instance that the options present.

So a run takes one of three courses: the session has not found its starting
point yet, it has found it in one of its steps, or one of its steps refused the
options, and then no frame but that error comes.
-/

namespace Agent

/-- The terms of a stream outlast all commands. -/
theorem streamTerms_perform
    (chronicle : Chronicle)
    (command : Command)
    (options : StreamOptions) :
    (chronicle.perform command).agent.streamTerms options =
      chronicle.agent.streamTerms options := by
  obtain ⟨catalogEq, limitsEq⟩ := chronicle.plan_perform command
  simp only [streamTerms, checkedCount, catalogEq, limitsEq]

end Agent

namespace Session

/-- What a session finds that refuses its options. -/
inductive Refuses (session : Session) (agent : Agent) : Fault → Prop where
  | terms
      (fault : Fault)
      (validating : session.phase = .validating)
      (refused : agent.checkedTerms session.options = .error fault) :
      Refuses session agent fault
  | start
      (fault : Fault)
      (placing : session.phase = .placing)
      (refused : agent.streamCursor session.options.start = .error fault) :
      Refuses session agent fault

/-- Before it has found its starting point a session does one of three things. -/
inductive Opens (session : Session) (agent : Agent) (now : Nat) (next : Session) : Prop where
  | goesOn
      (opening : next.phase.isOpening = true)
      (next_eq :
        next = session.subscribe agent now ∨
          next = session.identify agent ∨
            session.phase = .validating ∧
              ∃ terms,
                agent.checkedTerms session.options = .ok terms ∧
                  next =
                    { session with
                      phase := .placing
                      filter := terms.filter
                      count := terms.count })
  | places
      (cursor : Nat)
      (placing : session.phase = .placing)
      (found : agent.streamCursor session.options.start = .ok cursor)
      (next_eq :
        next =
          { session with phase := .turning, cursor := cursor, lastEmit := now })
  | refuses
      (fault : Fault)
      (refuses : session.Refuses agent fault)
      (next_eq : next = session.fail fault)

variable {session next : Session} {agent : Agent} {now : Nat}

/-- A session that refuses its options was about to look at them. -/
theorem Refuses.isOpening
    {fault : Fault}
    (refuses : session.Refuses agent fault) :
    session.phase.isOpening = true := by
  cases refuses with
  | terms validating => rw [validating, SessionPhase.isOpening]
  | start placing => rw [placing, SessionPhase.isOpening]

/-- The session looks which instance is the current one. -/
theorem identify_of_identifying
    (identifying : session.phase = .identifying)
    (agent : Agent)
    (now : Nat) :
    session.step? agent now = some (session.identify agent) := by
  rw [step?, identifying]

/-- The options are allowed. -/
theorem accept_of_allowed
    (validating : session.phase = .validating)
    {terms : StreamTerms}
    (allowed : agent.checkedTerms session.options = .ok terms)
    (now : Nat) :
    session.step? agent now =
      some
        { session with
          phase := .placing
          filter := terms.filter
          count := terms.count } := by
  rw [step?, validating]
  simp only [validate, allowed]

/-- The starting point is found. -/
theorem place_of_found
    (placing : session.phase = .placing)
    {cursor : Nat}
    (found : agent.streamCursor session.options.start = .ok cursor)
    (now : Nat) :
    session.step? agent now =
      some
        { session with phase := .turning, cursor := cursor, lastEmit := now } := by
  rw [step?, placing]
  simp only [place, found]

/-- The options are refused. -/
theorem fail_of_refuses
    {fault : Fault}
    (refuses : session.Refuses agent fault)
    (now : Nat) :
    session.step? agent now = some (session.fail fault) := by
  cases refuses with
  | terms validating refused =>
      rw [step?, validating]
      simp only [validate, refused]
  | start placing refused =>
      rw [step?, placing]
      simp only [place, refused]

/-- These are the steps before the starting point is found. -/
theorem opens_of_step
    (opening : session.phase.isOpening = true)
    (stepped : session.step? agent now = some next) :
    session.Opens agent now next := by
  cases takes_of_step stepped with
  | subscribes starting => exact .goesOn rfl (.inl rfl)
  | identifies identifying => exact .goesOn rfl (.inr (.inl rfl))
  | accepts terms validating allowed =>
      exact .goesOn rfl (.inr (.inr ⟨validating, terms, allowed, rfl⟩))
  | rejects fault validating refused =>
      exact .refuses fault (.terms fault validating refused) rfl
  | places cursor placing found => exact .places cursor placing found rfl
  | misplaces fault placing refused =>
      exact .refuses fault (.start fault placing refused) rfl
  | hurries turning => simp [turning, SessionPhase.isOpening] at opening
  | pauses deadline turning =>
      simp [turning, SessionPhase.isOpening] at opening
  | resumes deadline pacing => simp [pacing, SessionPhase.isOpening] at opening
  | confirms checking => simp [checking, SessionPhase.isOpening] at opening
  | replaced looking =>
      rcases looking with checking | polling
      · simp [checking, SessionPhase.isOpening] at opening
      · simp [polling, SessionPhase.isOpening] at opening
  | marks marking => simp [marking, SessionPhase.isOpening] at opening
  | reads page reading => simp [reading, SessionPhase.isOpening] at opening
  | misreads fault reading => simp [reading, SessionPhase.isOpening] at opening
  | delivers page heading => simp [heading, SessionPhase.isOpening] at opening
  | drains page heading => simp [heading, SessionPhase.isOpening] at opening
  | reports fault failing => simp [failing, SessionPhase.isOpening] at opening
  | emits frame sending => simp [sending, SessionPhase.isOpening] at opening
  | drops frame sending => simp [sending, SessionPhase.isOpening] at opening
  | halts idling =>
      rcases idling with ⟨deadline, pacing⟩ | polling
      · simp [pacing, SessionPhase.isOpening] at opening
      · simp [polling, SessionPhase.isOpening] at opening
  | recovers polling => simp [polling, SessionPhase.isOpening] at opening
  | passes polling => simp [polling, SessionPhase.isOpening] at opening
  | notices heeding => simp [heeding, SessionPhase.isOpening] at opening
  | tires heeding => simp [heeding, SessionPhase.isOpening] at opening
  | rests heeding => simp [heeding, SessionPhase.isOpening] at opening
  | stirs waiting => simp [waiting, SessionPhase.isOpening] at opening
  | beats beating => simp [beating, SessionPhase.isOpening] at opening

/-- A session that has begun does not begin again. -/
theorem begun_of_step
    (begun : session.phase.isOpening = false)
    (stepped : session.step? agent now = some next) :
    next.phase.isOpening = false := by
  cases takes_of_step stepped with
  | subscribes starting => simp [starting, SessionPhase.isOpening] at begun
  | identifies identifying =>
      simp [identifying, SessionPhase.isOpening] at begun
  | accepts terms validating =>
      simp [validating, SessionPhase.isOpening] at begun
  | emits frame sending wanted hasRoom => cases frame <;> rfl
  | _ => rfl

end Session

namespace Streaming

/-- The session has not found its starting point yet. -/
structure Opening (streaming : Streaming) (options : StreamOptions) : Prop where
  chronicle : streaming.chronicle.Sound
  opening : streaming.session.phase.isOpening = true
  options_eq : streaming.session.options = options
  /-- No instance comes back that was current before. -/
  id_le : streaming.session.instanceId ≤ streaming.chronicle.agent.instanceId
  counts : 0 < streaming.session.count
  /-- Once the options are checked the session knows its terms. -/
  terms_eq :
    streaming.session.phase = .placing →
    streaming.chronicle.agent.streamTerms options =
      .ok
        { filter := streaming.session.filter
          count := streaming.session.count }
  cursor_eq : streaming.session.cursor = 0
  lastData_eq : streaming.session.lastData = none
  queue_nil : streaming.session.queue.toList = []
  received_nil : streaming.received = []
  lost_nil : streaming.lost = []
  made_nil : streaming.made = []

/-- The next step of the session finds its starting point. -/
structure Starts (streaming : Streaming) (start : StreamStart) : Prop where
  placing : streaming.session.phase = .placing
  filter_eq : streaming.session.filter = start.filter
  count_eq : streaming.session.count = start.count
  found :
    streaming.agent.streamCursor streaming.session.options.start =
      .ok start.cursor

/-- What has become of a stream in the course of some events. -/
inductive Course
    (streaming : Streaming)
    (options : StreamOptions)
    (events : List StreamEvent) : Prop where
  | opening
      (opening : (streaming.run events).Opening options)
  /-- One of the steps found the starting point. -/
  | started
      (start : StreamStart)
      (before after : List StreamEvent)
      (events_eq : events = before ++ .step :: after)
      (opening : (streaming.run before).Opening options)
      (starts : (streaming.run before).Starts start)
  /-- One of the steps refused the options. -/
  | refused
      (fault : Fault)
      (before after : List StreamEvent)
      (events_eq : events = before ++ .step :: after)
      (opening : (streaming.run before).Opening options)
      (refuses :
        (streaming.run before).session.Refuses (streaming.run before).agent
          fault)

variable
  {streaming : Streaming}
  {chronicle : Chronicle}
  {options : StreamOptions}
  {start : StreamStart}
  {fault : Fault}
  {next : Session}

namespace Opening

/-- A session beside an agent begins at the beginning. -/
theorem beside
    (sound : chronicle.Sound)
    (options : StreamOptions) :
    (Streaming.beside chronicle options).Opening options where
  chronicle := sound
  opening := rfl
  options_eq := rfl
  id_le := Nat.zero_le _
  counts := Int.zero_lt_one
  terms_eq := nofun
  cursor_eq := rfl
  lastData_eq := rfl
  queue_nil := rfl
  received_nil := rfl
  lost_nil := rfl
  made_nil := rfl

/-- Nothing has been put into the queue yet. -/
theorem channelled_nil (opening : streaming.Opening options) :
    streaming.channelled = [] := by
  simp [channelled, opening.received_nil, opening.lost_nil, opening.queue_nil]

/-- A session that has not found its starting point sends nothing. -/
theorem blocked_nil (opening : streaming.Opening options) :
    streaming.session.blocked = [] := by
  refine Session.blocked_of_ne fun frame sending => ?_
  have isOpening := opening.opening
  rw [sending] at isOpening
  cases isOpening

/-- There is nothing to put into the queue. -/
theorem delivers (opening : streaming.Opening options) :
    streaming.Delivers where
  channelled_prefix := by simp [opening.channelled_nil]
  nothing_dropped := by
    simp [opening.channelled_nil, opening.blocked_nil, opening.made_nil]
  nothing_lost := fun _ => opening.lost_nil
  queue_nil := fun _ => opening.queue_nil

/-- Whatever the agent is told, the session is where it was. -/
theorem perform
    (opening : streaming.Opening options)
    (command : Agent.Command)
    {after : Streaming}
    (chronicleEq : after.chronicle = streaming.chronicle.perform command)
    (sessionEq : after.session = streaming.session)
    (receivedEq : after.received = streaming.received)
    (lostEq : after.lost = streaming.lost)
    (madeEq : after.made = streaming.made) :
    after.Opening options where
  chronicle := chronicleEq ▸ opening.chronicle.perform command
  opening := sessionEq ▸ opening.opening
  options_eq := sessionEq ▸ opening.options_eq
  id_le := by
    rw [sessionEq, chronicleEq]
    exact
      Nat.le_trans opening.id_le
        (streaming.chronicle.instanceId_le_perform command)
  counts := sessionEq ▸ opening.counts
  terms_eq := by
    rw [sessionEq, chronicleEq, Agent.streamTerms_perform]
    exact opening.terms_eq
  cursor_eq := sessionEq ▸ opening.cursor_eq
  lastData_eq := sessionEq ▸ opening.lastData_eq
  queue_nil := sessionEq ▸ opening.queue_nil
  received_nil := receivedEq.trans opening.received_nil
  lost_nil := lostEq.trans opening.lost_nil
  made_nil := madeEq.trans opening.made_nil

/-- Nothing but a step brings the session nearer to its starting point. -/
theorem after
    (opening : streaming.Opening options)
    {event : StreamEvent}
    (noStep : event ≠ .step) :
    (streaming.after event).Opening options := by
  cases event with
  | command command => exact opening.perform command rfl rfl rfl rfl rfl
  | enter command => exact opening.perform command rfl rfl rfl rfl rfl
  | announce => exact { opening with }
  | pass millis => exact { opening with }
  | step => exact absurd rfl noStep
  | receive =>
      rw [after_receive_of_none (Queue.pop?_eq_none opening.queue_nil)]
      exact opening
  | stop => exact { opening with }
  | disconnect =>
      exact
        { opening with
          queue_nil := rfl
          lost_nil := by
            simp [Streaming.after, opening.lost_nil, opening.queue_nil] }

/-- The first three steps, if the options are allowed. -/
theorem goOn
    (opening : streaming.Opening options)
    (isOpening : next.phase.isOpening = true)
    (nextEq :
      next = streaming.session.subscribe streaming.agent streaming.now ∨
        next = streaming.session.identify streaming.agent ∨
          streaming.session.phase = .validating ∧
            ∃ terms,
              streaming.agent.checkedTerms streaming.session.options =
                  .ok terms ∧
                next =
                  { streaming.session with
                    phase := .placing
                    filter := terms.filter
                    count := terms.count }) :
    (streaming.stepped next).Opening options := by
  have madeNil : (streaming.stepped next).made = [] := by
    have silent : next.blocked = [] := by
      refine Session.blocked_of_ne fun frame sending => ?_
      rw [sending] at isOpening
      cases isOpening
    change streaming.made ++ next.blocked.map _ = []
    rw [silent, opening.made_nil]
    rfl
  rcases nextEq with rfl | rfl | ⟨validating, terms, allowed, rfl⟩
  · exact { opening with opening := rfl, terms_eq := nofun, made_nil := madeNil }
  · exact
      { opening with
        opening := rfl
        id_le := Nat.le_refl _
        terms_eq := nofun
        made_nil := madeNil }
  · obtain ⟨presented, termsEq⟩ := Agent.checkedTerms_eq_ok_iff.mp allowed
    exact
      { opening with
        opening := rfl
        counts := Agent.pos_of_streamTerms termsEq
        terms_eq := fun _ => opening.options_eq ▸ termsEq
        made_nil := madeNil }

/-- A session that has begun on some terms, and that has not made a frame yet. -/
theorem sound
    (opening : streaming.Opening options)
    (begun : next.phase.isOpening = false)
    (silent : next.blocked = [])
    (notHeading : ∀ page, next.phase ≠ .heading page)
    (counts : 0 < start.count)
    (instanceIdEq : next.instanceId = streaming.session.instanceId)
    (filterEq : next.filter = start.filter)
    (countEq : next.count = start.count)
    (cursorEq : next.cursor = start.cursor)
    (queueEq : next.queue = streaming.session.queue) :
    (streaming.stepped next).Sound start streaming.session.instanceId := by
  have madeNil : (streaming.stepped next).made = [] := by
    rw [Streaming.stepped, silent]
    simp [opening.made_nil]
  have queueNil : next.queue.toList = [] := by
    rw [queueEq]
    exact opening.queue_nil
  have channelledNil : (streaming.stepped next).channelled = [] := by
    simp [channelled, Streaming.stepped, opening.received_nil,
      opening.lost_nil, queueNil]
  exact
    { runs :=
        { chronicle := opening.chronicle
          begun := begun
          underway :=
            { counts := countEq.symm ▸ counts
              page_fits := fun page heading =>
                absurd heading (notHeading page) }
          instanceId_eq := instanceIdEq
          id_le := opening.id_le
          filter_eq := filterEq
          count_eq := countEq }
      start_le := Nat.le_of_eq cursorEq.symm
      fits := by simp [madeNil]
      delivers :=
        { channelled_prefix := by simp [channelledNil]
          nothing_dropped := fun _ => by
            rw [channelledNil, madeNil]
            exact silent
          nothing_lost := fun _ => opening.lost_nil
          queue_nil := fun _ => queueNil } }

/-- The step that finds the starting point. -/
theorem after_starts
    (opening : streaming.Opening options)
    (starts : streaming.Starts start) :
    streaming.after .step =
        streaming.stepped
          { streaming.session with
            phase := .turning
            cursor := start.cursor
            lastEmit := streaming.now } ∧
      (streaming.after .step).Sound start streaming.session.instanceId := by
  have stepEq :
      streaming.after .step =
        streaming.stepped
          { streaming.session with
            phase := .turning
            cursor := start.cursor
            lastEmit := streaming.now } := by
    exact
      after_step_of_some (Session.place_of_found starts.placing starts.found _)
  refine ⟨stepEq, ?_⟩
  rw [stepEq]
  exact
    opening.sound rfl rfl nofun (starts.count_eq ▸ opening.counts) rfl
      starts.filter_eq starts.count_eq rfl rfl

/-- The step that refuses the options. -/
theorem after_refuses
    (opening : streaming.Opening options)
    (refuses : streaming.session.Refuses streaming.agent fault) :
    streaming.after .step = streaming.stepped (streaming.session.fail fault) ∧
      (streaming.after .step).Sound
        { filter := streaming.session.filter
          count := streaming.session.count
          cursor := 0 }
        streaming.session.instanceId := by
  have stepEq :
      streaming.after .step =
        streaming.stepped (streaming.session.fail fault) := by
    exact after_step_of_some (Session.fail_of_refuses refuses _)
  refine ⟨stepEq, ?_⟩
  rw [stepEq]
  exact
    opening.sound rfl rfl nofun opening.counts rfl rfl rfl opening.cursor_eq
      rfl

/-- A step either leaves the session opening, or ends that in one of two ways. -/
theorem after_step
    (opening : streaming.Opening options) :
    (streaming.after .step).Opening options ∨
      (∃ start, streaming.Starts start) ∨
        ∃ fault, streaming.session.Refuses streaming.agent fault := by
  cases stepped : streaming.session.step? streaming.agent streaming.now with
  | none =>
      rw [after_step_of_none stepped]
      exact .inl opening
  | some next =>
      cases Session.opens_of_step opening.opening stepped with
      | goesOn isOpening nextEq =>
          rw [after_step_of_some stepped]
          exact .inl (opening.goOn isOpening nextEq)
      | places cursor placing found =>
          exact
            .inr
              (.inl
                ⟨{ filter := streaming.session.filter
                   count := streaming.session.count
                   cursor := cursor },
                  ⟨placing, rfl, rfl, found⟩⟩)
      | refuses fault refuses => exact .inr (.inr ⟨fault, refuses⟩)

/-- However the events fall, the stream takes one of the courses. -/
theorem course
    (opening : streaming.Opening options)
    (events : List StreamEvent) :
    streaming.Course options events := by
  induction events generalizing streaming with
  | nil => exact .opening opening
  | cons event rest inductionHypothesis =>
      have goesOn (stillOpening : (streaming.after event).Opening options) :
          streaming.Course options (event :: rest) := by
        cases inductionHypothesis stillOpening with
        | opening opening => exact .opening opening
        | started start before after eventsEq opening starts =>
            exact
              .started start (event :: before) after
                (congrArg (event :: ·) eventsEq) opening starts
        | refused fault before after eventsEq opening refuses =>
            exact
              .refused fault (event :: before) after
                (congrArg (event :: ·) eventsEq) opening refuses
      by_cases isStep : event = .step
      · subst isStep
        rcases opening.after_step with
          stillOpening | ⟨start, starts⟩ | ⟨fault, refuses⟩
        · exact goesOn stillOpening
        · exact .started start [] rest rfl opening starts
        · exact .refused fault [] rest rfl opening refuses
      · exact goesOn (opening.after isStep)

end Opening

namespace Course

variable {events : List StreamEvent}

/-- A session that has begun runs on some terms. -/
theorem opening_or_sound (course : streaming.Course options events) :
    (streaming.run events).Opening options ∨
      ∃ start id, (streaming.run events).Sound start id := by
  cases course with
  | opening opening => exact .inl opening
  | started start before after eventsEq opening starts =>
      rw [eventsEq, run_append]
      exact .inr ⟨_, _, ((opening.after_starts starts).2.run after).1⟩
  | refused fault before after eventsEq opening refuses =>
      rw [eventsEq, run_append]
      exact .inr ⟨_, _, ((opening.after_refuses refuses).2.run after).1⟩

/-- A session that is about to find something out has not begun. -/
theorem opening_of_isOpening
    (course : streaming.Course options events)
    (isOpening : (streaming.run events).session.phase.isOpening = true) :
    (streaming.run events).Opening options := by
  rcases course.opening_or_sound with opening | ⟨start, id, sound⟩
  · exact opening
  · have begun := sound.runs.begun
    rw [isOpening] at begun
    cases begun

/-- Whatever happens, the frames go through the queue in their order. -/
theorem delivers (course : streaming.Course options events) :
    (streaming.run events).Delivers := by
  rcases course.opening_or_sound with opening | ⟨start, id, sound⟩
  · exact opening.delivers
  · exact sound.delivers

/-- The agent and its annals agree in every run. -/
theorem chronicle_sound (course : streaming.Course options events) :
    (streaming.run events).chronicle.Sound := by
  rcases course.opening_or_sound with opening | ⟨start, id, sound⟩
  · exact opening.chronicle
  · exact sound.runs.chronicle

end Course

/-- Every run of a session beside an agent takes one of the courses. -/
theorem course_beside
    (sound : chronicle.Sound)
    (options : StreamOptions)
    (events : List StreamEvent) :
    (beside chronicle options).Course options events :=
  (Opening.beside sound options).course events

end Streaming

end MTConnect
