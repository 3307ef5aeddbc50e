import MTConnect.Proofs.Stream.Opening

namespace MTConnect

/-!
# What streams lose, and what they do not

A session compares the current history with the one that it began in, and then
reads the log. These are two accesses. As long as no reset falls between them,
the frames that the session makes are the history of the instance that it began
in, cut into pieces, from its starting point up to its cursor. As long as the
stream is wanted the client has them, or they wait for it; afterwards it has
their beginning. A reset between the two makes the session read another history
as if it were its own.

Whatever happens, a frame holds what it is said to hold, the frames go through
the queue in their order, and the cursor does not go back.
-/

/-- Whether a session in a phase relies on a comparison of the histories that it has made before. -/
def SessionPhase.isMidway : SessionPhase → Bool
  | .marking => true
  | .reading => true
  | _ => false

namespace Session

/-- What a step of a session that has begun does with what it reads. -/
inductive Uses (session : Session) (agent : Agent) (next : Session) : Prop where
  /-- It takes a page from the log. -/
  | fetches
      (page : Page)
      (reading : session.phase = .reading)
      (found :
        agent.log.range session.cursor none session.count session.filter =
          .ok page)
      (next_eq : next = { session with phase := .heading page })
  /-- It makes a frame of the page that it has, if that is not empty. -/
  | spends
      (page : Page)
      (heading : session.phase = .heading page)
      (cursor_eq : next.cursor = page.endSequence)
      (observations_eq :
        next.blocked.flatMap Frame.observations = page.observations)
      (notHeading : ∀ other, next.phase ≠ .heading other)
      (notMidway : next.phase.isMidway = false)
  /-- It does neither. -/
  | keeps
      (cursor_eq : next.cursor = session.cursor)
      (observations_eq : next.blocked.flatMap Frame.observations = [])
      (notHeading : ∀ page, next.phase ≠ .heading page)
      (midway :
        next.phase.isMidway = true →
        session.phase.isMidway = true ∨ agent.instanceId = session.instanceId)

variable {session next : Session} {agent : Agent} {now : Nat}

/-- A frame that is handed over leaves none behind that waits. -/
theorem uses_of_emit (frame : Frame) :
    session.Uses agent (session.emit now frame) := by
  cases frame with
  | data document => exact .keeps rfl rfl nofun nofun
  | heartbeat header endSequence => exact .keeps rfl rfl nofun nofun
  | failure document => exact .keeps rfl rfl nofun nofun

/-- Every step of a session that has begun uses what it reads in one of these ways. -/
theorem uses_of_step
    (begun : session.phase.isOpening = false)
    (stepped : session.step? agent now = some next) :
    session.Uses agent next := by
  cases takes_of_step stepped with
  | subscribes starting =>
      rw [starting] at begun
      cases begun
  | identifies identifying =>
      rw [identifying] at begun
      cases begun
  | accepts terms validating =>
      rw [validating] at begun
      cases begun
  | rejects fault validating =>
      rw [validating] at begun
      cases begun
  | places cursor placing =>
      rw [placing] at begun
      cases begun
  | misplaces fault placing =>
      rw [placing] at begun
      cases begun
  | confirms checking current =>
      exact .keeps rfl rfl nofun fun _ => .inr current
  | marks marking =>
      exact
        .keeps rfl rfl nofun fun _ =>
          .inl (congrArg SessionPhase.isMidway marking)
  | reads page reading found => exact .fetches page reading found rfl
  | delivers page heading something =>
      exact .spends page heading rfl (List.append_nil _) nofun rfl
  | drains page heading nothing =>
      exact .spends page heading rfl nothing.symm nofun rfl
  | emits frame sending wanted hasRoom => exact uses_of_emit frame
  | _ => exact .keeps rfl rfl nofun nofun

end Session

namespace Streaming

/-- The frames that were made are a stretch of the history of an instance, cut into pieces. -/
structure Reads
    (streaming : Streaming)
    (start : StreamStart)
    (id : Nat) : Prop where
  /-- As long as the instance is the current one, all before the cursor has been logged. -/
  reached :
    streaming.chronicle.agent.instanceId = id →
    streaming.session.cursor ≤ (streaming.chronicle.annals id).next
  observations_eq :
    streaming.madeObservations =
      (streaming.chronicle.annals id).between start.filter start.cursor
        streaming.session.cursor
  /-- A page that was read goes on where the frames end. -/
  page_end_le :
    ∀ page,
      streaming.session.phase = .heading page →
      page.endSequence ≤ (streaming.chronicle.annals id).next
  page_eq :
    ∀ page,
      streaming.session.phase = .heading page →
      page.observations =
        (streaming.chronicle.annals id).between start.filter
          streaming.session.cursor page.endSequence
  /-- The comparison that the session relies on still holds. -/
  current :
    streaming.session.phase.isMidway = true →
    streaming.chronicle.agent.instanceId = id

/-- In the course of some events every reset falls while the session is in other phases. -/
def ResetsOutside
    (streaming : Streaming)
    (exposed : SessionPhase → Bool) :
    List StreamEvent → Prop
  | [] => True
  | event :: rest =>
      (event.command? = some .reset →
        exposed streaming.session.phase = false) ∧
        (streaming.after event).ResetsOutside exposed rest

variable {streaming : Streaming} {start : StreamStart} {id : Nat} {next : Session}

namespace ResetsOutside

variable {exposed : SessionPhase → Bool}

/-- What holds of resets in a run holds in its second part. -/
theorem of_append
    {earlier later : List StreamEvent}
    (outside : streaming.ResetsOutside exposed (earlier ++ later)) :
    (streaming.run earlier).ResetsOutside exposed later := by
  induction earlier generalizing streaming with
  | nil => exact outside
  | cons event rest inductionHypothesis =>
      exact inductionHypothesis outside.2

/-- Without any reset there is none in a phase of some kind. -/
theorem of_noReset
    {events : List StreamEvent}
    (noReset : .reset ∉ events.filterMap StreamEvent.command?) :
    streaming.ResetsOutside exposed events := by
  induction events generalizing streaming with
  | nil => trivial
  | cons event rest inductionHypothesis =>
      refine ⟨fun isReset => ?_, inductionHypothesis fun later => noReset ?_⟩
      · exact
          absurd (List.mem_filterMap.mpr ⟨event, List.mem_cons_self, isReset⟩)
            noReset
      · obtain ⟨other, member, told⟩ := List.mem_filterMap.mp later
        exact
          List.mem_filterMap.mpr
            ⟨other, List.mem_cons_of_mem event member, told⟩

end ResetsOutside

namespace Reads

/-- What a log holds from the cursor on goes on where the frames end. -/
theorem fetch
    (reads : streaming.Reads start id)
    (sound : streaming.Sound start id)
    {page : Page}
    (reading : streaming.session.phase = .reading)
    (found :
      streaming.agent.log.range streaming.session.cursor none
        streaming.session.count streaming.session.filter = .ok page) :
    (streaming.stepped
      { streaming.session with phase := .heading page }).Reads start id := by
  have current := reads.current (by rw [reading, SessionPhase.isMidway])
  have covers :=
    Session.fits_of_range (sound.represents current)
      sound.runs.underway.counts found
  have nothingMade :
      (streaming.stepped
        { streaming.session with phase := .heading page }).made =
          streaming.made :=
    List.append_nil _
  refine
    { reached := reads.reached
      observations_eq := ?_
      page_end_le := ?_
      page_eq := ?_
      current := nofun }
  · rw [madeObservations, nothingMade]
    exact reads.observations_eq
  · rintro other ⟨⟩
    exact covers.end_le
  · rintro other ⟨⟩
    have pageEq := covers.observations_eq
    rw [sound.runs.filter_eq] at pageEq
    exact pageEq

/-- What was read follows what the frames have held before. -/
theorem spend
    (reads : streaming.Reads start id)
    (sound : streaming.Sound start id)
    {page : Page}
    (heading : streaming.session.phase = .heading page)
    (cursorEq : next.cursor = page.endSequence)
    (observationsEq :
      next.blocked.flatMap Frame.observations = page.observations)
    (notHeading : ∀ other, next.phase ≠ .heading other)
    (notMidway : next.phase.isMidway = false) :
    (streaming.stepped next).Reads start id where
  reached := fun _ => cursorEq.symm ▸ reads.page_end_le page heading
  observations_eq := by
    have pageEq := reads.page_eq page heading
    have forward := (sound.runs.underway.page_fits page heading).1
    calc
      (streaming.stepped next).madeObservations =
          streaming.madeObservations ++
            next.blocked.flatMap Frame.observations := by
        simp [madeObservations, stepped, List.flatMap_map]
      _ = (streaming.chronicle.annals id).between start.filter start.cursor
            streaming.session.cursor ++
          (streaming.chronicle.annals id).between start.filter
            streaming.session.cursor page.endSequence := by
        rw [reads.observations_eq, observationsEq, pageEq]
      _ = (streaming.chronicle.annals id).between start.filter start.cursor
            next.cursor := by
        rw [cursorEq]
        exact
          History.between_append_between _ start.filter sound.start_le forward
  page_end_le := fun other isHeading => absurd isHeading (notHeading other)
  page_eq := fun other isHeading => absurd isHeading (notHeading other)
  current := fun midway => by simp [stepped, notMidway] at midway

/-- While the cursor stays and no observations come, nothing is read. -/
theorem keep
    (reads : streaming.Reads start id)
    (instanceIdEq : streaming.session.instanceId = id)
    (cursorEq : next.cursor = streaming.session.cursor)
    (observationsEq : next.blocked.flatMap Frame.observations = [])
    (notHeading : ∀ page, next.phase ≠ .heading page)
    (midway :
      next.phase.isMidway = true →
      streaming.session.phase.isMidway = true ∨
        streaming.agent.instanceId = streaming.session.instanceId) :
    (streaming.stepped next).Reads start id where
  reached := cursorEq.symm ▸ reads.reached
  observations_eq := by
    have madeEq :
        (streaming.stepped next).madeObservations =
          streaming.madeObservations := by
      simp [madeObservations, stepped, List.flatMap_map, observationsEq]
    rw [madeEq, reads.observations_eq]
    simp only [stepped, cursorEq]
  page_end_le := fun page heading => absurd heading (notHeading page)
  page_eq := fun page heading => absurd heading (notHeading page)
  current := by
    intro isMidway
    rcases midway isMidway with stillMidway | current
    · exact reads.current stillMidway
    · exact current.trans instanceIdEq

/-- Every step of the session keeps the frames together. -/
theorem stepped
    (reads : streaming.Reads start id)
    (sound : streaming.Sound start id)
    (stepped :
      streaming.session.step? streaming.agent streaming.now = some next) :
    (streaming.stepped next).Reads start id := by
  cases Session.uses_of_step sound.runs.begun stepped with
  | fetches page reading found nextEq =>
      rw [nextEq]
      exact reads.fetch sound reading found
  | spends page heading cursorEq observationsEq notHeading notMidway =>
      exact
        reads.spend sound heading cursorEq observationsEq notHeading notMidway
  | keeps cursorEq observationsEq notHeading midway =>
      exact
        reads.keep sound.runs.instanceId_eq cursorEq observationsEq notHeading
          midway

/-- The agent may be told anything, but a reset must not fall midway. -/
theorem perform
    (reads : streaming.Reads start id)
    (sound : streaming.Sound start id)
    {after : Streaming}
    {command : Agent.Command}
    (outside :
      command = .reset → streaming.session.phase.isMidway = false)
    (chronicleEq : after.chronicle = streaming.chronicle.perform command)
    (sessionEq : after.session = streaming.session)
    (madeEq : after.made = streaming.made) :
    after.Reads start id := by
  have grows := streaming.chronicle.next_le_perform command id
  have idLe := sound.runs.id_le
  have sameBefore
      (current :
        (streaming.chronicle.perform command).agent.instanceId = id) :
      streaming.chronicle.agent.instanceId = id := by
    have := streaming.chronicle.instanceId_le_perform command
    omega
  refine
    { reached := ?_
      observations_eq := ?_
      page_end_le := ?_
      page_eq := ?_
      current := ?_ }
  · rw [chronicleEq, sessionEq]
    exact fun current =>
      Nat.le_trans (reads.reached (sameBefore current)) grows
  · rw [madeObservations, madeEq, chronicleEq, sessionEq]
    refine reads.observations_eq.trans ?_
    by_cases current : id = streaming.chronicle.agent.instanceId
    · exact
        (Chronicle.between_perform (reads.reached current.symm) command _
          _).symm
    · rw [Chronicle.annals_perform_of_ne current]
  · rw [chronicleEq, sessionEq]
    exact fun page heading =>
      Nat.le_trans (reads.page_end_le page heading) grows
  · rw [chronicleEq, sessionEq]
    intro page heading
    rw [Chronicle.between_perform (reads.page_end_le page heading)]
    exact reads.page_eq page heading
  · rw [chronicleEq, sessionEq]
    intro midway
    have notReset : command ≠ .reset := fun isReset => by
      simp [outside isReset] at midway
    rw [streaming.chronicle.instanceId_perform_of_ne notReset]
    exact reads.current midway

/-- What does not concern the agent and the cursor leaves the frames together. -/
theorem same
    (reads : streaming.Reads start id)
    {after : Streaming}
    (chronicleEq : after.chronicle = streaming.chronicle)
    (phaseEq : after.session.phase = streaming.session.phase)
    (cursorEq : after.session.cursor = streaming.session.cursor)
    (madeEq : after.made = streaming.made) :
    after.Reads start id where
  reached := by
    rw [chronicleEq, cursorEq]
    exact reads.reached
  observations_eq := by
    rw [madeObservations, madeEq, chronicleEq, cursorEq]
    exact reads.observations_eq
  page_end_le := by
    rw [phaseEq, chronicleEq]
    exact reads.page_end_le
  page_eq := by
    rw [phaseEq, chronicleEq, cursorEq]
    exact reads.page_eq
  current := by
    rw [phaseEq, chronicleEq]
    exact reads.current

/-- Every event keeps the frames together, unless it is a reset that falls midway. -/
theorem after
    (reads : streaming.Reads start id)
    (sound : streaming.Sound start id)
    {event : StreamEvent}
    (outside :
      event.command? = some .reset →
      streaming.session.phase.isMidway = false) :
    (streaming.after event).Reads start id := by
  cases event with
  | command command =>
      exact
        reads.perform sound (fun isReset => outside (congrArg some isReset))
          rfl rfl rfl
  | enter command =>
      exact
        reads.perform sound (fun isReset => outside (congrArg some isReset))
          rfl rfl rfl
  | announce => exact reads.same rfl rfl rfl rfl
  | pass millis => exact reads.same rfl rfl rfl rfl
  | step =>
      cases stepped :
          streaming.session.step? streaming.agent streaming.now with
      | none =>
          rw [after_step_of_none stepped]
          exact reads
      | some next =>
          rw [after_step_of_some stepped]
          exact reads.stepped sound stepped
  | receive =>
      obtain ⟨queue, received, afterEq⟩ := streaming.after_receive_cases
      rw [afterEq]
      exact reads.same rfl rfl rfl rfl
  | stop => exact reads.same rfl rfl rfl rfl
  | disconnect => exact reads.same rfl rfl rfl rfl

/-- In a run in which no reset falls midway the frames stay together. -/
theorem run
    (reads : streaming.Reads start id)
    (sound : streaming.Sound start id)
    {events : List StreamEvent}
    (outside : streaming.ResetsOutside SessionPhase.isMidway events) :
    (streaming.run events).Reads start id := by
  induction events generalizing streaming with
  | nil => exact reads
  | cons event rest inductionHypothesis =>
      exact
        inductionHypothesis (reads.after sound outside.1)
          (sound.after event).1 outside.2

end Reads

/-- Where the session starts nothing has been read. -/
theorem Opening.reads
    {options : StreamOptions}
    (opening : streaming.Opening options)
    (starts : streaming.Starts start) :
    (streaming.after .step).Reads start streaming.session.instanceId := by
  rw [(opening.after_starts starts).1]
  refine
    { reached := fun current => ?_
      observations_eq := ?_
      page_end_le := nofun
      page_eq := nofun
      current := nofun }
  · -- The window in which the starting point was found is that of the history.
    obtain ⟨_, accepted⟩ := Agent.streamCursor_eq_ok_iff.mp starts.found
    have startLe := ((ObservationLog.accepts_iff _ _).mp accepted).2
    rw [(represents_agent opening.chronicle).next_eq, Chronicle.history]
      at startLe
    have current :
        streaming.chronicle.agent.instanceId =
          streaming.session.instanceId := current
    rw [current] at startLe
    exact startLe
  · simp [madeObservations, Streaming.stepped, opening.made_nil,
      Session.blocked]

/--
What a client can rely on that reads a stream whose session started at a number
of the history of an instance.
-/
structure Lossless
    (opened : Streaming)
    (events : List StreamEvent)
    (start : StreamStart)
    (id : Nat) : Prop where
  /-- The frames hold all that the filter admits from the start up to the cursor. -/
  gapless :
    opened.ResetsOutside SessionPhase.isMidway events →
    (opened.run events).IsWanted →
    (opened.run events).produced.flatMap Frame.observations =
      ((opened.run events).chronicle.annals id).between start.filter
        start.cursor (opened.run events).session.cursor
  ascending :
    opened.ResetsOutside SessionPhase.isMidway events →
    (opened.run events).IsWanted →
    ((opened.run events).produced.flatMap Frame.observations).Pairwise
      fun earlier later => earlier.sequence < later.sequence
  /-- Also after a stop nothing is missing in between. -/
  prefixed :
    opened.ResetsOutside SessionPhase.isMidway events →
    (opened.run events).channelled.flatMap Frame.observations <+:
      ((opened.run events).chronicle.annals id).between start.filter
        start.cursor (opened.run events).session.cursor
  produced_eq :
    (opened.run events).IsWanted →
    (opened.run events).produced =
      (opened.run events).made.map MadeFrame.frame
  channelled_prefix :
    (opened.run events).channelled <+:
      (opened.run events).made.map MadeFrame.frame
  fits :
    ∀ made ∈ (opened.run events).made,
      made.frame.Fits start.count made.cursor
  start_le : start.cursor ≤ (opened.run events).session.cursor
  advances :
    ∀ later,
      (opened.run events).session.cursor ≤
        (opened.run (events ++ later)).session.cursor

/-- What is wanted of a stream is what its session has made. -/
theorem Sound.produced_eq
    {id : Nat}
    (sound : streaming.Sound start id)
    (wanted : streaming.IsWanted) :
    streaming.produced = streaming.made.map MadeFrame.frame := by
  rw [← sound.delivers.nothing_dropped (.inr wanted)]
  simp [produced, channelled, sound.delivers.nothing_lost wanted.2]

/-- As long as the frames are together, so are those that are wanted. -/
theorem Reads.produced_observations
    {id : Nat}
    (reads : streaming.Reads start id)
    (sound : streaming.Sound start id)
    (wanted : streaming.IsWanted) :
    streaming.produced.flatMap Frame.observations =
      (streaming.chronicle.annals id).between start.filter start.cursor
        streaming.session.cursor := by
  rw [sound.produced_eq wanted, ← reads.observations_eq, List.flatMap_map]
  rfl

/-- However the events fall, a stream misses nothing unless a reset falls midway. -/
theorem lossless_frames
    (plan : AgentPlan)
    (begun : Timestamp)
    (options : StreamOptions)
    (earlier later : List StreamEvent)
    (start : StreamStart)
    (starts : ((opened plan begun options).run earlier).Starts start) :
    (opened plan begun options).Lossless (earlier ++ .step :: later) start
      ((opened plan begun options).run earlier).session.instanceId := by
  have opening :
      ((opened plan begun options).run earlier).Opening options := by
    refine
      (course_beside (Chronicle.sound_start plan begun) options
        earlier).opening_of_isOpening ?_
    have placing := starts.placing
    rw [opened] at placing
    rw [placing, SessionPhase.isOpening]
  have soundFirst := (opening.after_starts starts).2
  have runEq :
      (opened plan begun options).run (earlier ++ .step :: later) =
        (((opened plan begun options).run earlier).after .step).run later :=
    run_append _ _ _
  obtain ⟨sound, _⟩ := soundFirst.run later
  rw [← runEq] at sound
  have reads
      (outside :
        (opened plan begun options).ResetsOutside SessionPhase.isMidway
          (earlier ++ .step :: later)) :
      ((opened plan begun options).run (earlier ++ .step :: later)).Reads start
        ((opened plan begun options).run earlier).session.instanceId := by
    rw [runEq]
    exact (opening.reads starts).run soundFirst outside.of_append.2
  exact
    { gapless := fun outside wanted =>
        (reads outside).produced_observations sound wanted
      ascending := fun outside wanted => by
        rw [(reads outside).produced_observations sound wanted]
        exact History.between_ascending _ _ _ _
      prefixed := fun outside => by
        obtain ⟨others, split⟩ := sound.delivers.channelled_prefix
        refine ⟨others.flatMap Frame.observations, ?_⟩
        rw [← List.flatMap_append, split, ← (reads outside).observations_eq,
          List.flatMap_map]
        rfl
      produced_eq := sound.produced_eq
      channelled_prefix := sound.delivers.channelled_prefix
      fits := sound.fits
      start_le := sound.start_le
      advances := fun others => by
        have moved := (sound.run others).2
        rw [← run_append] at moved
        exact moved }

/-- A stream that begins at the second value while the first one is evicted. -/
theorem lossless_from_second_value :
    ((opened .oneItem ⟨0⟩ { start := some 2 }).run
        [.command (AgentPlan.oneItemValue "1"),
          .command (AgentPlan.oneItemValue "2"), .step, .step,
          .step]).Starts
        { filter := .all, count := 100, cursor := 2 } ∧
      (opened .oneItem ⟨0⟩ { start := some 2 }).Lossless
        ([.command (AgentPlan.oneItemValue "1"),
            .command (AgentPlan.oneItemValue "2"), .step, .step, .step] ++
          .step ::
            [.step, .step, .step, .step,
              .enter (AgentPlan.oneItemValue "3"), .step, .step, .receive,
              .announce, .command .reset, .step, .step, .step])
        { filter := .all, count := 100, cursor := 2 }
        ((opened .oneItem ⟨0⟩ { start := some 2 }).run
          [.command (AgentPlan.oneItemValue "1"),
            .command (AgentPlan.oneItemValue "2"), .step, .step,
            .step]).session.instanceId :=
  ⟨⟨rfl, rfl, rfl, rfl⟩,
    lossless_frames .oneItem ⟨0⟩ { start := some 2 }
      [.command (AgentPlan.oneItemValue "1"),
        .command (AgentPlan.oneItemValue "2"), .step, .step, .step]
      [.step, .step, .step, .step, .enter (AgentPlan.oneItemValue "3"), .step,
        .step, .receive, .announce, .command .reset, .step, .step, .step]
      { filter := .all, count := 100, cursor := 2 } ⟨rfl, rfl, rfl, rfl⟩⟩

/-- Up to the step that finds the starting point, which is the first value. -/
def beforeReading : List StreamEvent :=
  [.command (AgentPlan.oneItemValue "1"), .step, .step, .step]

/-- From then on, with a reset and another value between the comparison and the reading. -/
def readingAcross : List StreamEvent :=
  [.step, .step, .command .reset, .command (AgentPlan.oneItemValue "2"), .step,
    .step, .step]

/-- The frame then holds the value of the later instance and not that of its own. -/
theorem later_instance_read :
    ((opened .oneItem ⟨0⟩ { start := some 1 }).run beforeReading).Starts
        { filter := .all, count := 100, cursor := 1 } ∧
      ((opened .oneItem ⟨0⟩ { start := some 1 }).run
        (beforeReading ++ .step :: readingAcross)).IsWanted ∧
      ((opened .oneItem ⟨0⟩ { start := some 1 }).run
          (beforeReading ++ .step :: readingAcross)).produced.flatMap
            Frame.observations ≠
        (((opened .oneItem ⟨0⟩ { start := some 1 }).run
          (beforeReading ++ .step :: readingAcross)).chronicle.annals
            ((opened .oneItem ⟨0⟩ { start := some 1 }).run
              beforeReading).session.instanceId).between .all 1
                ((opened .oneItem ⟨0⟩ { start := some 1 }).run
                  (beforeReading ++ .step :: readingAcross)).session.cursor := by
  refine ⟨⟨rfl, rfl, rfl, rfl⟩, ⟨rfl, rfl⟩, ?_⟩
  decide

-- The client has the first value, and the second one waits for room.
example :
    (((opened .oneItem ⟨0⟩ {}).run
      [.command (AgentPlan.oneItemValue "1"), .step, .step, .step, .step,
        .step, .step, .step, .step, .step, .step,
        .command (AgentPlan.oneItemValue "2"), .receive, .step, .step, .step,
        .step, .step]).produced.flatMap Frame.observations).map
          Observation.sequence = [1, 2] := by
  rfl

end Streaming

end MTConnect
