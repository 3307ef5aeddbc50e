import MTConnect.Proofs.Stream.Attention

namespace MTConnect

/-!
# How a stream ends

The frames of a stream are data and heartbeats, in any order, and then an
error at most. The error, if there is one, has one of three causes, which a step
of the session met before it made the error: the options were refused, in which
case it is the only frame; the instance had been replaced; or the log did not
accept the cursor.

A session compares the histories before it reads and before it makes a
heartbeat, and relies on the comparison for some steps. As long as no reset
falls between these, all frames speak of the instance that the session began in,
and the log refuses the cursor only where it has let go of the observations. A
reset that falls there makes the session put another instance into its frames,
or end as if it had been too slow.
-/

/-- Frames as a stream brings them: data and heartbeats, then an error at most. -/
inductive IsFrameWord : List Frame → Prop where
  | nil : IsFrameWord []
  | data
      (document : SampleDocument)
      {rest : List Frame} :
      IsFrameWord rest →
      IsFrameWord (.data document :: rest)
  | heartbeat
      (header : Header)
      (endSequence : Nat)
      {rest : List Frame} :
      IsFrameWord rest →
      IsFrameWord (.heartbeat header endSequence :: rest)
  | failure (document : ErrorDocument) :
      IsFrameWord [.failure document]

namespace IsFrameWord

/-- As long as no error has come, any frame may follow. -/
theorem concat
    {frames : List Frame}
    (flowing : ∀ frame ∈ frames, frame.isLast = false)
    (frame : Frame) :
    IsFrameWord (frames ++ [frame]) := by
  induction frames with
  | nil =>
      cases frame with
      | data document => exact .data document .nil
      | heartbeat header endSequence => exact .heartbeat header endSequence .nil
      | failure document => exact .failure document
  | cons first rest inductionHypothesis =>
      have restWord :=
        inductionHypothesis fun frame member =>
          flowing frame (List.mem_cons_of_mem first member)
      have firstFlows := flowing first List.mem_cons_self
      cases first with
      | data document => exact .data document restWord
      | heartbeat header endSequence =>
          exact .heartbeat header endSequence restWord
      | failure document => simp [Frame.isLast] at firstFlows

/-- A beginning of such frames is such frames. -/
theorem of_prefix
    {front frames : List Frame}
    (word : IsFrameWord frames)
    (beginning : front <+: frames) :
    IsFrameWord front := by
  induction word generalizing front with
  | nil =>
      rw [List.prefix_nil.mp beginning]
      exact .nil
  | data document _ inductionHypothesis =>
      rcases List.prefix_cons_iff.mp beginning with rfl | ⟨rest, rfl, inRest⟩
      · exact .nil
      · exact .data document (inductionHypothesis inRest)
  | heartbeat header endSequence _ inductionHypothesis =>
      rcases List.prefix_cons_iff.mp beginning with rfl | ⟨rest, rfl, inRest⟩
      · exact .nil
      · exact .heartbeat header endSequence (inductionHypothesis inRest)
  | failure document =>
      rcases List.prefix_cons_iff.mp beginning with rfl | ⟨rest, rfl, inRest⟩
      · exact .nil
      · rw [List.prefix_nil.mp inRest]
        exact .failure document

end IsFrameWord

/-- Whether a session in a phase relies on a comparison of the histories, or goes on to a header. -/
def SessionPhase.isExposed : SessionPhase → Bool
  | .marking => true
  | .reading => true
  | .heading _ => true
  | .heeding => true
  | .beating => true
  | _ => false

/-- Whether a session in a phase knows the instance that it began in. -/
def SessionPhase.isIdentified : SessionPhase → Bool
  | .starting => false
  | .identifying => false
  | _ => true

namespace ObservationLog

/-- Reading on fails only where the log does not accept the number. -/
theorem refused_of_range
    {log : ObservationLog}
    {history : History}
    (represents : log.Represents history)
    {cursor : Nat}
    {count : Int}
    (positive : 0 < count)
    {filter : ObservationFilter}
    {fault : Fault}
    (failed : log.range cursor none count filter = .error fault) :
    log.window.accepts cursor = false ∧
      fault = .outOfRange cursor log.first log.next := by
  cases accepted : log.window.accepts cursor with
  | false =>
      rw [range_of_refused accepted] at failed
      exact ⟨rfl, (Except.error.inj failed).symm⟩
  | true =>
      obtain ⟨page, read, _⟩ :=
        represents.range_forward accepted positive filter
      rw [read] at failed
      cases failed

end ObservationLog

namespace Session

variable {session next : Session} {agent : Agent} {now : Nat}

/-- Once a session knows the instance that it began in, it does not forget it. -/
theorem identified_of_step
    (identified : session.phase.isIdentified = true)
    (stepped : session.step? agent now = some next) :
    next.phase.isIdentified = true ∧
      next.instanceId = session.instanceId := by
  cases takes_of_step stepped with
  | subscribes starting =>
      simp [starting, SessionPhase.isIdentified] at identified
  | identifies identifying =>
      simp [identifying, SessionPhase.isIdentified] at identified
  | emits frame sending wanted hasRoom =>
      cases frame with
      | data document => exact ⟨rfl, rfl⟩
      | heartbeat header endSequence => exact ⟨rfl, rfl⟩
      | failure document => exact ⟨rfl, rfl⟩
  | _ => exact ⟨rfl, rfl⟩

/-- A session becomes exposed only when it has found its history to be the current one. -/
theorem exposed_of_step
    {withheld : Nat}
    (watches : session.Watches agent withheld)
    (current :
      session.phase.isExposed = true →
      agent.instanceId = session.instanceId)
    (stepped :
      session.step? (agent.withholding withheld) now = some next)
    (exposed : next.phase.isExposed = true) :
    agent.instanceId = next.instanceId := by
  cases takes_of_step stepped with
  | confirms checking isCurrent => exact isCurrent
  | marks marking =>
      exact current (by rw [marking, SessionPhase.isExposed])
  | reads page reading =>
      exact current (by rw [reading, SessionPhase.isExposed])
  | passes polling unchanged =>
      exact
        watches.current (alert_of polling rfl)
          (Signal.changedSince_eq_false_iff.mp unchanged)
  | tires heeding =>
      exact current (by rw [heeding, SessionPhase.isExposed])
  | emits frame sending wanted hasRoom =>
      cases frame with
      | data document => cases exposed
      | heartbeat header endSequence => cases exposed
      | failure document => cases exposed
  | _ => cases exposed

end Session

namespace Streaming

/-! ## The order of the frames -/

/-- The frames that were made so far stand in the order of a stream. -/
structure Orderly (streaming : Streaming) : Prop where
  word : IsFrameWord (streaming.made.map MadeFrame.frame)
  flowing :
    streaming.session.phase.isOver = false →
    ∀ made ∈ streaming.made, made.frame.isLast = false

variable
  {streaming : Streaming}
  {chronicle : Chronicle}
  {options : StreamOptions}
  {events : List StreamEvent}

namespace Orderly

/-- An event adds a frame at the end at most, and none behind an error. -/
theorem after
    (orderly : streaming.Orderly)
    (event : StreamEvent) :
    (streaming.after event).Orderly := by
  have stays (ended : streaming.session.phase.isOver = true) :=
    isOver_after ended event
  rcases streaming.made_after event with same | ⟨rfl, made, making⟩
  · refine ⟨same ▸ orderly.word, fun goesOn => ?_⟩
    rw [same]
    refine orderly.flowing (Bool.eq_false_iff.mpr fun ended => ?_)
    simp [(stays ended).1] at goesOn
  · -- A session that is over would have made nothing.
    have goesOn : streaming.session.phase.isOver = false := by
      refine Bool.eq_false_iff.mpr fun ended => ?_
      have := (stays ended).2
      simp [making.made_eq] at this
    have flowing := orderly.flowing goesOn
    refine ⟨?_, fun stillGoesOn earlier member => ?_⟩
    · rw [making.made_eq, List.map_append]
      refine .concat ?_ made.frame
      intro frame member
      obtain ⟨earlier, inMade, rfl⟩ := List.mem_map.mp member
      exact flowing earlier inMade
    · rw [making.made_eq] at member
      rcases List.mem_append.mp member with inMade | isNew
      · exact flowing earlier inMade
      · rw [Session.phase_of_blocked making.blocked_eq] at stillGoesOn
        rw [List.mem_singleton.mp isNew]
        cases shape : made.frame with
        | data document => rfl
        | heartbeat header endSequence => rfl
        | failure document => simp [shape, SessionPhase.isOver] at stillGoesOn

/-- In every run the frames keep that order. -/
theorem run
    (orderly : streaming.Orderly)
    (events : List StreamEvent) :
    (streaming.run events).Orderly := by
  induction events generalizing streaming with
  | nil => exact orderly
  | cons event rest inductionHypothesis =>
      exact inductionHypothesis (orderly.after event)

/-- Before the session begins there are no frames. -/
theorem beside (chronicle : Chronicle) (options : StreamOptions) :
    (Streaming.beside chronicle options).Orderly where
  word := .nil
  flowing := fun _ _ member => nomatch member

end Orderly

/-! ## The instance that a session speaks of -/

/-- What holds of resets in a run holds in its first part. -/
theorem ResetsOutside.left
    {exposed : SessionPhase → Bool}
    {earlier later : List StreamEvent}
    (outside : streaming.ResetsOutside exposed (earlier ++ later)) :
    streaming.ResetsOutside exposed earlier := by
  induction earlier generalizing streaming with
  | nil => trivial
  | cons event rest inductionHypothesis =>
      exact ⟨outside.1, inductionHypothesis outside.2⟩

/-- Once the session knows the instance that it began in, it does not forget it. -/
theorem identified_after
    (identified : streaming.session.phase.isIdentified = true)
    (event : StreamEvent) :
    (streaming.after event).session.phase.isIdentified = true ∧
      (streaming.after event).session.instanceId =
        streaming.session.instanceId := by
  cases event with
  | step =>
      cases stepped :
          streaming.session.step? streaming.agent streaming.now with
      | none =>
          rw [after_step_of_none stepped]
          exact ⟨identified, rfl⟩
      | some next =>
          rw [after_step_of_some stepped]
          exact Session.identified_of_step identified stepped
  | receive =>
      obtain ⟨queue, received, afterEq⟩ := streaming.after_receive_cases
      rw [afterEq]
      exact ⟨identified, rfl⟩
  | _ => exact ⟨identified, rfl⟩

/-- Whatever happens, a session speaks of one instance as its own. -/
theorem identified_run
    (identified : streaming.session.phase.isIdentified = true)
    (events : List StreamEvent) :
    (streaming.run events).session.instanceId =
      streaming.session.instanceId := by
  induction events generalizing streaming with
  | nil => rfl
  | cons event rest inductionHypothesis =>
      obtain ⟨stillIdentified, sameId⟩ := identified_after identified event
      exact (inductionHypothesis stillIdentified).trans sameId

/-- In a run up to some event the session speaks of the same instance as in the whole run. -/
theorem instanceId_eq_of_identified
    {before after : List StreamEvent}
    (eventsEq : events = before ++ after)
    (identified :
      (streaming.run before).session.phase.isIdentified = true) :
    (streaming.run before).session.instanceId =
      (streaming.run events).session.instanceId := by
  rw [eventsEq, run_append]
  exact (identified_run identified after).symm

/-- While the session is exposed its history is the current one. -/
def IsShielded (streaming : Streaming) : Prop :=
  streaming.session.phase.isExposed = true →
  streaming.chronicle.agent.instanceId = streaming.session.instanceId

/-- A reset that falls while the session is not exposed leaves it shielded. -/
theorem IsShielded.after
    (shielded : streaming.IsShielded)
    (watchful : streaming.Watchful)
    {event : StreamEvent}
    (outside :
      event.command? = some .reset →
      streaming.session.phase.isExposed = false) :
    (streaming.after event).IsShielded := by
  have perform
      {command : Agent.Command}
      (told : event.command? = some command)
      (exposed : streaming.session.phase.isExposed = true) :
      (streaming.chronicle.perform command).agent.instanceId =
        streaming.session.instanceId := by
    have notReset : command ≠ .reset := fun isReset => by
      simp [outside (told.trans (congrArg some isReset))] at exposed
    rw [streaming.chronicle.instanceId_perform_of_ne notReset]
    exact shielded exposed
  cases event with
  | command command => exact perform rfl
  | enter command => exact perform rfl
  | step =>
      cases stepped :
          streaming.session.step? streaming.agent streaming.now with
      | none =>
          rw [after_step_of_none stepped]
          exact shielded
      | some next =>
          rw [after_step_of_some stepped]
          exact Session.exposed_of_step watchful.watches shielded stepped
  | receive =>
      obtain ⟨queue, received, afterEq⟩ := streaming.after_receive_cases
      rw [afterEq]
      exact shielded
  | _ => exact shielded

/-- As long as no reset falls while the session is exposed, it stays shielded. -/
theorem IsShielded.run
    (shielded : streaming.IsShielded)
    (watchful : streaming.Watchful)
    (outside :
      streaming.ResetsOutside SessionPhase.isExposed events) :
    (streaming.run events).IsShielded := by
  induction events generalizing streaming with
  | nil => exact shielded
  | cons event rest inductionHypothesis =>
      exact
        inductionHypothesis (shielded.after watchful outside.1)
          (watchful.after event) outside.2

/-! ## The error at the end -/

/-- A session that has met a fault tells of it, and of nothing else. -/
theorem failing_run
    {fault : Fault}
    (failing : streaming.session.phase = .failing fault)
    (events : List StreamEvent) :
    (streaming.run events).made = streaming.made ∨
      ∃ before after,
        events = before ++ .step :: after ∧
          (streaming.run events).made.map MadeFrame.frame =
            streaming.made.map MadeFrame.frame ++
              [.failure
                ((streaming.run before).agent.errorDocument fault)] := by
  induction events generalizing streaming with
  | nil => exact .inl rfl
  | cons event rest inductionHypothesis =>
      by_cases isStep : event = .step
      · subst isStep
        have stepEq :
            streaming.after .step =
              streaming.stepped
                (streaming.session.report streaming.agent fault) := by
          apply after_step_of_some
          simp [Session.step?, failing]
        have ended : (streaming.after .step).session.phase.isOver = true := by
          rw [stepEq]
          rfl
        refine .inr ⟨[], rest, rfl, ?_⟩
        have madeEq := (isOver_run ended rest).2
        rw [stepEq] at madeEq
        calc
          (streaming.run (.step :: rest)).made.map MadeFrame.frame =
              ((streaming.stepped
                (streaming.session.report streaming.agent
                  fault)).run rest).made.map MadeFrame.frame := by
            rw [← stepEq]
            rfl
          _ = streaming.made.map MadeFrame.frame ++
                [.failure (streaming.agent.errorDocument fault)] := by
            rw [madeEq]
            simp [Streaming.stepped, Session.report, Session.send,
              Session.blocked]
      · have same :
            (streaming.after event).session.phase = .failing fault ∧
              (streaming.after event).made = streaming.made := by
          cases event with
          | step => exact absurd rfl isStep
          | receive =>
              obtain ⟨queue, received, afterEq⟩ :=
                streaming.after_receive_cases
              rw [afterEq]
              exact ⟨failing, rfl⟩
          | _ => exact ⟨failing, rfl⟩
        rcases inductionHypothesis same.1 with
          nothingMade | ⟨before, after, eventsEq, madeEq⟩
        · exact .inl (nothingMade.trans same.2)
        · refine
            .inr ⟨event :: before, after, congrArg (event :: ·) eventsEq, ?_⟩
          rw [← same.2]
          exact madeEq

/-- Why a stream ends with an error. -/
inductive BreaksOff
    (opened : Streaming)
    (events : List StreamEvent) : ErrorDocument → Prop where
  /-- The options were refused, and nothing else comes. -/
  | refused
      (fault : Fault)
      (before between after : List StreamEvent)
      (events_eq : events = before ++ .step :: (between ++ .step :: after))
      (refuses :
        (opened.run before).session.Refuses (opened.run before).agent fault)
      (only :
        (opened.run events).made.map MadeFrame.frame =
          [.failure
            ((opened.run (before ++ .step :: between)).agent.errorDocument
              fault)]) :
      BreaksOff opened events
        ((opened.run (before ++ .step :: between)).agent.errorDocument fault)
  /-- The instance had been replaced. -/
  | replaced
      (before between after : List StreamEvent)
      (events_eq : events = before ++ .step :: (between ++ .step :: after))
      (other :
        (opened.run before).agent.instanceId ≠
          (opened.run events).session.instanceId) :
      BreaksOff opened events
        ((opened.run (before ++ .step :: between)).agent.errorDocument
          (.instanceMismatch (opened.run events).session.instanceId
            (opened.run before).agent.instanceId))
  /--
  The log did not accept the cursor. Unless a reset fell while the session was
  exposed it had let go of the observations there.
  -/
  | overtaken
      (before between after : List StreamEvent)
      (events_eq : events = before ++ .step :: (between ++ .step :: after))
      (refused :
        (opened.run before).agent.log.window.accepts
          (opened.run before).session.cursor = false)
      (below :
        opened.ResetsOutside SessionPhase.isExposed events →
        (opened.run before).agent.instanceId =
            (opened.run events).session.instanceId ∧
          (opened.run before).session.cursor <
            (opened.run before).agent.log.first) :
      BreaksOff opened events
        ((opened.run (before ++ .step :: between)).agent.errorDocument
          (.outOfRange (opened.run before).session.cursor
            (opened.run before).agent.log.first
            (opened.run before).agent.log.next))

/-- What comes of a stream. -/
structure Disciplined (opened : Streaming) (events : List StreamEvent) : Prop where
  word : IsFrameWord ((opened.run events).made.map MadeFrame.frame)
  /-- What goes into the queue goes there in this order, and nothing else does. -/
  channelled_prefix :
    (opened.run events).channelled <+:
      (opened.run events).made.map MadeFrame.frame
  channelled_word : IsFrameWord (opened.run events).channelled
  /-- The instance of the session is the one that was current when it looked. -/
  identified :
    ∀ before after,
      events = before ++ .step :: after →
      (opened.run before).session.phase = .identifying →
      (opened.run events).session.instanceId =
        (opened.run before).agent.instanceId
  instanceId_eq :
    opened.ResetsOutside SessionPhase.isExposed events →
    ∀ made ∈ (opened.run events).made,
      ∀ header,
        made.frame.header? = some header →
        header.instanceId = (opened.run events).session.instanceId
  observed :
    opened.ResetsOutside SessionPhase.isMidway events →
    ∀ made ∈ (opened.run events).made,
      ∀ observation ∈ made.frame.observations,
        observation ∈
          ((opened.run events).chronicle.annals
            (opened.run events).session.instanceId).entries
  /-- If the options are refused, the stream brings nothing but that. -/
  refused :
    ∀ before after fault,
      events = before ++ .step :: after →
      (opened.run before).session.Refuses (opened.run before).agent fault →
      ∀ made ∈ (opened.run events).made,
        ∃ teller : Agent, made.frame = .failure (teller.errorDocument fault)
  /-- An error has a cause that a step has met before it was made. -/
  broken_off :
    ∀ made ∈ (opened.run events).made,
      ∀ document,
        made.frame = .failure document →
        opened.BreaksOff events document

/-- A session that refuses its options makes that error and no other frame. -/
theorem made_of_refuses
    (opening : streaming.Opening options)
    {fault : Fault}
    (refuses : streaming.session.Refuses streaming.agent fault)
    (events : List StreamEvent) :
    (streaming.run (.step :: events)).made = [] ∨
      ∃ between after,
        events = between ++ .step :: after ∧
          (streaming.run (.step :: events)).made.map MadeFrame.frame =
            [.failure
              ((streaming.run (.step :: between)).agent.errorDocument
                fault)] := by
  have stepEq := (opening.after_refuses refuses).1
  have failing : (streaming.after .step).session.phase = .failing fault := by
    rw [stepEq]
    rfl
  have nothingYet : (streaming.after .step).made = [] := by
    rw [stepEq, Streaming.stepped, opening.made_nil]
    rfl
  rcases failing_run failing events with same | ⟨between, after, rfl, madeEq⟩
  · exact .inl (same.trans nothingYet)
  · rw [nothingYet] at madeEq
    exact .inr ⟨between, after, rfl, madeEq⟩

/-- As long as no reset falls midway the frames show the history of the session's instance. -/
theorem Course.observations_subset
    (course : streaming.Course options events)
    (outside : streaming.ResetsOutside SessionPhase.isMidway events) :
    (streaming.run events).madeObservations ⊆
      ((streaming.run events).chronicle.annals
        (streaming.run events).session.instanceId).entries := by
  cases course with
  | opening opening =>
      rw [madeObservations, opening.made_nil]
      exact List.nil_subset _
  | started start before after eventsEq opening starts =>
      have soundFirst := (opening.after_starts starts).2
      rw [eventsEq] at outside
      have reads :=
        (opening.reads starts).run soundFirst outside.of_append.2
      have sound := (soundFirst.run after).1
      have runEq :
          streaming.run events =
            ((streaming.run before).after .step).run after := by
        rw [eventsEq]
        exact run_append _ _ _
      rw [runEq, sound.runs.instanceId_eq, reads.observations_eq]
      exact List.filter_sublist.subset
  | refused fault before after eventsEq opening refuses =>
      have nothing : (streaming.run events).madeObservations = [] := by
        rw [eventsEq, run_append]
        rcases made_of_refuses opening refuses after with
          madeNil | ⟨between, rest, _, madeEq⟩
        · rw [madeObservations, madeNil]
          rfl
        · calc
            ((streaming.run before).run (.step :: after)).madeObservations =
                (((streaming.run before).run
                  (.step :: after)).made.map MadeFrame.frame).flatMap
                    Frame.observations := by
              simp [madeObservations, List.flatMap_map]
            _ = [] := by
              rw [madeEq]
              rfl
      rw [nothing]
      exact List.nil_subset _

/-- The header of a frame speaks of the session's instance, as long as that is shielded. -/
theorem instanceId_of_making
    (shielded : streaming.IsShielded)
    {made : MadeFrame}
    (making : streaming.Making made)
    {header : Header}
    (shown : made.frame.header? = some header) :
    streaming.session.phase.isIdentified = true ∧
      header.instanceId = streaming.session.instanceId := by
  have makes := making.makes
  generalize made.frame = frame at makes shown
  cases makes with
  | data page heading something =>
      obtain rfl := Option.some.inj shown
      exact
        ⟨by simp [heading, SessionPhase.isIdentified],
          shielded (by rw [heading, SessionPhase.isExposed])⟩
  | heartbeat beating =>
      obtain rfl := Option.some.inj shown
      exact
        ⟨by simp [beating, SessionPhase.isIdentified],
          shielded (by rw [beating, SessionPhase.isExposed])⟩
  | failure fault failing => cases shown

/-- What an error tells, from what the session met and from what it found when it made it. -/
theorem breaksOff_of_meeting
    (sound : chronicle.Sound)
    {before between after : List StreamEvent}
    (eventsEq : events = before ++ .step :: (between ++ .step :: after))
    {fault : Fault}
    (meets :
      ((beside chronicle options).run before).session.Meets
        ((beside chronicle options).run before).agent fault)
    {made : MadeFrame}
    (member : made ∈ ((beside chronicle options).run events).made)
    (isFailure :
      made.frame =
        .failure
          (((beside chronicle options).run
            (before ++ .step :: between)).agent.errorDocument fault)) :
    (beside chronicle options).BreaksOff events
      (((beside chronicle options).run
        (before ++ .step :: between)).agent.errorDocument fault) := by
  have course := course_beside sound options before
  have watchful := (Watchful.beside sound options).run before
  cases meets with
  | refused fault refuses =>
      have opening := course.opening_of_isOpening refuses.isOpening
      refine .refused fault before between after eventsEq refuses ?_
      rcases made_of_refuses opening refuses (between ++ .step :: after) with
        madeNil | ⟨_, _, _, madeEq⟩
      · rw [eventsEq, run_append, madeNil] at member
        cases member
      · -- There is one frame, so it is this one.
        rw [← run_append, ← eventsEq] at madeEq
        have isOnly := List.mem_map_of_mem (f := MadeFrame.frame) member
        rw [madeEq, List.mem_singleton, isFailure] at isOnly
        rw [madeEq, isOnly]
  | replaced looking other =>
      have identified :
          ((beside chronicle options).run
            before).session.phase.isIdentified = true := by
        rcases looking with checking | polling
        · simp [checking, SessionPhase.isIdentified]
        · simp [polling, SessionPhase.isIdentified]
      have sameId := instanceId_eq_of_identified eventsEq identified
      rw [sameId] at other ⊢
      exact .replaced before between after eventsEq other
  | misread fault reading failed =>
      obtain ⟨refused, rfl⟩ :=
        ObservationLog.refused_of_range (represents_agent course.chronicle_sound)
          watchful.watches.counts failed
      refine .overtaken before between after eventsEq refused ?_
      intro outside
      have identified :
          ((beside chronicle options).run
            before).session.phase.isIdentified = true := by
        simp [reading, SessionPhase.isIdentified]
      have sameId := instanceId_eq_of_identified eventsEq identified
      have shieldedFirst : (beside chronicle options).IsShielded := nofun
      rw [eventsEq] at outside
      have current :=
        shieldedFirst.run (Watchful.beside sound options) outside.left
          (by rw [reading, SessionPhase.isExposed])
      refine ⟨current.trans sameId, ?_⟩
      have reached := watchful.watches.reached current
      rw [← Bool.not_eq_true, ObservationLog.accepts_iff] at refused
      have sameNext :
          ((beside chronicle options).run before).agent.log.next =
            ((beside chronicle options).run
              before).chronicle.agent.log.next := rfl
      omega

/-- The instance of a session is the one that was current when it looked. -/
theorem instanceId_of_identifying
    {before : List StreamEvent}
    (identifying : (streaming.run before).session.phase = .identifying)
    (after : List StreamEvent) :
    (streaming.run (before ++ .step :: after)).session.instanceId =
      (streaming.run before).agent.instanceId := by
  have stepEq :
      (streaming.run before).after .step =
        (streaming.run before).stepped
          ((streaming.run before).session.identify
            (streaming.run before).agent) :=
    after_step_of_some (Session.identify_of_identifying identifying _ _)
  have identified :
      ((streaming.run before).after .step).session.phase.isIdentified =
        true := by
    rw [stepEq]
    rfl
  have sameId := identified_run identified after
  rw [run_append]
  exact sameId.trans (by rw [stepEq]; rfl)

/-- The headers of all frames speak of the session's instance, as long as that is shielded. -/
theorem instanceId_of_shown
    (sound : chronicle.Sound)
    (outside :
      (beside chronicle options).ResetsOutside SessionPhase.isExposed events)
    {made : MadeFrame}
    (member : made ∈ ((beside chronicle options).run events).made)
    {header : Header}
    (shown : made.frame.header? = some header) :
    header.instanceId =
      ((beside chronicle options).run events).session.instanceId := by
  obtain ⟨earlier, later, split⟩ := List.append_of_mem member
  obtain ⟨before, after, eventsEq, _, making⟩ :=
    exists_making (List.nil_prefix (l := earlier)) split
  have shieldedFirst : (beside chronicle options).IsShielded := nofun
  rw [eventsEq] at outside
  have shielded :=
    shieldedFirst.run (Watchful.beside sound options) outside.left
  obtain ⟨identified, sameId⟩ := instanceId_of_making shielded making shown
  exact sameId.trans (instanceId_eq_of_identified eventsEq identified)

/-- If the options are refused, there is no frame that does not tell of that. -/
theorem frame_of_refuses
    (opening : streaming.Opening options)
    {fault : Fault}
    (refuses : streaming.session.Refuses streaming.agent fault)
    {made : MadeFrame}
    (member : made ∈ (streaming.run (.step :: events)).made) :
    ∃ teller : Agent, made.frame = .failure (teller.errorDocument fault) := by
  rcases made_of_refuses opening refuses events with
    madeNil | ⟨between, rest, _, madeEq⟩
  · rw [madeNil] at member
    cases member
  · have isOnly := List.mem_map_of_mem (f := MadeFrame.frame) member
    rw [madeEq, List.mem_singleton] at isOnly
    exact ⟨_, isOnly⟩

/-- Every error has a cause, which a step has met before the error was made. -/
theorem breaksOff_of_failure
    (sound : chronicle.Sound)
    {made : MadeFrame}
    (member : made ∈ ((beside chronicle options).run events).made)
    {document : ErrorDocument}
    (isFailure : made.frame = .failure document) :
    (beside chronicle options).BreaksOff events document := by
  obtain ⟨earlier, later, split⟩ := List.append_of_mem member
  obtain ⟨upToMaking, after, eventsEq, _, making⟩ :=
    exists_making (List.nil_prefix (l := earlier)) split
  have makes := making.makes
  rw [isFailure] at makes
  generalize frameEq : Frame.failure document = frame at makes
  cases makes with
  | failure fault failing =>
      obtain rfl := Frame.failure.inj frameEq
      obtain ⟨before, between, rfl, meets, _⟩ :=
        exists_meeting
          (show SessionPhase.starting ≠ .failing fault from nofun) failing
      rw [List.append_assoc, List.cons_append] at eventsEq
      exact breaksOff_of_meeting sound eventsEq meets member isFailure
  | data page => cases frameEq
  | heartbeat => cases frameEq

/-- However the events fall, a stream ends once; and it speaks of one instance unless it is exposed. -/
theorem disciplined_frames
    (plan : AgentPlan)
    (begun : Timestamp)
    (options : StreamOptions)
    (events : List StreamEvent) :
    (opened plan begun options).Disciplined events := by
  have sound := Chronicle.sound_start plan begun
  have course : (opened plan begun options).Course options events :=
    course_beside sound options events
  have word := ((Orderly.beside (.start plan begun) options).run events).word
  have channelledPrefix := course.delivers.channelled_prefix
  refine
    { word := word
      channelled_prefix := channelledPrefix
      channelled_word := word.of_prefix channelledPrefix
      identified := ?_
      instanceId_eq := ?_
      observed := ?_
      refused := ?_
      broken_off := ?_ }
  · rintro before after rfl identifying
    exact instanceId_of_identifying identifying after
  · intro outside made member header shown
    exact instanceId_of_shown sound outside member shown
  · intro outside made member observation shown
    exact
      course.observations_subset outside
        (List.mem_flatMap.mpr ⟨made, member, shown⟩)
  · rintro before after fault rfl refuses made member
    have opening :
        ((opened plan begun options).run before).Opening options :=
      (course_beside sound options before).opening_of_isOpening
        refuses.isOpening
    rw [run_append] at member
    exact frame_of_refuses opening refuses member
  · intro made member document isFailure
    exact breaksOff_of_failure sound member isFailure

/-- A session that starts behind the first value, up to the step in which it reads the log. -/
def resetBeforeReading : List StreamEvent :=
  [.command (AgentPlan.oneItemValue "1"), .step, .step, .step, .step, .step,
    .step, .command .reset, .step]

/--
After a reset between the comparison and the reading the session reports that
it has been overtaken, though the log has let go of nothing at its cursor. And
what it reads there goes out under the identifier of the later instance.
-/
theorem reset_taken_for_eviction :
    ((opened .oneItem ⟨0⟩ { start := some 2 }).run
          (resetBeforeReading ++ [.step, .step])).made.map MadeFrame.frame =
        [.failure
          (((opened .oneItem ⟨0⟩ { start := some 2 }).run
            resetBeforeReading).agent.errorDocument (.outOfRange 2 1 1))] ∧
      ¬((opened .oneItem ⟨0⟩ { start := some 2 }).run
          resetBeforeReading).session.cursor <
        ((opened .oneItem ⟨0⟩ { start := some 2 }).run
          resetBeforeReading).agent.log.first ∧
      ((opened .oneItem ⟨0⟩ { start := some 1 }).run
          (beforeReading ++ .step :: readingAcross)).made.map
          (fun made => made.frame.header?.map Header.instanceId) =
        [some 2] ∧
      ((opened .oneItem ⟨0⟩ { start := some 1 }).run
        (beforeReading ++ .step :: readingAcross)).session.instanceId = 1 := by
  refine ⟨rfl, ?_, rfl, rfl⟩
  decide

end Streaming

end MTConnect
