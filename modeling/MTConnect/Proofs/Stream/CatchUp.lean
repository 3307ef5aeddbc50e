import MTConnect.Proofs.Agent.Replay
import MTConnect.Proofs.Observation.Overlay
import MTConnect.Proofs.Stream.Ending

namespace MTConnect

/-!
# Streams that go on from a snapshot

A client that wants to follow the newest observations reads them once and then
opens a stream that starts where this answer ends. Each frame tells up to which
number it brings the client; what the client has then, with the observations of
all frames laid over the first answer, is what an answer as of that number would
show, whether or not the agent could still give it.
-/

/-- The options of a stream that goes on where a snapshot ends. -/
def StreamOptions.resuming
    (options : StreamOptions)
    (device? path? : Option String)
    (snapshot : CurrentDocument) :
    StreamOptions :=
  { options with
    device := device?
    path := path?
    start := some snapshot.header.nextSequence
    instanceId := some snapshot.header.instanceId }

/-- A snapshot with the observations of frames laid over it. -/
def CurrentDocument.broughtUp
    (snapshot : CurrentDocument)
    (frames : List Frame) :
    List Observation :=
  ObservationLog.merged snapshot.observations
    (frames.flatMap Frame.observations)

namespace Session

variable {session next : Session} {agent : Agent} {now : Nat}

/-- A session that did not know its instance, and knows it after a step, has just looked. -/
theorem looks_of_step
    (unidentified : session.phase.isIdentified = false)
    (stepped : session.step? agent now = some next)
    (identified : next.phase.isIdentified = true) :
    next.instanceId = agent.instanceId := by
  unfold SessionPhase.isIdentified at unidentified
  split at unidentified
  next starting =>
    simp only [step?, starting] at stepped
    rw [← Option.some.inj stepped] at identified
    cases identified
  next identifying =>
    simp only [step?, identifying] at stepped
    rw [← Option.some.inj stepped]
    rfl
  next => cases unidentified

end Session

namespace Chronicle

/-- What there was at some time lies below the number that came next then. -/
theorem before_next_run
    {chronicle : Chronicle}
    (sound : chronicle.Sound)
    (commands : List Agent.Command) :
    ((chronicle.run commands).annals chronicle.agent.instanceId).before
        chronicle.agent.log.next =
      chronicle.history.entries := by
  obtain ⟨readings, grown⟩ :=
    chronicle.exists_annals_run commands chronicle.agent.instanceId
  calc
    _ = (chronicle.history.offerAll readings).between .all 0
          chronicle.history.next := by
      rw [grown, History.before_eq_between, sound.represents.next_eq]
      rfl
    _ = chronicle.history.before chronicle.history.next := by
      rw [History.between_offerAll (Nat.le_refl _), History.before_eq_between]
    _ = chronicle.history.entries := chronicle.history.before_next

/-- In every run there is a next number, and it is not the zeroth. -/
theorem next_pos
    (plan : AgentPlan)
    (begun : Timestamp)
    (commands : List Agent.Command) :
    0 < ((start plan begun).run commands).agent.log.next := by
  have sound := (sound_start plan begun).run commands
  obtain ⟨readings, grown⟩ :=
    (start plan begun).exists_annals_run commands
      ((start plan begun).run commands).agent.instanceId
  rw [sound.represents.next_eq, history, grown]
  exact
    Nat.lt_of_lt_of_le Nat.zero_lt_one
      (History.next_le_offerAll (.beginningAt 1) readings)

end Chronicle

/-- Reading goes on after a frame where the cursor stood when it was made. -/
theorem Frame.Fits.cursor_eq
    {frame : Frame}
    {count : Int}
    {cursor bound : Nat}
    (fits : frame.Fits count cursor)
    (resumes : frame.resumesAt? = some bound) :
    bound = cursor := by
  cases frame with
  | data document =>
      obtain ⟨_, _, reached⟩ := fits
      exact (Option.some.inj resumes).symm.trans reached
  | heartbeat header endSequence =>
      exact (Option.some.inj resumes).symm.trans fits
  | failure document => simp [resumesAt?] at resumes

namespace Streaming

/-- As long as the instance stays, a session that knows its instance knows the current one. -/
def IsCurrent (streaming : Streaming) : Prop :=
  streaming.session.phase.isIdentified = true →
  streaming.session.instanceId = streaming.chronicle.agent.instanceId

/-- An event that is no reset leaves the instance of the session the current one. -/
theorem IsCurrent.after
    {streaming : Streaming}
    (current : streaming.IsCurrent)
    {event : StreamEvent}
    (noReset : event.command? ≠ some .reset) :
    (streaming.after event).IsCurrent := by
  have perform
      {command : Agent.Command}
      (told : event.command? = some command)
      (identified : streaming.session.phase.isIdentified = true) :
      streaming.session.instanceId =
        (streaming.chronicle.perform command).agent.instanceId := by
    have notReset : command ≠ .reset := fun isReset =>
      noReset (told.trans (congrArg some isReset))
    rw [streaming.chronicle.instanceId_perform_of_ne notReset]
    exact current identified
  cases event with
  | command command => exact perform rfl
  | enter command => exact perform rfl
  | step =>
      cases stepped :
          streaming.session.step? streaming.agent streaming.now with
      | none =>
          rw [after_step_of_none stepped]
          exact current
      | some next =>
          rw [after_step_of_some stepped]
          intro nowIdentified
          cases identified : streaming.session.phase.isIdentified with
          | true =>
              exact
                (Session.identified_of_step identified stepped).2.trans
                  (current identified)
          | false =>
              have looks :=
                Session.looks_of_step identified stepped nowIdentified
              exact looks
  | receive =>
      obtain ⟨queue, received, afterEq⟩ := streaming.after_receive_cases
      rw [afterEq]
      exact current
  | _ => exact current

/-- Without a reset the instance of the session is the current one all the time. -/
theorem IsCurrent.run
    {streaming : Streaming}
    {events : List StreamEvent}
    (current : streaming.IsCurrent)
    (noReset : .reset ∉ events.filterMap StreamEvent.command?) :
    (streaming.run events).IsCurrent := by
  induction events generalizing streaming with
  | nil => exact current
  | cons event rest inductionHypothesis =>
      refine
        inductionHypothesis (current.after fun isReset => noReset ?_)
          fun later => noReset ?_
      · exact List.mem_filterMap.mpr ⟨event, List.mem_cons_self, isReset⟩
      · obtain ⟨other, member, told⟩ := List.mem_filterMap.mp later
        exact
          List.mem_filterMap.mpr
            ⟨other, List.mem_cons_of_mem event member, told⟩

variable
  {chronicle : Chronicle}
  {options : StreamOptions}
  {events : List StreamEvent}

/-- A part of the events of a run without reset has none. -/
theorem noReset_of_append
    {before after : List StreamEvent}
    (eventsEq : events = before ++ after)
    (noReset : .reset ∉ events.filterMap StreamEvent.command?) :
    .reset ∉ before.filterMap StreamEvent.command? := by
  rw [eventsEq, List.filterMap_append, List.mem_append, not_or] at noReset
  exact noReset.1

/-- Without a reset the agent remains the same instance of the same devices. -/
theorem agent_of_noReset
    (options : StreamOptions)
    (noReset : .reset ∉ events.filterMap StreamEvent.command?) :
    ((beside chronicle options).run events).chronicle.agent.instanceId =
        chronicle.agent.instanceId ∧
      ((beside chronicle options).run events).chronicle.agent.catalog =
        chronicle.agent.catalog := by
  rw [chronicle_run]
  exact
    ⟨chronicle.instanceId_run_of_noReset noReset, chronicle.catalog_run _⟩

/-- Without a reset a session that has started reads the history of the agent that it was opened beside. -/
theorem reads_of_noReset
    (noReset : .reset ∉ events.filterMap StreamEvent.command?)
    {before after : List StreamEvent}
    (eventsEq : events = before ++ .step :: after)
    (opening : ((beside chronicle options).run before).Opening options)
    {start : StreamStart}
    (starts : ((beside chronicle options).run before).Starts start) :
    ((beside chronicle options).run events).Reads start
        chronicle.agent.instanceId ∧
      ((beside chronicle options).run events).Sound start
        chronicle.agent.instanceId := by
  have noResetBefore := noReset_of_append eventsEq noReset
  have atFirst : (beside chronicle options).IsCurrent := nofun
  have identified :
      ((beside chronicle options).run
        before).session.phase.isIdentified = true := by
    simp [starts.placing, SessionPhase.isIdentified]
  have idEq := atFirst.run noResetBefore identified
  rw [(agent_of_noReset options noResetBefore).1] at idEq
  have outside :
      (beside chronicle options).ResetsOutside SessionPhase.isMidway events :=
    .of_noReset noReset
  rw [eventsEq] at outside
  have soundFirst := (opening.after_starts starts).2
  have reads := (opening.reads starts).run soundFirst outside.of_append.2
  have soundAfter := (soundFirst.run after).1
  rw [idEq] at reads soundAfter
  have runEq :
      (beside chronicle options).run events =
        (((beside chronicle options).run before).after .step).run after := by
    rw [eventsEq]
    exact run_append _ _ _
  rw [runEq]
  exact ⟨reads, soundAfter⟩

/--
When a frame was just made, all frames so far show the stretch of the history
from the starting point to where reading goes on after that frame.
-/
theorem exists_stretch_to_newest
    (sound : chronicle.Sound)
    (noReset : .reset ∉ events.filterMap StreamEvent.command?)
    {earlier : List MadeFrame}
    {made : MadeFrame}
    (madeEq :
      ((beside chronicle options).run events).made = earlier ++ [made])
    (cursorEq :
      ((beside chronicle options).run events).session.cursor = made.cursor)
    {bound : Nat}
    (resumes : made.frame.resumesAt? = some bound) :
    ∃ start : StreamStart,
      chronicle.agent.catalog.select options.device options.path =
          .ok start.filter ∧
        (∀ number, options.start = some number → start.cursor = number) ∧
        start.cursor ≤ bound ∧
        bound ≤
          (((beside chronicle options).run events).chronicle.annals
            chronicle.agent.instanceId).next ∧
        ((beside chronicle options).run events).madeObservations =
          (((beside chronicle options).run events).chronicle.annals
            chronicle.agent.instanceId).between start.filter start.cursor
              bound := by
  cases course_beside sound options events with
  | opening opening =>
      have nothing := madeEq.symm.trans opening.made_nil
      simp at nothing
  | refused fault first second eventsEq opening refuses =>
      rw [eventsEq, run_append] at madeEq
      rcases made_of_refuses opening refuses second with
        madeNil | ⟨_, _, _, onlyFailure⟩
      · rw [madeNil] at madeEq
        simp at madeEq
      · have member :
            made.frame ∈ (earlier ++ [made]).map MadeFrame.frame := by
          simp
        rw [← madeEq, onlyFailure] at member
        rw [List.mem_singleton.mp member] at resumes
        cases resumes
  | started start first second eventsEq opening starts =>
      obtain ⟨reads, soundHere⟩ :=
        reads_of_noReset noReset eventsEq opening starts
      obtain ⟨selected, _⟩ :=
        Agent.streamTerms_eq_ok_iff.mp (opening.terms_eq starts.placing)
      obtain ⟨startEq, _⟩ := Agent.streamCursor_eq_ok_iff.mp starts.found
      have noResetFirst := noReset_of_append eventsEq noReset
      rw [(agent_of_noReset options noResetFirst).2] at selected
      have member : made ∈ earlier ++ [made] := by simp
      have boundEq :=
        (soundHere.fits made (madeEq ▸ member)).cursor_eq resumes
      rw [← cursorEq] at boundEq
      have reached := reads.reached (agent_of_noReset options noReset).1
      rw [boundEq]
      refine
        ⟨start, starts.filter_eq ▸ selected, ?_, soundHere.start_le, reached,
          reads.observations_eq⟩
      intro number isStart
      rw [opening.options_eq, isStart] at startEq
      exact startEq.symm

/--
What the frames up to one of them show is the stretch of the history from the
starting point to where reading goes on after that frame.
-/
theorem exists_stretch
    (sound : chronicle.Sound)
    (noReset : .reset ∉ events.filterMap StreamEvent.command?)
    {earlier rest : List Frame}
    {frame : Frame}
    {bound : Nat}
    (split :
      ((beside chronicle options).run events).made.map MadeFrame.frame =
        earlier ++ frame :: rest)
    (resumes : frame.resumesAt? = some bound)
    {history : History}
    (historyEq :
      ((beside chronicle options).run events).chronicle.annals
        chronicle.agent.instanceId = history) :
    ∃ start : StreamStart,
      chronicle.agent.catalog.select options.device options.path =
          .ok start.filter ∧
        (∀ number, options.start = some number → start.cursor = number) ∧
        start.cursor ≤ bound ∧
        bound ≤ history.next ∧
        (earlier ++ [frame]).flatMap Frame.observations =
          history.between start.filter start.cursor bound := by
  obtain ⟨earlierMade, fromMade, madeEq, rfl, fromEq⟩ :=
    List.map_eq_append_iff.mp split
  obtain ⟨made, restMade, rfl, rfl, rfl⟩ := List.map_eq_cons_iff.mp fromEq
  obtain ⟨before, after, rfl, beforeMade, making⟩ :=
    exists_making (List.nil_prefix (l := earlierMade)) madeEq
  have madeHere :
      ((beside chronicle options).run (before ++ [.step])).made =
        earlierMade ++ [made] := by
    rw [run_append, ← beforeMade]
    exact making.made_eq
  have cursorHere :
      ((beside chronicle options).run (before ++ [.step])).session.cursor =
        made.cursor := by
    rw [run_append]
    exact making.cursor_eq
  have noResetHere :
      Agent.Command.reset ∉
        (before ++ [StreamEvent.step]).filterMap StreamEvent.command? := by
    rw [List.append_cons] at noReset
    exact noReset_of_append rfl noReset
  obtain ⟨start, selected, startEq, startLe, reached, shown⟩ :=
    exists_stretch_to_newest sound noResetHere madeHere cursorHere resumes
  -- From here on the history only grows.
  have runEq :
      (beside chronicle options).run (before ++ .step :: after) =
        ((beside chronicle options).run (before ++ [.step])).run after := by
    rw [← run_append, List.append_assoc]
    rfl
  obtain ⟨readings, grown⟩ :=
    ((beside chronicle options).run
      (before ++ [.step])).chronicle.exists_annals_run
        (after.filterMap StreamEvent.command?) chronicle.agent.instanceId
  rw [← chronicle_run, ← runEq] at grown
  rw [← historyEq, grown]
  refine
    ⟨start, selected, startEq, startLe,
      Nat.le_trans reached (History.next_le_offerAll _ readings), ?_⟩
  rw [History.between_offerAll reached, ← shown, madeObservations, madeHere]
  simp [List.flatMap_map]

/-- What a client has that has laid the frames up to one over a snapshot. -/
structure BroughtUp
    (streaming : Streaming)
    (snapshot : CurrentDocument)
    (device? path? : Option String)
    (filter : ObservationFilter)
    (frames : List Frame)
    (bound : Nat) : Prop where
  positive : 0 < bound
  reached :
    bound ≤ (streaming.chronicle.annals snapshot.header.instanceId).next
  /-- It shows exactly the newest observations below the number. -/
  replays :
    Replays (snapshot.broughtUp frames) filter
      ((streaming.chronicle.annals snapshot.header.instanceId).before bound)
  /-- The agent would answer so, as long as it accepts the number before. -/
  asOf :
    streaming.chronicle.agent.log.window.accepts (bound - 1) = true →
    ∃ document,
      streaming.chronicle.agent.current
            { device := device?, path := path?, point := some (bound - 1) } =
          .ok document ∧
        document.observations = snapshot.broughtUp frames

/-- What a client can rely on that lays frames over the snapshot they go on from. -/
structure CatchesUp
    (streaming : Streaming)
    (snapshot : CurrentDocument)
    (device? path? : Option String)
    (filter : ObservationFilter) : Prop where
  /-- Which observations are selected depends on their data items alone. -/
  admits_eq :
    ∀ observation,
      filter.admits observation = filter.selects observation.key
  received_prefix :
    streaming.received <+: streaming.made.map MadeFrame.frame
  brought_up :
    ∀ earlier frame rest bound,
      streaming.made.map MadeFrame.frame = earlier ++ frame :: rest →
      frame.resumesAt? = some bound →
      streaming.BroughtUp snapshot device? path? filter
        (earlier ++ [frame]) bound

/-- Whatever replays a history below a number is what the agent answers there. -/
theorem BroughtUp.of_replays
    {streaming : Streaming}
    {snapshot : CurrentDocument}
    {device? path? : Option String}
    {filter : ObservationFilter}
    {frames : List Frame}
    {bound : Nat}
    (represents :
      streaming.chronicle.agent.log.Represents
        (streaming.chronicle.annals snapshot.header.instanceId))
    (selected :
      streaming.chronicle.agent.catalog.select device? path? = .ok filter)
    (positive : 0 < bound)
    (reached :
      bound ≤ (streaming.chronicle.annals snapshot.header.instanceId).next)
    (replays :
      Replays (snapshot.broughtUp frames) filter
        ((streaming.chronicle.annals snapshot.header.instanceId).before
          bound)) :
    streaming.BroughtUp snapshot device? path? filter frames bound where
  positive := positive
  reached := reached
  replays := replays
  asOf := by
    intro accepted
    obtain ⟨firstLe, leNext⟩ :=
      (ObservationLog.accepts_iff _ _).mp accepted
    obtain ⟨document, answered, _, _, alsoReplays⟩ :=
      Agent.current_asOf represents selected firstLe leNext
    rw [History.upTo, Nat.sub_add_cancel positive] at alsoReplays
    exact ⟨document, answered, alsoReplays.unique replays⟩

/-- Without a reset the log keeps to the history in which the run began. -/
theorem represents_of_noReset
    (sound : chronicle.Sound)
    (options : StreamOptions)
    (noReset : .reset ∉ events.filterMap StreamEvent.command?) :
    ((beside chronicle options).run events).chronicle.agent.log.Represents
      (((beside chronicle options).run events).chronicle.annals
        chronicle.agent.instanceId) := by
  have soundNow :
      ((beside chronicle options).run events).chronicle.Sound := by
    rw [chronicle_run]
    exact sound.run _
  have represents := soundNow.represents
  rw [Chronicle.history, (agent_of_noReset options noReset).1] at represents
  exact represents

section Resuming

variable
  {device? path? : Option String}
  {filter : ObservationFilter}
  {snapshot : CurrentDocument}

/-- A stream that goes on from what an agent shows now keeps up with it. -/
theorem catchesUp_of_sound
    (sound : chronicle.Sound)
    (counting : 0 < chronicle.agent.log.next)
    (selected : chronicle.agent.catalog.select device? path? = .ok filter)
    (options : StreamOptions)
    (noReset : .reset ∉ events.filterMap StreamEvent.command?)
    (shown :
      snapshot = chronicle.agent.currentOf (chronicle.agent.log.now filter)) :
    ((beside chronicle
        (options.resuming device? path? snapshot)).run events).CatchesUp
      snapshot device? path? filter := by
  have anyCategory := Catalog.categories_of_select selected
  have course :=
    course_beside sound (options.resuming device? path? snapshot) events
  refine
    { admits_eq := ObservationFilter.admits_eq_selects anyCategory
      received_prefix :=
        List.IsPrefix.trans ⟨_, (List.append_assoc _ _ _).symm⟩
          course.delivers.channelled_prefix
      brought_up := ?_ }
  intro earlier frame rest bound split resumes
  have idShown : snapshot.header.instanceId = chronicle.agent.instanceId := by
    rw [shown]
    rfl
  have nextShown : snapshot.header.nextSequence = chronicle.agent.log.next := by
    rw [shown]
    rfl
  obtain ⟨start, startSelected, startsAt, startLe, reached, observationsEq⟩ :=
    exists_stretch sound noReset split resumes rfl
  have filterEq : start.filter = filter :=
    Except.ok.inj (startSelected.symm.trans selected)
  have cursorEq := startsAt _ rfl
  rw [cursorEq, nextShown] at startLe
  rw [← idShown] at reached observationsEq
  rw [filterEq, cursorEq, nextShown] at observationsEq
  have represents :=
    represents_of_noReset sound (options.resuming device? path? snapshot)
      noReset
  rw [← idShown] at represents
  have atHandover :
      Replays snapshot.observations filter
        ((((beside chronicle
            (options.resuming device? path? snapshot)).run
              events).chronicle.annals
                snapshot.header.instanceId).before
                  chronicle.agent.log.next) := by
    rw [chronicle_run, idShown, shown]
    exact
      Chronicle.before_next_run sound _ ▸
        sound.represents.now_replays anyCategory
  refine
    .of_replays represents ?_ (Nat.lt_of_lt_of_le counting startLe) reached ?_
  · rw [(agent_of_noReset _ noReset).2]
    exact selected
  · rw [CurrentDocument.broughtUp, observationsEq]
    exact History.replays_merged atHandover anyCategory startLe

end Resuming

/-- A snapshot and the frames that follow it make up each later snapshot. -/
theorem snapshot_and_frames_replay
    (plan : AgentPlan)
    (begun : Timestamp)
    (commands : List Agent.Command)
    (device? path? : Option String)
    (filter : ObservationFilter)
    (options : StreamOptions)
    (events : List StreamEvent)
    (selected : plan.catalog.select device? path? = .ok filter)
    (noReset : .reset ∉ events.filterMap StreamEvent.command?) :
    ∃ snapshot,
      ((Chronicle.start plan begun).run commands).agent.current
            { device := device?, path := path? } =
          .ok snapshot ∧
        ((beside ((Chronicle.start plan begun).run commands)
            (options.resuming device? path? snapshot)).run events).CatchesUp
          snapshot device? path? filter := by
  have sound := (Chronicle.sound_start plan begun).run commands
  have selectedNow :
      ((Chronicle.start plan begun).run commands).agent.catalog.select
          device? path? =
        .ok filter := by
    rw [Chronicle.catalog_run]
    exact selected
  refine
    ⟨_, Agent.current_of_select selectedNow,
      catchesUp_of_sound sound (Chronicle.next_pos plan begun commands)
        selectedNow options noReset rfl⟩

/-- A session finds nothing after the first value, then the second one comes and is sent. -/
def secondValueFollows : List StreamEvent :=
  List.replicate 11 .step ++ .command (AgentPlan.oneItemValue "2") ::
    List.replicate 8 .step

/-- The snapshot shows the first value of a device, and a frame brings the second one. -/
theorem second_value_replays :
    AgentPlan.oneItem.catalog.select (some "mill") none =
        .ok (ObservationFilter.all.onDevice "d") ∧
      .reset ∉ secondValueFollows.filterMap StreamEvent.command? ∧
      ∃ snapshot,
        ((Chronicle.start .oneItem ⟨0⟩).run
            [AgentPlan.oneItemValue "1"]).agent.current
              { device := some "mill", path := none } =
            .ok snapshot ∧
          ((beside
              ((Chronicle.start .oneItem ⟨0⟩).run
                [AgentPlan.oneItemValue "1"])
              (({} : StreamOptions).resuming (some "mill") none
                snapshot)).run
            secondValueFollows).CatchesUp
            snapshot (some "mill") none
            (ObservationFilter.all.onDevice "d") :=
  ⟨rfl, by decide,
    snapshot_and_frames_replay .oneItem ⟨0⟩ [AgentPlan.oneItemValue "1"]
      (some "mill") none (ObservationFilter.all.onDevice "d") {}
      secondValueFollows rfl (by decide)⟩

-- The frame with the second value, and the number that it leads up to.
example :
    ((beside
        ((Chronicle.start .oneItem ⟨0⟩).run [AgentPlan.oneItemValue "1"])
        { start := some 2, instanceId := some 1 }).run
      secondValueFollows).made.map
          (fun made =>
            (made.frame.resumesAt?,
              made.frame.observations.map Observation.sequence)) =
      [(some 3, [2])] := by
  rfl

end Streaming

end MTConnect
