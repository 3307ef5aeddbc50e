import Mathlib.Data.List.Induction
import MTConnect.Proofs.Stream.Timing

namespace MTConnect

/-!
# When frames are handed over

A frame is handed over when it is put into the queue. No frame is handed over
early, however long the client lets frames wait and whatever is logged in the
meantime: what the session remembers are the times of what was handed over.
-/

/-- Whether a frame brings observations. -/
def Frame.isData : Frame → Bool
  | .data _ => true
  | _ => false

/-- Whether a frame says no more than that the stream goes on. -/
def Frame.isHeartbeat : Frame → Bool
  | .heartbeat _ _ => true
  | _ => false

/-- A frame that was handed over, and when. -/
structure Emission where
  frame : Frame
  time : Nat

namespace Streaming

/-- The frames that an event puts at the end of the queue, with the time. -/
def handedOver (streaming : Streaming) : StreamEvent → List Emission
  | .step =>
      ((streaming.after .step).session.queue.toList.drop
        streaming.session.queue.toList.length).map fun frame =>
          { frame := frame, time := streaming.now }
  | _ => []

/-- All that is handed over in the course of some events, in order. -/
def emissions (streaming : Streaming) : List StreamEvent → List Emission
  | [] => []
  | event :: rest =>
      streaming.handedOver event ++ (streaming.after event).emissions rest

/-- When the session begins: the time at which it has found its starting point. -/
def beganAt (streaming : Streaming) : List StreamEvent → Nat
  | [] => streaming.now
  | event :: rest =>
      if streaming.session.phase.isOpening then
        (streaming.after event).beganAt rest
      else
        streaming.now

end Streaming

/-- When something was heard last of a session: a frame, or that it began. -/
def Emission.lastHeard (began : Nat) (emissions : List Emission) : Nat :=
  (emissions.getLast?.map Emission.time).getD began

/-- No frame was handed over too early. -/
structure Emission.Timely
    (options : StreamOptions)
    (began : Nat)
    (emissions : List Emission) : Prop where
  /-- Any two frames with observations are apart by the interval at least. -/
  apart :
    emissions.Pairwise fun earlier later =>
      earlier.frame.isData = true →
      later.frame.isData = true →
      earlier.time + options.interval ≤ later.time
  /-- Every frame before a heartbeat is older than that heartbeat's waiting time. -/
  unhurried :
    emissions.Pairwise fun earlier later =>
      later.frame.isHeartbeat = true →
      earlier.time + options.heartbeat ≤ later.time
  begun :
    ∀ emission ∈ emissions,
      emission.frame.isHeartbeat = true →
      began + options.heartbeat ≤ emission.time

namespace Emission

variable {options : StreamOptions} {began : Nat} {past : List Emission}

theorem timely_nil (options : StreamOptions) (began : Nat) :
    Timely options began [] where
  apart := List.Pairwise.nil
  unhurried := List.Pairwise.nil
  begun := fun _ member => nomatch member

/-- Errors are never early. -/
theorem Timely.of_failures
    {emissions : List Emission}
    (failures :
      ∀ emission ∈ emissions,
        emission.frame.isData = false ∧ emission.frame.isHeartbeat = false) :
    Timely options began emissions where
  apart :=
    List.pairwise_of_forall_mem_list fun earlier member _ _ isData =>
      nomatch (failures earlier member).1.symm.trans isData
  unhurried :=
    List.pairwise_of_forall_mem_list fun _ _ later member isHeartbeat =>
      nomatch (failures later member).2.symm.trans isHeartbeat
  begun := fun emission member isHeartbeat =>
    nomatch (failures emission member).2.symm.trans isHeartbeat

/-- A frame that is late enough after each earlier one keeps the frames timely. -/
theorem Timely.concat
    (timely : Timely options began past)
    {emission : Emission}
    (apart :
      emission.frame.isData = true →
      ∀ earlier ∈ past,
        earlier.frame.isData = true →
        earlier.time + options.interval ≤ emission.time)
    (unhurried :
      emission.frame.isHeartbeat = true →
      ∀ earlier ∈ past, earlier.time + options.heartbeat ≤ emission.time)
    (begun :
      emission.frame.isHeartbeat = true →
      began + options.heartbeat ≤ emission.time) :
    Timely options began (past ++ [emission]) where
  apart := by
    refine List.pairwise_append.mpr
      ⟨timely.apart, List.pairwise_singleton _ _, ?_⟩
    intro earlier member newest isNewest isData isNew
    obtain rfl := List.mem_singleton.mp isNewest
    exact apart isNew earlier member isData
  unhurried := by
    refine List.pairwise_append.mpr
      ⟨timely.unhurried, List.pairwise_singleton _ _, ?_⟩
    intro earlier member newest isNewest isNew
    obtain rfl := List.mem_singleton.mp isNewest
    exact unhurried isNew earlier member
  begun := by
    intro other member isHeartbeat
    rcases List.mem_append.mp member with inPast | isNewest
    · exact timely.begun other inPast isHeartbeat
    · obtain rfl := List.mem_singleton.mp isNewest
      exact begun isHeartbeat

theorem lastHeard_concat (began : Nat) (past : List Emission) (emission : Emission) :
    lastHeard began (past ++ [emission]) = emission.time := by
  rw [lastHeard, List.getLast?_concat]
  rfl

end Emission

namespace Streaming

/--
A session that has begun, beside what it has handed over so far: the times that
it remembers are those of the emissions.
-/
structure Keeps
    (streaming : Streaming)
    (options : StreamOptions)
    (began : Nat)
    (past : List Emission) : Prop where
  begun : streaming.session.phase.isOpening = false
  options_eq : streaming.session.options = options
  remembers : streaming.session.Remembers streaming.now
  began_le : began ≤ streaming.session.lastEmit
  lastEmit_eq :
    streaming.session.phase ≠ .stopped →
    streaming.session.lastEmit = Emission.lastHeard began past
  emitted_le :
    streaming.session.phase ≠ .stopped →
    ∀ emission ∈ past, emission.time ≤ streaming.session.lastEmit
  data_le :
    ∀ emission ∈ past,
      emission.frame.isData = true →
      ∃ time, streaming.session.lastData = some time ∧ emission.time ≤ time
  timely : Emission.Timely options began past

variable
  {streaming : Streaming}
  {options : StreamOptions}
  {began : Nat}
  {past : List Emission}
  {next : Session}

/-- A step that leaves the queue alone hands no frame over. -/
theorem handedOver_of_still
    (stepped :
      streaming.session.step? streaming.agent streaming.now =
        some next)
    (queueEq : next.queue = streaming.session.queue) :
    streaming.handedOver .step = [] := by
  rw [handedOver, after_step_of_some stepped, Streaming.stepped, queueEq,
    List.drop_length]
  rfl

/-- A step that puts a frame into the queue hands over that frame, at that moment. -/
theorem handedOver_of_emit
    {frame : Frame}
    (stepped :
      streaming.session.step? streaming.agent streaming.now =
        some (streaming.session.emit streaming.now frame)) :
    streaming.handedOver .step =
      [{ frame := frame, time := streaming.now }] := by
  rw [handedOver, after_step_of_some stepped, Streaming.stepped,
    Session.queue_emit, Queue.toList_push, List.drop_left]
  rfl

theorem handedOver_of_none
    (waits :
      streaming.session.step? streaming.agent streaming.now = none) :
    streaming.handedOver .step = [] := by
  rw [handedOver, after_step_of_none waits, List.drop_length]
  rfl

theorem handedOver_of_ne
    (event : StreamEvent)
    (noStep : event ≠ .step) :
    streaming.handedOver event = [] := by
  cases event with
  | step => exact absurd rfl noStep
  | _ => rfl

/-- The frames of a run are those of its first part, then those of the rest. -/
theorem emissions_append
    (streaming : Streaming)
    (earlier later : List StreamEvent) :
    streaming.emissions (earlier ++ later) =
      streaming.emissions earlier ++
        (streaming.run earlier).emissions later := by
  induction earlier generalizing streaming with
  | nil => rfl
  | cons event rest inductionHypothesis =>
      rw [List.cons_append, emissions, emissions, inductionHypothesis,
        List.append_assoc]
      rfl

namespace Keeps

theorem moves
    (keeps : streaming.Keeps options began past)
    (stepped :
      streaming.session.step? streaming.agent streaming.now =
        some next) :
    streaming.session.Moves streaming.now next :=
  Session.moves_of_step keeps.begun keeps.remembers.due stepped

/-- A step that emits nothing keeps the frames timely. -/
theorem still
    (keeps : streaming.Keeps options began past)
    (still : streaming.session.Still next)
    (begun : next.phase.isOpening = false)
    (due : next.IsDue streaming.now next.phase)
    (goesOn : streaming.session.phase ≠ .stopped) :
    (streaming.stepped next).Keeps options began past where
  begun := begun
  options_eq := still.options_eq.trans keeps.options_eq
  remembers := keeps.remembers.still still due
  began_le := still.lastEmit_eq ▸ keeps.began_le
  lastEmit_eq := fun _ => still.lastEmit_eq.trans (keeps.lastEmit_eq goesOn)
  emitted_le := fun _ emission member =>
    still.lastEmit_eq ▸ keeps.emitted_le goesOn emission member
  data_le := still.lastData_eq ▸ keeps.data_le
  timely := keeps.timely

/-- What is handed over now comes after all that was handed over before. -/
theorem emitted_le_now
    (keeps : streaming.Keeps options began past)
    (goesOn : streaming.session.phase ≠ .stopped)
    {emission : Emission}
    (member : emission ∈ past) :
    emission.time ≤ streaming.now :=
  Nat.le_trans (keeps.emitted_le goesOn emission member)
    keeps.remembers.lastEmit_le

/-- The frame that the session holds is not handed over too early. -/
theorem timely_concat
    (keeps : streaming.Keeps options began past)
    {frame : Frame}
    (sending : streaming.session.phase = .sending frame) :
    Emission.Timely options began
      (past ++ [{ frame := frame, time := streaming.now }]) := by
  have goesOn : streaming.session.phase ≠ .stopped := by
    rw [sending]
    exact nofun
  have due := keeps.remembers.due
  rw [sending] at due
  apply keeps.timely.concat
  · intro isData earlier member earlierIsData
    cases frame with
    | data document =>
        obtain ⟨time, sent, notAfter⟩ :=
          keeps.data_le earlier member earlierIsData
        have paced := keeps.remembers.interval_le due sent
        rw [keeps.options_eq] at paced
        exact Nat.le_trans (Nat.add_le_add_right notAfter _) paced
    | heartbeat header endSequence => cases isData
    | failure document => cases isData
  · intro isHeartbeat earlier member
    cases frame with
    | heartbeat header endSequence =>
        have notAfter := keeps.emitted_le goesOn earlier member
        have isDue : streaming.session.heartbeatDeadline ≤ streaming.now := due
        rw [Session.heartbeatDeadline, keeps.options_eq] at isDue
        exact Nat.le_trans (Nat.add_le_add_right notAfter _) isDue
    | data document => cases isHeartbeat
    | failure document => cases isHeartbeat
  · intro isHeartbeat
    cases frame with
    | heartbeat header endSequence =>
        have isDue : streaming.session.heartbeatDeadline ≤ streaming.now := due
        rw [Session.heartbeatDeadline, keeps.options_eq] at isDue
        exact Nat.le_trans (Nat.add_le_add_right keeps.began_le _) isDue
    | data document => cases isHeartbeat
    | failure document => cases isHeartbeat

/-- A frame that is emitted when it is due keeps the frames timely. -/
theorem emit
    (keeps : streaming.Keeps options began past)
    {frame : Frame}
    (sending : streaming.session.phase = .sending frame) :
    (streaming.stepped
      (streaming.session.emit streaming.now frame)).Keeps options began
        (past ++ [{ frame := frame, time := streaming.now }]) := by
  have goesOn : streaming.session.phase ≠ .stopped := by
    rw [sending]
    exact nofun
  have emittedLe :
      ∀ emission ∈ past ++ [{ frame := frame, time := streaming.now }],
        emission.time ≤ streaming.now := by
    intro emission member
    rcases List.mem_append.mp member with inPast | isNewest
    · exact keeps.emitted_le_now goesOn inPast
    · exact
        Nat.le_of_eq
          (congrArg Emission.time (List.mem_singleton.mp isNewest))
  have beganLe : began ≤ streaming.now :=
    Nat.le_trans keeps.began_le keeps.remembers.lastEmit_le
  have heardEq :
      streaming.now =
        Emission.lastHeard began
          (past ++ [{ frame := frame, time := streaming.now }]) :=
    (Emission.lastHeard_concat began past
      { frame := frame, time := streaming.now }).symm
  have dataLe
      (notData : frame.isData = false) :
      ∀ emission ∈ past ++ [{ frame := frame, time := streaming.now }],
        emission.frame.isData = true →
        ∃ time,
          streaming.session.lastData = some time ∧ emission.time ≤ time := by
    intro emission member isData
    rcases List.mem_append.mp member with inPast | isNewest
    · exact keeps.data_le emission inPast isData
    · rw [List.mem_singleton.mp isNewest, notData] at isData
      cases isData
  have timely := keeps.timely_concat sending
  have remembers := keeps.remembers.emit frame
  cases frame with
  | data document =>
      exact
        { begun := rfl
          options_eq := keeps.options_eq
          remembers := remembers
          began_le := beganLe
          lastEmit_eq := fun _ => heardEq
          emitted_le := fun _ => emittedLe
          data_le := fun emission member _ =>
            ⟨_, rfl, emittedLe emission member⟩
          timely := timely }
  | heartbeat header endSequence =>
      exact
        { begun := rfl
          options_eq := keeps.options_eq
          remembers := remembers
          began_le := beganLe
          lastEmit_eq := fun _ => heardEq
          emitted_le := fun _ => emittedLe
          data_le := dataLe rfl
          timely := timely }
  | failure document =>
      exact
        { begun := rfl
          options_eq := keeps.options_eq
          remembers := remembers
          began_le := keeps.began_le
          lastEmit_eq := fun goesOn => absurd rfl goesOn
          emitted_le := fun goesOn => absurd rfl goesOn
          data_le := dataLe rfl
          timely := timely }

/-- Every event keeps the times, and adds what it hands over. -/
theorem after
    (keeps : streaming.Keeps options began past)
    (event : StreamEvent) :
    (streaming.after event).Keeps options began
      (past ++ streaming.handedOver event) := by
  cases event with
  | command command =>
      rw [handedOver_of_ne (.command command) nofun, List.append_nil]
      exact { keeps with }
  | enter command =>
      rw [handedOver_of_ne (.enter command) nofun, List.append_nil]
      exact { keeps with }
  | announce =>
      rw [handedOver_of_ne .announce nofun, List.append_nil]
      exact { keeps with }
  | pass millis =>
      rw [handedOver_of_ne (.pass millis) nofun, List.append_nil]
      exact { keeps with remembers := keeps.remembers.pass millis }
  | step =>
      cases stepped :
          streaming.session.step? streaming.agent streaming.now with
      | none =>
          rw [handedOver_of_none stepped, List.append_nil,
            after_step_of_none stepped]
          exact keeps
      | some next =>
          have goesOn := Session.phase_ne_of_step stepped
          cases keeps.moves stepped with
          | still still begun due =>
              rw [handedOver_of_still stepped still.queue_eq, List.append_nil,
                after_step_of_some stepped]
              exact keeps.still still begun due goesOn
          | emits frame sending nextEq =>
              subst nextEq
              rw [handedOver_of_emit stepped, after_step_of_some stepped]
              exact keeps.emit sending
  | receive =>
      rw [handedOver_of_ne .receive nofun, List.append_nil]
      cases popped : streaming.session.queue.pop? with
      | none =>
          rw [after_receive_of_none popped]
          exact keeps
      | some taken =>
          rw [after_receive_of_some popped]
          exact { keeps with remembers := { keeps.remembers with } }
  | stop =>
      rw [handedOver_of_ne .stop nofun, List.append_nil]
      exact { keeps with remembers := { keeps.remembers with } }
  | disconnect =>
      rw [handedOver_of_ne .disconnect nofun, List.append_nil]
      exact { keeps with remembers := { keeps.remembers with } }

/-- Over a whole run the frames stay timely. -/
theorem run
    (keeps : streaming.Keeps options began past)
    (events : List StreamEvent) :
    (streaming.run events).Keeps options began
      (past ++ streaming.emissions events) := by
  induction events generalizing streaming past with
  | nil =>
      rw [emissions, List.append_nil]
      exact keeps
  | cons event rest inductionHypothesis =>
      rw [emissions, ← List.append_assoc]
      exact inductionHypothesis (keeps.after event)

end Keeps

/-! ## What goes into the queue -/

/-- What an event hands over comes behind all that was put into the queue before. -/
theorem channelled_after
    (delivers : streaming.Delivers)
    (event : StreamEvent) :
    (streaming.after event).channelled =
      streaming.channelled ++
        (streaming.handedOver event).map Emission.frame := by
  cases event with
  | step =>
      cases stepped :
          streaming.session.step? streaming.agent streaming.now with
      | none =>
          rw [handedOver_of_none stepped, after_step_of_none stepped]
          exact (List.append_nil _).symm
      | some next =>
          rw [after_step_of_some stepped]
          rcases Session.queue_of_step stepped with
            queueEq | ⟨frame, sending, nextEq⟩
          · rw [handedOver_of_still stepped queueEq]
            simp only [channelled, Streaming.stepped, queueEq, List.map_nil,
              List.append_nil]
          · subst nextEq
            rw [handedOver_of_emit stepped]
            simp only [channelled, Streaming.stepped, Session.queue_emit,
              Queue.toList_push, List.map_cons, List.map_nil,
              List.append_assoc]
  | receive =>
      rw [handedOver_of_ne .receive StreamEvent.noConfusion, List.map_nil,
        List.append_nil]
      cases popped : streaming.session.queue.pop? with
      | none => rw [after_receive_of_none popped]
      | some taken =>
          rw [after_receive_of_some popped]
          exact delivers.channelled_handed popped
  | disconnect =>
      rw [handedOver_of_ne .disconnect StreamEvent.noConfusion, List.map_nil,
        List.append_nil]
      exact streaming.channelled_disconnect
  | _ => exact (List.append_nil _).symm

/-! ## When a session begins -/

/-- Whatever happens, a session that has begun does not begin again. -/
theorem begun_after
    (begun : streaming.session.phase.isOpening = false)
    (event : StreamEvent) :
    (streaming.after event).session.phase.isOpening = false := by
  cases event with
  | step =>
      cases stepped :
          streaming.session.step? streaming.agent streaming.now with
      | none =>
          rw [after_step_of_none stepped]
          exact begun
      | some next =>
          rw [after_step_of_some stepped]
          exact Session.begun_of_step begun stepped
  | receive =>
      obtain ⟨queue, received, afterEq⟩ := streaming.after_receive_cases
      rw [afterEq]
      exact begun
  | _ => exact begun

/-- A session that has begun began before all that follows. -/
theorem begun_run
    (begun : streaming.session.phase.isOpening = false)
    (events : List StreamEvent) :
    (streaming.run events).session.phase.isOpening = false := by
  induction events generalizing streaming with
  | nil => exact begun
  | cons event rest inductionHypothesis =>
      exact inductionHypothesis (begun_after begun event)

theorem beganAt_of_begun
    (begun : streaming.session.phase.isOpening = false)
    (events : List StreamEvent) :
    streaming.beganAt events = streaming.now := by
  cases events with
  | nil => rfl
  | cons event rest => rw [beganAt, begun, if_neg Bool.false_ne_true]

/-- As long as the session has not begun, it is still to begin. -/
theorem beganAt_append
    {earlier : List StreamEvent}
    (opening : (streaming.run earlier).session.phase.isOpening = true)
    (later : List StreamEvent) :
    streaming.beganAt (earlier ++ later) =
      (streaming.run earlier).beganAt later := by
  induction earlier generalizing streaming with
  | nil => rfl
  | cons event rest inductionHypothesis =>
      have isOpening : streaming.session.phase.isOpening = true := by
        rw [← Bool.not_eq_false]
        intro begun
        have hasBegun := begun_run begun (event :: rest)
        rw [opening] at hasBegun
        cases hasBegun
      rw [List.cons_append, beganAt, if_pos isOpening]
      exact inductionHypothesis opening

/-- What follows after a session has begun does not change when it began. -/
theorem beganAt_append_of_begun
    {earlier : List StreamEvent}
    (begun : (streaming.run earlier).session.phase.isOpening = false)
    (later : List StreamEvent) :
    streaming.beganAt (earlier ++ later) = streaming.beganAt earlier := by
  induction earlier generalizing streaming with
  | nil => exact beganAt_of_begun begun later
  | cons event rest inductionHypothesis =>
      rw [List.cons_append, beganAt, beganAt, inductionHypothesis begun]

/-- The step with which the session leaves the opening is the one in which it begins. -/
theorem beganAt_of_turn
    {before : List StreamEvent}
    (opening : (streaming.run before).session.phase.isOpening = true)
    (begun :
      ((streaming.run before).after .step).session.phase.isOpening = false)
    (after : List StreamEvent) :
    streaming.beganAt (before ++ .step :: after) =
      (streaming.run before).now := by
  rw [beganAt_append opening, beganAt, if_pos opening, beganAt_of_begun begun]
  cases stepped :
      (streaming.run before).session.step? (streaming.run before).agent
        (streaming.run before).now with
  | none => rw [after_step_of_none stepped]
  | some next =>
      rw [after_step_of_some stepped]
      rfl

namespace Opening

/-- All that goes into the queue is among the emissions, in the same order. -/
theorem map_emissions
    (opening : streaming.Opening options)
    (events : List StreamEvent) :
    (streaming.emissions events).map Emission.frame =
      (streaming.run events).channelled := by
  induction events using List.reverseRecOn with
  | nil => exact opening.channelled_nil.symm
  | append_singleton earlier event inductionHypothesis =>
      have nextEq := channelled_after (opening.course earlier).delivers event
      rw [run_append, emissions_append, List.map_append, inductionHypothesis,
        emissions, emissions, List.append_nil]
      exact nextEq.symm

/-- Before the session has begun nothing is handed over. -/
theorem emissions_nil
    (opening : streaming.Opening options)
    {events : List StreamEvent}
    (stillOpening : (streaming.run events).Opening options) :
    streaming.emissions events = [] := by
  apply List.map_eq_nil_iff.mp
  rw [opening.map_emissions]
  exact stillOpening.channelled_nil

/-- The step that finds the starting point hands nothing over, and takes down the time. -/
theorem keeps_of_starts
    (opening : streaming.Opening options)
    {start : StreamStart}
    (starts : streaming.Starts start) :
    streaming.handedOver .step = [] ∧
      (streaming.after .step).Keeps options streaming.now [] := by
  obtain ⟨stepEq, _⟩ := opening.after_starts starts
  constructor
  · exact
      handedOver_of_still
        (Session.place_of_found starts.placing starts.found _) rfl
  · rw [stepEq]
    exact
      { begun := rfl
        options_eq := opening.options_eq
        remembers := .placed opening.lastData_eq start.cursor
        began_le := Nat.le_refl _
        lastEmit_eq := fun _ => rfl
        emitted_le := fun _ _ member => nomatch member
        data_le := fun _ member => nomatch member
        timely := Emission.timely_nil options _ }

/-- Once a session has found its starting point, the times that it remembers are those of the emissions. -/
theorem keeps_of_started
    (opening : streaming.Opening options)
    {before : List StreamEvent}
    (stillOpening : (streaming.run before).Opening options)
    {start : StreamStart}
    (starts : (streaming.run before).Starts start)
    (after : List StreamEvent) :
    (streaming.run (before ++ .step :: after)).Keeps options
      (streaming.beganAt (before ++ .step :: after))
      (streaming.emissions (before ++ .step :: after)) := by
  obtain ⟨nothing, keeps⟩ := stillOpening.keeps_of_starts starts
  rw [beganAt_of_turn stillOpening.opening keeps.begun, run_append,
    emissions_append, opening.emissions_nil stillOpening, emissions, nothing]
  exact keeps.run after

/-- A session that refuses its options hands over an error at most. -/
theorem emitted_of_refused
    (opening : streaming.Opening options)
    {before : List StreamEvent}
    (stillOpening : (streaming.run before).Opening options)
    {fault : Fault}
    (refuses :
      (streaming.run before).session.Refuses (streaming.run before).agent
        fault)
    (after : List StreamEvent) :
    ∀ emission ∈ streaming.emissions (before ++ .step :: after),
      emission.frame.isData = false ∧ emission.frame.isHeartbeat = false := by
  intro emission member
  have wasMade :
      emission.frame ∈
        (streaming.run (before ++ .step :: after)).made.map
          MadeFrame.frame := by
    have delivers := (opening.course (before ++ .step :: after)).delivers
    apply delivers.channelled_prefix.subset
    rw [← opening.map_emissions]
    exact List.mem_map_of_mem member
  rw [run_append] at wasMade
  rcases made_of_refuses stillOpening refuses after with
    madeNil | ⟨_, _, _, madeEq⟩
  · rw [madeNil] at wasMade
    cases wasMade
  · rw [madeEq, List.mem_singleton] at wasMade
    rw [wasMade]
    exact ⟨rfl, rfl⟩

end Opening

/--
Whatever happens beside a stream and however long frames wait for the client,
the frames that go into the queue, one after the other, do not go early: those
with observations are apart by the interval, and a heartbeat comes after
nothing has been handed over for as long as a heartbeat waits.
-/
theorem frames_never_early
    (plan : AgentPlan)
    (begun : Timestamp)
    (options : StreamOptions)
    (events : List StreamEvent) :
    ((opened plan begun options).emissions events).map Emission.frame =
        ((opened plan begun options).run events).channelled ∧
      Emission.Timely options
        ((opened plan begun options).beganAt events)
        ((opened plan begun options).emissions events) := by
  have opening : (opened plan begun options).Opening options :=
    .beside (Chronicle.sound_start plan begun) options
  refine ⟨opening.map_emissions events, ?_⟩
  cases opening.course events with
  | opening stillOpening =>
      rw [opening.emissions_nil stillOpening]
      exact Emission.timely_nil options _
  | started start before after eventsEq stillOpening starts =>
      rw [eventsEq]
      exact (opening.keeps_of_started stillOpening starts after).timely
  | refused fault before after eventsEq stillOpening refuses =>
      rw [eventsEq]
      exact .of_failures (opening.emitted_of_refused stillOpening refuses after)

-- The second value waits for the interval, and a heartbeat for a second of silence after it.
example :
    ((opened .oneItem ⟨0⟩ { interval := 500, heartbeat := 1000 }).emissions
      (.command (AgentPlan.oneItemValue "1") :: List.replicate 11 .step ++
        [.command (AgentPlan.oneItemValue "2"), .pass 500] ++
        List.replicate 7 .step ++
        .pass 500 :: List.replicate 7 .step ++
        .pass 500 :: List.replicate 5 .step)).map
          (fun emission => (emission.time, emission.frame.isHeartbeat)) =
      [(0, false), (500, false), (1500, true)] := by
  decide

end Streaming

end MTConnect
