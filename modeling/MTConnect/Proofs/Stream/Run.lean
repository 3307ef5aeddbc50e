import MTConnect.Proofs.Agent.Chronicle
import MTConnect.Proofs.Stream.Step

namespace MTConnect

/-!
# A stream and its surroundings

A stream runs beside everything else: the agent is written to, forgets, and is
reset, time passes, the client takes frames, goes away or has the stream
stopped, in any order and between any two steps of the session. What is logged
is announced after the log is free again, so the session may find it before it
is announced. A command that logs more than once may be told as several.

What holds of a stream that has begun falls into three parts: the session works
on the terms that it began with, a frame holds what it is said to hold, and the
queue hands the frames over in their order.
-/

/-- The log as it is found while its last announcements are still to come. -/
def ObservationLog.withholding (log : ObservationLog) (count : Nat) : ObservationLog :=
  { log with
    appended :=
      { log.appended with revision := log.appended.revision - count } }

/-- An observation that was entered and is not announced yet leaves the signal where it was. -/
theorem ObservationLog.withholding_announce (log : ObservationLog) :
    log.announce.withholding 1 =
      { log with appended := { log.appended with value := log.next } } :=
  rfl

/-- What a log represents does not depend on what has been announced. -/
theorem ObservationLog.Represents.withholding
    {log : ObservationLog}
    {history : History}
    (represents : log.Represents history)
    (count : Nat) :
    (log.withholding count).Represents history :=
  { represents with }

/-- The agent as it is found while the last announcements of its log are still to come. -/
def Agent.withholding (agent : Agent) (count : Nat) : Agent :=
  { agent with log := agent.log.withholding count }

/-- How often the signal of the log is published in the course of a command. -/
def Agent.announcements (agent : Agent) (command : Agent.Command) : Nat :=
  (agent.perform command).log.appended.revision - agent.log.appended.revision

/-- A frame, and where the cursor stood when it was made. -/
structure MadeFrame where
  frame : Frame
  cursor : Nat

/-- A stream session, its surroundings, and what became of its frames. -/
structure Streaming where
  chronicle : Chronicle
  session : Session
  /-- How many announcements of the log are still to come. -/
  withheld : Nat := 0
  now : Nat := 0
  /-- The frames that the client has taken, oldest first. -/
  received : List Frame := []
  /-- The frames that were in the queue when the client went. -/
  lost : List Frame := []
  /-- All frames that the session has made, oldest first. -/
  made : List MadeFrame := []

/-- What can happen to a stream. -/
inductive StreamEvent where
  /-- The agent is told something, and what it logs is announced. -/
  | command (command : Agent.Command)
  /-- The agent is told something, and what it logs is not announced yet. -/
  | enter (command : Agent.Command)
  /-- Something that was logged is announced. -/
  | announce
  /-- Time passes. -/
  | pass (millis : Nat)
  /-- The session takes a step, if it does not have to wait. -/
  | step
  /-- The client takes a frame, if there is one. -/
  | receive
  | stop
  /-- The client goes away. -/
  | disconnect
  deriving DecidableEq

/-- The command that an event gives to the agent. -/
def StreamEvent.command? : StreamEvent → Option Agent.Command
  | .command told => some told
  | .enter told => some told
  | _ => none

namespace Streaming

/-- A session that is opened beside an agent and has not begun. -/
def beside (chronicle : Chronicle) (options : StreamOptions) : Streaming where
  chronicle := chronicle
  session := .fresh options

/-- A new agent with a session that has not begun. -/
def opened
    (plan : AgentPlan)
    (begun : Timestamp)
    (options : StreamOptions) :
    Streaming :=
  beside (.start plan begun) options

/-- The agent as the session finds it. -/
def agent (streaming : Streaming) : Agent :=
  streaming.chronicle.agent.withholding streaming.withheld

/-- The agent is told something, and its announcements are still to come. -/
def entered (streaming : Streaming) (command : Agent.Command) : Streaming :=
  { streaming with
    chronicle := streaming.chronicle.perform command
    withheld :=
      streaming.withheld + streaming.chronicle.agent.announcements command }

/--
The session has taken a step. A frame that waits after it was made in it, since
no step leaves a session waiting with a frame that waited before.
-/
def stepped (streaming : Streaming) (next : Session) : Streaming :=
  { streaming with
    session := next
    made :=
      streaming.made ++
        next.blocked.map fun frame => { frame := frame, cursor := next.cursor } }

/-- The client has taken a frame off the queue. -/
def handed (streaming : Streaming) (frame : Frame) (rest : Session) : Streaming :=
  { streaming with
    session := rest
    received := streaming.received ++ [frame] }

/-- What follows an event. -/
def after (streaming : Streaming) : StreamEvent → Streaming
  | .command command =>
      { streaming with chronicle := streaming.chronicle.perform command }
  | .enter command => streaming.entered command
  | .announce => { streaming with withheld := streaming.withheld - 1 }
  | .pass millis => { streaming with now := streaming.now + millis }
  | .step =>
      match streaming.session.step? streaming.agent streaming.now with
      | none => streaming
      | some next => streaming.stepped next
  | .receive =>
      match streaming.session.take? with
      | none => streaming
      | some (frame, rest) => streaming.handed frame rest
  | .stop => { streaming with session := streaming.session.requestStop }
  | .disconnect =>
      { streaming with
        session := streaming.session.disconnect
        lost := streaming.lost ++ streaming.session.queue.toList }

/-- What follows events, one after the other. -/
def run (streaming : Streaming) (events : List StreamEvent) : Streaming :=
  events.foldl after streaming

/-- The frames that were put into the queue at some time. -/
def channelled (streaming : Streaming) : List Frame :=
  streaming.received ++ streaming.lost ++ streaming.session.queue.toList

/-- The frames that the client has, that wait for it, or that wait for room. -/
def produced (streaming : Streaming) : List Frame :=
  streaming.received ++ streaming.session.queue.toList ++
    streaming.session.blocked

/-- Neither has the session been stopped nor has its client gone. -/
def IsWanted (streaming : Streaming) : Prop :=
  streaming.session.stopRequested = false ∧
    streaming.session.receiverClosed = false

/-- The observations of all frames that the session has made. -/
def madeObservations (streaming : Streaming) : List Observation :=
  streaming.made.flatMap fun made => made.frame.observations

/-- The session has begun, and works on the terms that it began with. -/
structure Runs
    (streaming : Streaming)
    (terms : StreamTerms)
    (id : Nat) : Prop where
  chronicle : streaming.chronicle.Sound
  begun : streaming.session.phase.isOpening = false
  underway : streaming.session.Underway
  instanceId_eq : streaming.session.instanceId = id
  /-- No instance comes back that was current before. -/
  id_le : id ≤ streaming.chronicle.agent.instanceId
  filter_eq : streaming.session.filter = terms.filter
  count_eq : streaming.session.count = terms.count

/-- The frames that were made go through the queue in their order. -/
structure Delivers (streaming : Streaming) : Prop where
  /-- What was put into the queue was made. -/
  channelled_prefix :
    streaming.channelled <+: streaming.made.map MadeFrame.frame
  /-- Unless a frame was dropped at the end, all that was made is there. -/
  nothing_dropped :
    streaming.session.phase ≠ .stopped ∨ streaming.IsWanted →
    streaming.channelled ++ streaming.session.blocked =
      streaming.made.map MadeFrame.frame
  /-- Frames are lost only together with the client. -/
  nothing_lost :
    streaming.session.receiverClosed = false → streaming.lost = []
  queue_nil :
    streaming.session.receiverClosed = true →
    streaming.session.queue.toList = []

variable {streaming : Streaming} {terms : StreamTerms} {id : Nat} {next : Session}

/-! ## What follows an event -/

theorem run_append
    (streaming : Streaming)
    (earlier later : List StreamEvent) :
    streaming.run (earlier ++ later) = (streaming.run earlier).run later :=
  List.foldl_append

/-- What holds after a run and did not hold before it came about with one of its events. -/
theorem exists_turn
    (property : Streaming → Prop)
    (notYet : ¬property streaming)
    {events : List StreamEvent}
    (holds : property (streaming.run events)) :
    ∃ before event after,
      events = before ++ event :: after ∧
        ¬property (streaming.run before) ∧
        property ((streaming.run before).after event) := by
  induction events generalizing streaming with
  | nil => exact absurd holds notYet
  | cons event rest inductionHypothesis =>
      by_cases already : property (streaming.after event)
      · exact ⟨[], event, rest, rfl, notYet, already⟩
      · obtain ⟨before, turn, after, rfl, notBefore, turned⟩ :=
          inductionHypothesis already holds
        exact ⟨event :: before, turn, after, rfl, notBefore, turned⟩

/-- A step of a session that has to wait changes nothing. -/
theorem after_step_of_none
    (waits : streaming.session.step? streaming.agent streaming.now = none) :
    streaming.after .step = streaming := by
  simp [after, waits]

/-- A step that the session takes. -/
theorem after_step_of_some
    (stepped :
      streaming.session.step? streaming.agent streaming.now = some next) :
    streaming.after .step = streaming.stepped next := by
  simp [after, stepped]

/-- The client finds no frame. -/
theorem after_receive_of_none
    (popped : streaming.session.queue.pop? = none) :
    streaming.after .receive = streaming := by
  simp [after, Session.take?, popped]

/-- The client finds a frame. -/
theorem after_receive_of_some
    {frame : Frame}
    {queue : Queue Frame}
    (popped : streaming.session.queue.pop? = some (frame, queue)) :
    streaming.after .receive =
      streaming.handed frame { streaming.session with queue := queue } := by
  simp [after, Session.take?, popped]

/-- Taking a frame changes nothing but the queue and what the client has. -/
theorem after_receive_cases (streaming : Streaming) :
    ∃ queue received,
      streaming.after .receive =
        { streaming with
          session := { streaming.session with queue := queue }
          received := received } := by
  cases popped : streaming.session.queue.pop? with
  | none =>
      rw [after_receive_of_none popped]
      exact ⟨_, _, rfl⟩
  | some taken =>
      rw [after_receive_of_some popped]
      exact ⟨_, _, rfl⟩

/-- To the agent, a stream is nothing but the commands that fall into it. -/
theorem chronicle_after (streaming : Streaming) (event : StreamEvent) :
    (streaming.after event).chronicle =
      streaming.chronicle.run event.command?.toList := by
  cases event with
  | step =>
      cases stepped :
          streaming.session.step? streaming.agent streaming.now with
      | none =>
          rw [after_step_of_none stepped]
          rfl
      | some next =>
          rw [after_step_of_some stepped]
          rfl
  | receive =>
      obtain ⟨queue, received, afterEq⟩ := streaming.after_receive_cases
      rw [afterEq]
      rfl
  | _ => rfl

/-- In a run the agent carries out the commands of the events. -/
theorem chronicle_run (streaming : Streaming) (events : List StreamEvent) :
    (streaming.run events).chronicle =
      streaming.chronicle.run (events.filterMap StreamEvent.command?) := by
  induction events generalizing streaming with
  | nil => rfl
  | cons event rest inductionHypothesis =>
      have restEq := inductionHypothesis (streaming.after event)
      rw [chronicle_after] at restEq
      cases told : event.command? with
      | none =>
          rw [List.filterMap_cons_none told]
          rw [told] at restEq
          exact restEq
      | some command =>
          rw [List.filterMap_cons_some told]
          rw [told] at restEq
          exact restEq

/-- What the session finds represents what the agent has logged. -/
theorem represents_agent (sound : streaming.chronicle.Sound) :
    streaming.agent.log.Represents streaming.chronicle.history :=
  sound.represents.withholding streaming.withheld

/-! ## The terms of a session -/

namespace Runs

/-- A step keeps the terms. -/
theorem stepped
    (runs : streaming.Runs terms id)
    (goesOn : streaming.session.GoesOn next) :
    (streaming.stepped next).Runs terms id where
  chronicle := runs.chronicle
  begun := goesOn.same.begun
  underway := goesOn.underway
  instanceId_eq := goesOn.same.instanceId_eq.trans runs.instanceId_eq
  id_le := runs.id_le
  filter_eq := goesOn.same.filter_eq.trans runs.filter_eq
  count_eq := goesOn.same.count_eq.trans runs.count_eq

/-- Every step of the session goes on in one of the ways. -/
theorem goesOn
    (runs : streaming.Runs terms id)
    (stepped :
      streaming.session.step? streaming.agent streaming.now = some next) :
    streaming.session.GoesOn next :=
  Session.goesOn_of_step runs.underway runs.begun
    (represents_agent runs.chronicle) stepped

/-- Whatever happens, the session keeps its terms. -/
theorem after
    (runs : streaming.Runs terms id)
    (event : StreamEvent) :
    (streaming.after event).Runs terms id := by
  cases event with
  | command command =>
      exact
        { runs with
          chronicle := runs.chronicle.perform command
          id_le :=
            Nat.le_trans runs.id_le
              (streaming.chronicle.instanceId_le_perform command) }
  | enter command =>
      exact
        { runs with
          chronicle := runs.chronicle.perform command
          id_le :=
            Nat.le_trans runs.id_le
              (streaming.chronicle.instanceId_le_perform command) }
  | announce => exact { runs with }
  | pass millis => exact { runs with }
  | step =>
      cases stepped :
          streaming.session.step? streaming.agent streaming.now with
      | none =>
          rw [after_step_of_none stepped]
          exact runs
      | some next =>
          rw [after_step_of_some stepped]
          exact runs.stepped (runs.goesOn stepped)
  | receive =>
      obtain ⟨queue, received, afterEq⟩ := streaming.after_receive_cases
      rw [afterEq]
      exact { runs with underway := { runs.underway with } }
  | stop => exact { runs with underway := { runs.underway with } }
  | disconnect => exact { runs with underway := { runs.underway with } }

end Runs

/-! ## The way through the queue -/

theorem channelled_disconnect (streaming : Streaming) :
    (streaming.after .disconnect).channelled = streaming.channelled := by
  simp [channelled, after, Session.disconnect]

namespace Delivers

/-- The frame that waited is dropped; it stays among those that were made. -/
theorem drop
    (delivers : streaming.Delivers)
    (same : streaming.session.SameTerms next)
    (drops : streaming.session.Drops next) :
    (streaming.stepped next).Delivers := by
  have madeEq : (streaming.stepped next).made = streaming.made := by
    simp [stepped, drops.blocked_eq]
  have channelledEq :
      (streaming.stepped next).channelled = streaming.channelled := by
    simp [channelled, stepped, drops.queue_eq]
  refine
    { channelled_prefix := ?_
      nothing_dropped := ?_
      nothing_lost := ?_
      queue_nil := ?_ }
  · rw [channelledEq, madeEq]
    exact delivers.channelled_prefix
  · rintro (goesOn | ⟨notStopped, receiverOpen⟩)
    · exact absurd drops.phase_eq goesOn
    · rw [stepped, same.stopRequested_eq] at notStopped
      rw [stepped, same.receiverClosed_eq] at receiverOpen
      rcases drops.unwanted with isStopped | isClosed
      · simp [notStopped] at isStopped
      · simp [receiverOpen] at isClosed
  · rw [stepped, same.receiverClosed_eq]
    exact delivers.nothing_lost
  · rw [stepped, same.receiverClosed_eq, drops.queue_eq]
    exact delivers.queue_nil

/-- The frame that waited moves into the queue. -/
theorem emit
    (delivers : streaming.Delivers)
    (same : streaming.session.SameTerms next)
    (goesOn : streaming.session.phase ≠ .stopped)
    {frame : Frame}
    (sending : streaming.session.phase = .sending frame)
    (emits : streaming.session.Emits next frame) :
    (streaming.stepped next).Delivers := by
  have madeEq : (streaming.stepped next).made = streaming.made := by
    simp [stepped, emits.blocked_eq]
  have all :
      (streaming.stepped next).channelled =
        streaming.made.map MadeFrame.frame := by
    rw [← delivers.nothing_dropped (.inl goesOn)]
    simp [channelled, stepped, emits.queue_eq, Session.blocked, sending]
  refine
    { channelled_prefix := ?_
      nothing_dropped := ?_
      nothing_lost := ?_
      queue_nil := ?_ }
  · simp [all, madeEq]
  · intro _
    rw [all, madeEq]
    simp only [stepped, emits.blocked_eq, List.append_nil]
  · rw [stepped, same.receiverClosed_eq]
    exact delivers.nothing_lost
  · rw [stepped, same.receiverClosed_eq, emits.receiverOpen]
    exact fun impossible => absurd impossible Bool.false_ne_true

/-- A new frame waits behind all others. -/
theorem advance
    (delivers : streaming.Delivers)
    (same : streaming.session.SameTerms next)
    (goesOn : streaming.session.phase ≠ .stopped)
    (advances : streaming.session.Advances next) :
    (streaming.stepped next).Delivers := by
  have madeEq :
      (streaming.stepped next).made.map MadeFrame.frame =
        streaming.channelled ++ next.blocked := by
    have before := delivers.nothing_dropped (.inl goesOn)
    rw [advances.idle, List.append_nil] at before
    simp [stepped, before, Function.comp_def]
  have channelledEq :
      (streaming.stepped next).channelled = streaming.channelled := by
    simp [channelled, stepped, advances.queue_eq]
  refine
    { channelled_prefix := ?_
      nothing_dropped := ?_
      nothing_lost := ?_
      queue_nil := ?_ }
  · rw [channelledEq, madeEq]
    exact List.prefix_append _ _
  · intro _
    rw [channelledEq, madeEq]
    rfl
  · rw [stepped, same.receiverClosed_eq]
    exact delivers.nothing_lost
  · rw [stepped, same.receiverClosed_eq, advances.queue_eq]
    exact delivers.queue_nil

/-- A frame that is taken moves from the end of one list to the beginning of the next. -/
theorem channelled_handed
    (delivers : streaming.Delivers)
    {frame : Frame}
    {queue : Queue Frame}
    (popped : streaming.session.queue.pop? = some (frame, queue)) :
    (streaming.handed frame
      { streaming.session with queue := queue }).channelled =
        streaming.channelled := by
  have queueEq := Queue.toList_pop? popped
  have receiverOpen : streaming.session.receiverClosed = false := by
    rw [← Bool.not_eq_true]
    intro closed
    have := delivers.queue_nil closed
    simp [queueEq] at this
  simp [channelled, Streaming.handed, delivers.nothing_lost receiverOpen,
    queueEq]

/-- The client takes the oldest frame off the queue. -/
theorem handed
    (delivers : streaming.Delivers)
    {frame : Frame}
    {queue : Queue Frame}
    (popped : streaming.session.queue.pop? = some (frame, queue)) :
    (streaming.handed frame
      { streaming.session with queue := queue }).Delivers := by
  have channelledEq := delivers.channelled_handed popped
  exact
    { channelled_prefix := channelledEq ▸ delivers.channelled_prefix
      nothing_dropped := channelledEq ▸ delivers.nothing_dropped
      nothing_lost := delivers.nothing_lost
      queue_nil := fun closed => by
        have impossible := delivers.queue_nil closed
        rw [Queue.toList_pop? popped] at impossible
        cases impossible }

theorem stop (delivers : streaming.Delivers) :
    (streaming.after .stop).Delivers :=
  { delivers with
    nothing_dropped := by
      rintro (goesOn | ⟨impossible, _⟩)
      · exact delivers.nothing_dropped (.inl goesOn)
      · simp [after, Session.requestStop] at impossible }

/-- The client goes, and what was in the queue is lost. -/
theorem disconnect (delivers : streaming.Delivers) :
    (streaming.after .disconnect).Delivers := by
  have channelledEq := streaming.channelled_disconnect
  refine
    { channelled_prefix := ?_
      nothing_dropped := ?_
      nothing_lost := ?_
      queue_nil := ?_ }
  · rw [channelledEq]
    exact delivers.channelled_prefix
  · rw [channelledEq]
    rintro (goesOn | ⟨_, impossible⟩)
    · exact delivers.nothing_dropped (.inl goesOn)
    · simp [after, Session.disconnect] at impossible
  · intro impossible
    simp [after, Session.disconnect] at impossible
  · exact fun _ => by simp [after, Session.disconnect]

end Delivers

/-! ## What holds at all times -/

/--
What holds of a stream at all times, whatever happens, once its session has
found its starting point.
-/
structure Sound
    (streaming : Streaming)
    (start : StreamStart)
    (id : Nat) : Prop where
  runs : streaming.Runs start.toStreamTerms id
  start_le : start.cursor ≤ streaming.session.cursor
  fits : ∀ made ∈ streaming.made, made.frame.Fits start.count made.cursor
  delivers : streaming.Delivers

variable {start : StreamStart}

namespace Sound

/-- The frame that waits is dropped. -/
theorem drop
    (sound : streaming.Sound start id)
    (goesOn : streaming.session.GoesOn next)
    (drops : streaming.session.Drops next) :
    (streaming.stepped next).Sound start id where
  runs := sound.runs.stepped goesOn
  start_le := drops.cursor_eq.symm ▸ sound.start_le
  fits := by
    have madeEq : (streaming.stepped next).made = streaming.made := by
      simp [stepped, drops.blocked_eq]
    exact madeEq.symm ▸ sound.fits
  delivers := sound.delivers.drop goesOn.same drops

/-- The frame that waits goes into the queue. -/
theorem emit
    (sound : streaming.Sound start id)
    (goesOn : streaming.session.GoesOn next)
    (notStopped : streaming.session.phase ≠ .stopped)
    {frame : Frame}
    (sending : streaming.session.phase = .sending frame)
    (emits : streaming.session.Emits next frame) :
    (streaming.stepped next).Sound start id where
  runs := sound.runs.stepped goesOn
  start_le := emits.cursor_eq.symm ▸ sound.start_le
  fits := by
    have madeEq : (streaming.stepped next).made = streaming.made := by
      simp [stepped, emits.blocked_eq]
    exact madeEq.symm ▸ sound.fits
  delivers := sound.delivers.emit goesOn.same notStopped sending emits

/-- The cursor stays or moves on, and a frame may be made. -/
theorem advance
    (sound : streaming.Sound start id)
    (goesOn : streaming.session.GoesOn next)
    (notStopped : streaming.session.phase ≠ .stopped)
    (advances : streaming.session.Advances next) :
    (streaming.stepped next).Sound start id where
  runs := sound.runs.stepped goesOn
  start_le := Nat.le_trans sound.start_le advances.cursor_le
  fits := by
    intro made member
    rcases List.mem_append.mp member with earlier | isNew
    · exact sound.fits made earlier
    · obtain ⟨frame, waits, rfl⟩ := List.mem_map.mp isNew
      have fits := advances.fits frame waits
      rw [sound.runs.count_eq] at fits
      exact fits
  delivers := sound.delivers.advance goesOn.same notStopped advances

/-- The session takes a step, in whichever way it goes on. -/
theorem stepped
    (sound : streaming.Sound start id)
    (stepped :
      streaming.session.step? streaming.agent streaming.now = some next) :
    (streaming.stepped next).Sound start id ∧
      streaming.session.cursor ≤ next.cursor := by
  have goesOn := sound.runs.goesOn stepped
  have notStopped := Session.phase_ne_of_step stepped
  cases goesOn.goes with
  | dropping drops =>
      exact ⟨sound.drop goesOn drops, Nat.le_of_eq drops.cursor_eq.symm⟩
  | emitting frame sending emits =>
      exact
        ⟨sound.emit goesOn notStopped sending emits,
          Nat.le_of_eq emits.cursor_eq.symm⟩
  | advancing advances =>
      exact ⟨sound.advance goesOn notStopped advances, advances.cursor_le⟩

/-- The client takes a frame, if there is one. -/
theorem receive (sound : streaming.Sound start id) :
    (streaming.after .receive).Sound start id ∧
      streaming.session.cursor ≤
        (streaming.after .receive).session.cursor := by
  have runs := sound.runs.after .receive
  cases popped : streaming.session.queue.pop? with
  | none =>
      rw [after_receive_of_none popped]
      exact ⟨sound, Nat.le_refl _⟩
  | some taken =>
      rw [after_receive_of_some popped] at runs ⊢
      exact
        ⟨{ sound with
           runs := runs
           delivers := sound.delivers.handed popped },
          Nat.le_refl _⟩

/-- Every event keeps what holds, and none takes the cursor back. -/
theorem after
    (sound : streaming.Sound start id)
    (event : StreamEvent) :
    (streaming.after event).Sound start id ∧
      streaming.session.cursor ≤ (streaming.after event).session.cursor := by
  have runs := sound.runs.after event
  cases event with
  | command command =>
      exact
        ⟨{ sound with runs := runs, delivers := { sound.delivers with } },
          Nat.le_refl _⟩
  | enter command =>
      exact
        ⟨{ sound with runs := runs, delivers := { sound.delivers with } },
          Nat.le_refl _⟩
  | announce =>
      exact
        ⟨{ sound with runs := runs, delivers := { sound.delivers with } },
          Nat.le_refl _⟩
  | pass millis =>
      exact
        ⟨{ sound with runs := runs, delivers := { sound.delivers with } },
          Nat.le_refl _⟩
  | step =>
      cases stepped :
          streaming.session.step? streaming.agent streaming.now with
      | none =>
          rw [after_step_of_none stepped]
          exact ⟨sound, Nat.le_refl _⟩
      | some next =>
          rw [after_step_of_some stepped]
          exact sound.stepped stepped
  | receive => exact sound.receive
  | stop =>
      exact
        ⟨{ sound with runs := runs, delivers := sound.delivers.stop },
          Nat.le_refl _⟩
  | disconnect =>
      exact
        ⟨{ sound with runs := runs, delivers := sound.delivers.disconnect },
          Nat.le_refl _⟩

/-- In every run what holds goes on to hold, and the cursor does not go back. -/
theorem run
    (sound : streaming.Sound start id)
    (events : List StreamEvent) :
    (streaming.run events).Sound start id ∧
      streaming.session.cursor ≤ (streaming.run events).session.cursor := by
  induction events generalizing streaming with
  | nil => exact ⟨sound, Nat.le_refl _⟩
  | cons event rest inductionHypothesis =>
      obtain ⟨nextSound, moved⟩ := sound.after event
      obtain ⟨restSound, movedOn⟩ := inductionHypothesis nextSound
      exact ⟨restSound, Nat.le_trans moved movedOn⟩

/-- The agent retains the end of the history that the session reads, as long as it is current. -/
theorem represents
    (sound : streaming.Sound start id)
    (current : streaming.chronicle.agent.instanceId = id) :
    streaming.agent.log.Represents (streaming.chronicle.annals id) := by
  have represents := represents_agent sound.runs.chronicle
  rw [Chronicle.history, current] at represents
  exact represents

end Sound

end Streaming

end MTConnect
