import MTConnect.Host
import MTConnect.Proofs.Document.Decoding
import MTConnect.Proofs.Stream.Ending
import MTConnect.Proofs.Stream.Framing

namespace MTConnect

/-!
# Streams that go out as bodies

A body is polled while its stream goes on: in any order and between any two
steps of the session the agent is written to, time passes, and somebody asks
the body for more. Every frame that the session puts into the queue comes out
as one part, in the order of the frames. When the session has ended and its
queue is empty, one closing boundary follows, and nothing follows that.
-/

/-- A stream that is read as the parts of a body, and what the body has yielded. -/
structure StreamBody where
  streaming : Streaming
  reader : StreamReader := .web false
  yielded : List Delivery := []

/-- What can happen to a stream while its body is read. -/
inductive BodyEvent where
  /-- The agent is told something, and what it logs is announced. -/
  | command (command : Agent.Command)
  /-- The agent is told something, and what it logs is not announced yet. -/
  | enter (command : Agent.Command)
  /-- Something that was logged is announced. -/
  | announce
  /-- Time passes. -/
  | pass (millis : Nat)
  /-- The session takes a step, if it does not have to wait. -/
  | step
  | stop
  /-- The body is asked for more. -/
  | poll
  deriving DecidableEq

/-- What an event is to the stream. -/
def BodyEvent.streamEvent : BodyEvent → StreamEvent
  | .command told => .command told
  | .enter told => .enter told
  | .announce => .announce
  | .pass millis => .pass millis
  | .step => .step
  | .stop => .stop
  | .poll => .receive

/-- The part of a frame as a body yields it. -/
def Frame.delivery (frame : Frame) : Delivery :=
  .part (Multipart.part frame) false

/-- The bytes that a delivery adds to a body. -/
def Delivery.bytes : Delivery → List UInt8
  | .part text _ => Multipart.bytes text
  | .frame _ => []
  | .closed => []

namespace StreamBody

/-- The body of a stream whose session has not begun. -/
def opened
    (plan : AgentPlan)
    (begun : Timestamp)
    (options : StreamOptions) :
    StreamBody where
  streaming := .opened plan begun options

/-- The stream of a body as a host holds it. -/
def held (body : StreamBody) : OpenStream where
  session := body.streaming.session
  reader := body.reader

/-- The body is asked for more and yields what its reader finds, if anything. -/
def poll (body : StreamBody) : StreamBody :=
  match body.held.receive? with
  | none => body
  | some (delivery, stream) =>
      { streaming :=
          { body.streaming.after .receive with session := stream.session }
        reader := stream.reader
        yielded := body.yielded ++ [delivery] }

/-- What follows an event. -/
def after (body : StreamBody) : BodyEvent → StreamBody
  | .poll => body.poll
  | event => { body with streaming := body.streaming.after event.streamEvent }

/-- What follows events, one after the other. -/
def run (body : StreamBody) (events : List BodyEvent) : StreamBody :=
  events.foldl after body

/-- All bytes of the body so far. -/
def bytes (body : StreamBody) : List UInt8 :=
  body.yielded.flatMap Delivery.bytes

/-- How far a body has got. -/
inductive Stage (body : StreamBody) : Prop where
  /-- The frames that were taken have been yielded. -/
  | flowing
      (reader_eq : body.reader = .web false)
      (yielded_eq :
        body.yielded = body.streaming.received.map Frame.delivery)
  /-- No frame will come, and the closing boundary has been yielded. -/
  | ended
      (count : Nat)
      (reader_eq : body.reader = .web true)
      (exhausted : body.streaming.session.isExhausted = true)
      (yielded_eq :
        body.yielded =
          body.streaming.received.map Frame.delivery ++
            .part Multipart.closing true :: List.replicate count .closed)

variable {body : StreamBody}

theorem isExhausted_iff {session : Session} :
    session.isExhausted = true ↔
      session.phase = .stopped ∧ session.queue.toList = [] := by
  simp [Session.isExhausted, Queue.size_eq_length]

theorem take?_of_nil
    {session : Session}
    (queueNil : session.queue.toList = []) :
    session.take? = none := by
  simp [Session.take?, Queue.pop?_eq_none queueNil]

theorem after_receive_of_nil
    {streaming : Streaming}
    (queueNil : streaming.session.queue.toList = []) :
    streaming.after .receive = streaming := by
  simp [Streaming.after, take?_of_nil queueNil]

/-- The oldest frame of the queue is yielded as a part. -/
theorem poll_of_take?
    (flowing : body.reader = .web false)
    {frame : Frame}
    {rest : Session}
    (taken : body.streaming.session.take? = some (frame, rest)) :
    body.poll =
      { streaming := body.streaming.after .receive
        reader := .web false
        yielded := body.yielded ++ [frame.delivery] } := by
  simp [poll, held, OpenStream.receive?, OpenStream.receivePart, flowing,
    taken, Streaming.after, Streaming.handed, Frame.delivery]

/-- With nothing in the queue the body has nothing to yield, unless it ends. -/
theorem poll_of_nil
    (flowing : body.reader = .web false)
    (queueNil : body.streaming.session.queue.toList = []) :
    body.poll =
      if body.streaming.session.phase = .stopped then
        { body with
          reader := .web true
          yielded := body.yielded ++ [.part Multipart.closing true] }
      else
        body := by
  have noFrame := take?_of_nil queueNil
  by_cases stopped : body.streaming.session.phase = .stopped
  · have exhausted := isExhausted_iff.mpr ⟨stopped, queueNil⟩
    simp [poll, held, OpenStream.receive?, OpenStream.receivePart, flowing,
      noFrame, exhausted, stopped, after_receive_of_nil queueNil]
  · have notExhausted : body.streaming.session.isExhausted = false := by
      rw [Bool.eq_false_iff]
      exact fun exhausted => stopped (isExhausted_iff.mp exhausted).1
    simp [poll, held, OpenStream.receive?, OpenStream.receivePart, flowing,
      noFrame, notExhausted, stopped]

/-- A body that has ended goes on telling so. -/
theorem poll_of_ended
    (ended : body.reader = .web true)
    (queueNil : body.streaming.session.queue.toList = []) :
    body.poll = { body with yielded := body.yielded ++ [.closed] } := by
  simp [poll, held, OpenStream.receive?, ended, after_receive_of_nil queueNil]

/-- Without taking a frame nothing is received. -/
theorem received_after
    (streaming : Streaming)
    {event : StreamEvent}
    (noReceive : event ≠ .receive) :
    (streaming.after event).received = streaming.received := by
  cases event with
  | step =>
      cases stepped :
          streaming.session.step? streaming.agent streaming.now with
      | none => rw [Streaming.after_step_of_none stepped]
      | some next =>
          rw [Streaming.after_step_of_some stepped]
          rfl
  | receive => exact absurd rfl noReceive
  | _ => rfl

/-- A session without frames to come stays one, and nothing is received from it. -/
theorem exhausted_after
    {streaming : Streaming}
    (exhausted : streaming.session.isExhausted = true)
    (event : StreamEvent) :
    (streaming.after event).session.isExhausted = true ∧
      (streaming.after event).received = streaming.received := by
  obtain ⟨stopped, queueNil⟩ := isExhausted_iff.mp exhausted
  cases event with
  | step =>
      have waits :
          streaming.session.step? streaming.agent streaming.now = none := by
        simp [Session.step?, stopped]
      rw [Streaming.after_step_of_none waits]
      exact ⟨exhausted, rfl⟩
  | receive =>
      rw [after_receive_of_nil queueNil]
      exact ⟨exhausted, rfl⟩
  | disconnect =>
      exact ⟨isExhausted_iff.mpr ⟨stopped, Queue.toList_empty⟩, rfl⟩
  | _ => exact ⟨exhausted, rfl⟩

theorem received_of_take?
    {streaming : Streaming}
    {frame : Frame}
    {rest : Session}
    (taken : streaming.session.take? = some (frame, rest)) :
    (streaming.after .receive).received = streaming.received ++ [frame] := by
  simp [Streaming.after, taken, Streaming.handed]

namespace Stage

/-- A poll keeps to the stages, and to the stream it is a client's taking of a frame. -/
theorem poll (stage : body.Stage) :
    body.poll.Stage ∧
      body.poll.streaming = body.streaming.after .receive := by
  cases stage with
  | flowing isFlowing yieldedEq =>
      cases taken : body.streaming.session.take? with
      | some found =>
          rw [poll_of_take? isFlowing taken]
          refine ⟨.flowing rfl ?_, rfl⟩
          simp [yieldedEq, received_of_take? taken]
      | none =>
          have queueNil : body.streaming.session.queue.toList = [] := by
            by_contra notNil
            obtain ⟨frame, rest, popped⟩ := Queue.exists_pop? notNil
            simp [Session.take?, popped] at taken
          rw [poll_of_nil isFlowing queueNil, after_receive_of_nil queueNil]
          split
          next stopped =>
            exact
              ⟨.ended 0 rfl (isExhausted_iff.mpr ⟨stopped, queueNil⟩)
                (by simp [yieldedEq]), rfl⟩
          next => exact ⟨.flowing isFlowing yieldedEq, rfl⟩
  | ended count hasEnded exhausted yieldedEq =>
      have queueNil := (isExhausted_iff.mp exhausted).2
      rw [poll_of_ended hasEnded queueNil, after_receive_of_nil queueNil]
      refine ⟨.ended (count + 1) hasEnded exhausted ?_, rfl⟩
      simp [yieldedEq, List.replicate_succ']

/-- One event keeps the stage of a body, and is one event of the stream behind it. -/
theorem after (stage : body.Stage) (event : BodyEvent) :
    (body.after event).Stage ∧
      (body.after event).streaming =
        body.streaming.after event.streamEvent := by
  by_cases isPoll : event = .poll
  · rw [isPoll]
    exact stage.poll
  · have afterEq :
        body.after event =
          { body with
            streaming := body.streaming.after event.streamEvent } := by
      cases event with
      | poll => exact absurd rfl isPoll
      | _ => rfl
    have noReceive : event.streamEvent ≠ .receive := by
      cases event with
      | poll => exact absurd rfl isPoll
      | _ => simp [BodyEvent.streamEvent]
    rw [afterEq]
    refine ⟨?_, rfl⟩
    cases stage with
    | flowing isFlowing yieldedEq =>
        exact
          .flowing isFlowing
            (by rw [received_after _ noReceive, yieldedEq])
    | ended count hasEnded exhausted yieldedEq =>
        obtain ⟨stillExhausted, sameReceived⟩ :=
          exhausted_after exhausted event.streamEvent
        exact
          .ended count hasEnded stillExhausted
            (by rw [sameReceived, yieldedEq])

/-- A run of a body keeps its stage, and is a run of the stream behind it. -/
theorem run (stage : body.Stage) (events : List BodyEvent) :
    (body.run events).Stage ∧
      (body.run events).streaming =
        body.streaming.run (events.map BodyEvent.streamEvent) := by
  induction events generalizing body with
  | nil => exact ⟨stage, rfl⟩
  | cons event rest inductionHypothesis =>
      obtain ⟨next, streamingEq⟩ := stage.after event
      obtain ⟨final, runEq⟩ := inductionHypothesis next
      exact ⟨final, runEq.trans (by rw [streamingEq]; rfl)⟩

end Stage

theorem run_replicate_succ (count : Nat) :
    body.run (List.replicate (count + 1) .poll) =
      (body.run (List.replicate count .poll)).poll := by
  simp only [run, List.replicate_succ', List.foldl_append]
  rfl

/-- As many polls as frames wait yield their parts. -/
theorem drain
    {frames : List Frame}
    (flowing : body.reader = .web false)
    (queueEq : body.streaming.session.queue.toList = frames) :
    let drained := body.run (List.replicate frames.length .poll)
    drained.reader = .web false ∧
      drained.yielded = body.yielded ++ frames.map Frame.delivery ∧
      drained.streaming.session.queue.toList = [] ∧
      drained.streaming.session.phase = body.streaming.session.phase := by
  induction frames generalizing body with
  | nil => exact ⟨flowing, (List.append_nil _).symm, queueEq, rfl⟩
  | cons frame rest inductionHypothesis =>
      have notNil : body.streaming.session.queue.toList ≠ [] := by
        simp [queueEq]
      obtain ⟨oldest, others, popped⟩ := Queue.exists_pop? notNil
      obtain ⟨rfl, restEq⟩ :=
        List.cons.inj ((Queue.toList_pop? popped).symm.trans queueEq)
      have taken :
          body.streaming.session.take? =
            some (oldest, { body.streaming.session with queue := others }) := by
        simp [Session.take?, popped]
      have afterEq :
          body.streaming.after .receive =
            body.streaming.handed oldest
              { body.streaming.session with queue := others } := by
        simp [Streaming.after, taken]
      have polled := poll_of_take? flowing taken
      rw [afterEq] at polled
      have pollFlowing : body.poll.reader = .web false := by rw [polled]
      have pollQueue : body.poll.streaming.session.queue.toList = rest := by
        rw [polled]
        exact restEq
      obtain ⟨stillFlowing, yieldedEq, queueNil, samePhase⟩ :=
        inductionHypothesis pollFlowing pollQueue
      refine ⟨stillFlowing, ?_, queueNil, ?_⟩
      · refine yieldedEq.trans ?_
        simp [polled]
      · refine samePhase.trans ?_
        rw [polled]
        rfl

end StreamBody

/-- An error ends the frames. -/
theorem IsFrameWord.nil_of_failure
    {front back : List Frame}
    (word : IsFrameWord (front ++ back))
    {document : ErrorDocument}
    (member : .failure document ∈ front) :
    back = [] := by
  induction front with
  | nil => simp at member
  | cons first rest inductionHypothesis =>
      cases first with
      | data other =>
          cases word with
          | data _ restWord =>
              exact inductionHypothesis restWord (by simpa using member)
      | heartbeat header endSequence =>
          cases word with
          | heartbeat _ _ restWord =>
              exact inductionHypothesis restWord (by simpa using member)
      | failure other =>
          rw [List.cons_append] at word
          generalize appendEq : rest ++ back = others at word
          cases word with
          | failure => exact (List.append_eq_nil_iff.mp appendEq).2

namespace Streaming

variable
  {streaming : Streaming}
  {options : StreamOptions}
  {events : List StreamEvent}

/-- As long as the client stays no frame is lost. -/
theorem lost_run
    (stays : .disconnect ∉ events) :
    (streaming.run events).lost = streaming.lost := by
  induction events generalizing streaming with
  | nil => rfl
  | cons event rest inductionHypothesis =>
      rw [List.mem_cons, not_or] at stays
      refine (inductionHypothesis stays.2).trans ?_
      cases event with
      | step =>
          cases stepped :
              streaming.session.step? streaming.agent streaming.now with
          | none => rw [after_step_of_none stepped]
          | some next =>
              rw [after_step_of_some stepped]
              rfl
      | receive =>
          obtain ⟨queue, received, afterEq⟩ := streaming.after_receive_cases
          rw [afterEq]
      | disconnect => exact absurd rfl stays.1
      | _ => rfl

/-- No session is at work any more when an error has gone into its queue. -/
theorem stopped_of_failure
    (delivers : streaming.Delivers)
    (orderly : streaming.Orderly)
    {document : ErrorDocument}
    (member : .failure document ∈ streaming.channelled) :
    streaming.session.phase = .stopped := by
  by_contra goesOn
  have madeEq := delivers.nothing_dropped (.inl goesOn)
  have silent : streaming.session.blocked = [] :=
    (madeEq ▸ orderly.word).nil_of_failure member
  have notOver : streaming.session.phase.isOver = false := by
    rw [Bool.eq_false_iff]
    intro isOver
    unfold SessionPhase.isOver at isOver
    split at isOver
    next sending => simp [Session.blocked, sending] at silent
    next stopped => exact goesOn stopped
    next => simp at isOver
  have inMade :
      Frame.failure document ∈ streaming.made.map MadeFrame.frame :=
    madeEq ▸ List.mem_append_left _ member
  obtain ⟨made, isMade, isFailure⟩ := List.mem_map.mp inMade
  have flows := orderly.flowing notOver made isMade
  simp [isFailure, Frame.isLast] at flows

end Streaming

namespace StreamBody

/-- What a body has yielded, beside the frames that its session has put into the queue. -/
structure Frames (body : StreamBody) : Prop where
  word : IsFrameWord body.streaming.channelled
  /-- Before the end there is one part for each frame that is not waiting any more. -/
  flowing :
    body.reader = .web false →
    body.yielded ++
        body.streaming.session.queue.toList.map Frame.delivery =
      body.streaming.channelled.map Frame.delivery
  /-- At the end there is one part for each frame, and one closing boundary behind them. -/
  ended :
    body.reader ≠ .web false →
    ∃ count,
      body.yielded =
        body.streaming.channelled.map Frame.delivery ++
          .part Multipart.closing true :: List.replicate count .closed
  /-- What has been yielded by then is the framing of all frames. -/
  streamed :
    body.reader ≠ .web false →
    body.bytes = Multipart.streamed body.streaming.channelled
  /-- No poll is in vain as long as frames wait. -/
  drained :
    body.reader = .web false →
    (body.run
        (List.replicate body.streaming.session.queue.size .poll)).yielded =
      body.streaming.channelled.map Frame.delivery
  /-- The session has ended as soon as its frames end with an error. -/
  stopped_of_failure :
    ∀ document,
      .failure document ∈ body.streaming.channelled →
      body.streaming.session.phase = .stopped
  /-- When the session has ended, one more poll ends the body. -/
  closed_of_stopped :
    body.reader = .web false →
    body.streaming.session.phase = .stopped →
    (body.run
        (List.replicate (body.streaming.session.queue.size + 1) .poll)).yielded =
      body.streaming.channelled.map Frame.delivery ++
        [.part Multipart.closing true]

variable {body : StreamBody}

/-- Once the closing boundary is out, the bytes are the whole body of the frames. -/
theorem bytes_of_yielded
    {frames : List Frame}
    {count : Nat}
    (yieldedEq :
      body.yielded =
        frames.map Frame.delivery ++
          .part Multipart.closing true :: List.replicate count .closed) :
    body.bytes = Multipart.streamed frames := by
  have nothing :
      (List.replicate count Delivery.closed).flatMap Delivery.bytes = [] := by
    rw [List.flatMap_eq_nil_iff]
    intro delivery member
    rw [List.eq_of_mem_replicate member]
    rfl
  rw [bytes, yieldedEq, List.flatMap_append, List.flatMap_cons, nothing,
    List.append_nil, List.flatMap_map]
  rfl

/-- What a body at any stage frames, if the frames behind it are well ordered. -/
theorem Stage.frames
    (stage : body.Stage)
    (kept : body.streaming.lost = [])
    (word : IsFrameWord body.streaming.channelled)
    (stops :
      ∀ document,
        .failure document ∈ body.streaming.channelled →
        body.streaming.session.phase = .stopped) :
    body.Frames := by
  have channelledEq :
      body.streaming.channelled =
        body.streaming.received ++
          body.streaming.session.queue.toList := by
    simp [Streaming.channelled, kept]
  cases stage with
  | flowing isFlowing yieldedEq =>
      have flowing :
          body.yielded ++
              body.streaming.session.queue.toList.map Frame.delivery =
            body.streaming.channelled.map Frame.delivery := by
        rw [yieldedEq, channelledEq, List.map_append]
      -- The frames that wait come out first, and then the queue is empty.
      obtain ⟨stillFlowing, drainedEq, queueNil, samePhase⟩ :=
        drain isFlowing rfl
      rw [← Queue.size_eq_length] at stillFlowing drainedEq queueNil samePhase
      exact
        { word := word
          flowing := fun _ => flowing
          ended := fun hasEnded => absurd isFlowing hasEnded
          streamed := fun hasEnded => absurd isFlowing hasEnded
          drained := fun _ => drainedEq.trans flowing
          stopped_of_failure := stops
          closed_of_stopped := fun _ stopped => by
            rw [run_replicate_succ, poll_of_nil stillFlowing queueNil,
              if_pos (samePhase.trans stopped)]
            simp [drainedEq, flowing] }
  | ended count hasEnded exhausted yieldedEq =>
      have notFlowing : body.reader ≠ .web false := by simp [hasEnded]
      have ended :
          body.yielded =
            body.streaming.channelled.map Frame.delivery ++
              .part Multipart.closing true ::
                List.replicate count .closed := by
        simp [channelledEq, (isExhausted_iff.mp exhausted).2, yieldedEq]
      exact
        { word := word
          flowing := fun isFlowing => absurd isFlowing notFlowing
          ended := fun _ => ⟨count, ended⟩
          streamed := fun _ => bytes_of_yielded ended
          drained := fun isFlowing => absurd isFlowing notFlowing
          stopped_of_failure := stops
          closed_of_stopped := fun isFlowing =>
            absurd isFlowing notFlowing }

/--
What a part holds is the text of the document of its frame: a frame with
observations is a sample, a heartbeat one without observations that ends at the
cursor, and an error the document that tells of it.
-/
theorem bodies_decode :
    (∀ document : SampleDocument,
      document.FitsWords →
      ∃ text,
        Multipart.bodyOf (.data document) = Multipart.bytes text ∧
          Json.decode? SampleDocument.ofJson? text = some document) ∧
      (∀ (header : Header) (endSequence : Nat),
        header.FitsWords →
        endSequence ≤ Word.top →
        ∃ text,
          Multipart.bodyOf (.heartbeat header endSequence) =
              Multipart.bytes text ∧
            Json.decode? SampleDocument.ofJson? text =
              some
                { header := header
                  endSequence := endSequence
                  observations := [] }) ∧
      ∀ document : ErrorDocument,
        document.header.FitsWords →
        ∃ text,
          Multipart.bodyOf (.failure document) = Multipart.bytes text ∧
            Json.decode? ErrorDocument.ofJson? text = some document := by
  refine ⟨?_, ?_, ?_⟩
  · intro document fits
    exact ⟨_, rfl, (SampleDocument.holds_toJson _ fits).decode⟩
  · intro header endSequence headerFits endFits
    have fits :
        (Multipart.heartbeatDocument header endSequence).FitsWords :=
      ⟨headerFits, endFits, by simp [Multipart.heartbeatDocument]⟩
    exact ⟨_, rfl, (SampleDocument.holds_toJson _ fits).decode⟩
  · intro document fits
    exact ⟨_, rfl, (ErrorDocument.holds_toJson _ fits).decode⟩

/--
Whatever frames are framed, both readers find their documents; and however the
events fall, a body yields the frames of its session, then the end, then nothing.
-/
theorem framing_reads_back :
    (∀ frames : List Frame,
      Multipart.readByLength? (Multipart.streamed frames) =
          some (frames.map Multipart.bodyOf) ∧
        Multipart.readByDelimiter? (Multipart.streamed frames) =
          some (frames.map Multipart.bodyOf)) ∧
      ∀ (plan : AgentPlan)
        (begun : Timestamp)
        (options : StreamOptions)
        (events : List BodyEvent),
        ((opened plan begun options).run events).Frames := by
  refine
    ⟨fun frames =>
      ⟨Multipart.readByLength?_streamed frames,
        Multipart.readByDelimiter?_streamed frames⟩, ?_⟩
  intro plan begun options events
  have atFirst : (opened plan begun options).Stage := .flowing rfl rfl
  obtain ⟨stage, streamingEq⟩ := atFirst.run events
  have sound := Chronicle.sound_start plan begun
  have course :=
    Streaming.course_beside sound options (events.map BodyEvent.streamEvent)
  have orderly :=
    (Streaming.Orderly.beside (.start plan begun) options).run
      (events.map BodyEvent.streamEvent)
  have stays : .disconnect ∉ events.map BodyEvent.streamEvent := by
    intro member
    obtain ⟨event, _, isDisconnect⟩ := List.mem_map.mp member
    cases event <;> simp [BodyEvent.streamEvent] at isDisconnect
  refine stage.frames ?_ ?_ ?_
  · rw [streamingEq]
    exact Streaming.lost_run stays
  · rw [streamingEq]
    exact orderly.word.of_prefix course.delivers.channelled_prefix
  · rw [streamingEq]
    exact fun document member =>
      Streaming.stopped_of_failure course.delivers orderly member

end StreamBody

end MTConnect
