import MTConnect.Stream.Session
import MTConnect.Web.Handler

namespace MTConnect

/-!
# The host of an agent

The host holds an agent together with the streams that its clients have open
and with a timer that works out rates. Time passes for streams and timer only
when the host is told to let it pass; whatever falls due meanwhile happens in
order, each thing at its own time. Between two steps every stream has gone as
far as it can.
-/

/-- Who reads a stream. -/
inductive StreamReader where
  /-- A client that holds the session and the receiving end of its queue. -/
  | direct (holdsSession holdsReceiver : Bool)
  /-- A web client that reads parts; `finished` after the closing boundary. -/
  | web (finished : Bool)
  /-- Nobody; the web client has gone. -/
  | gone
  deriving Repr, DecidableEq, Inhabited

/-- A stream and its reader. -/
structure OpenStream where
  session : Session
  reader : StreamReader

/-- What a reader receives. -/
inductive Delivery where
  | frame (frame : Frame)
  /-- A part of a web body; `final` if the body ends with it. -/
  | part (text : String) (final : Bool)
  /-- Nothing more will come. -/
  | closed
  deriving Repr, DecidableEq, Inhabited

/-- A timer that works out rates; times are in milliseconds. -/
structure RateTimer where
  interval : Nat
  due : Nat
  deriving Repr, DecidableEq, Inhabited

/-- An agent with its open streams and its timer. -/
structure Host where
  agent : Agent
  web : WebSettings := {}
  /-- How long the host has run. -/
  elapsed : Nat := 0
  timer : Option RateTimer := none
  streams : SortedMap String OpenStream := .empty

namespace OpenStream

/-- Let the session go as far as it can. -/
def settle (stream : OpenStream) (agent : Agent) (now : Nat) : OpenStream :=
  { stream with session := stream.session.settle agent now }

/-- Take what a direct client finds in the queue. -/
def receiveFrame (stream : OpenStream) : Option (Delivery × OpenStream) :=
  match stream.session.take? with
  | some (frame, session) => some (.frame frame, { stream with session := session })
  | none =>
      if stream.session.isExhausted then some (.closed, stream) else none

/-- Take what a web client reads. -/
def receivePart (stream : OpenStream) : Option (Delivery × OpenStream) :=
  match stream.session.take? with
  | some (frame, session) =>
      some (.part (Multipart.part frame) false, { stream with session := session })
  | none =>
      if stream.session.isExhausted then
        some (.part Multipart.closing true, { stream with reader := .web true })
      else
        none

/-- Take one delivery, if one is ready. -/
def receive? (stream : OpenStream) : Option (Delivery × OpenStream) :=
  match stream.reader with
  | .direct _ true => stream.receiveFrame
  | .direct _ false => none
  | .web false => stream.receivePart
  | .web true => some (.closed, stream)
  | .gone => none

/-- What the holder of the session sees of it. -/
def status? (stream : OpenStream) : Option SessionStatus :=
  match stream.reader with
  | .direct true _ => some stream.session.status
  | _ => none

/-- Ask the session to stop, if the session is held. -/
def stop (stream : OpenStream) : OpenStream :=
  match stream.reader with
  | .direct true _ => { stream with session := stream.session.requestStop }
  | _ => stream

/-- Let the session go, which stops it. -/
def dropSession (stream : OpenStream) : OpenStream :=
  match stream.reader with
  | .direct true receiver =>
      { session := stream.session.requestStop, reader := .direct false receiver }
  | _ => stream

/-- Let the receiving end go; a web client lets go of the session as well. -/
def dropReceiver (stream : OpenStream) : OpenStream :=
  match stream.reader with
  | .direct session _ =>
      { session := stream.session.disconnect, reader := .direct session false }
  | _ =>
      { session := stream.session.disconnect.requestStop, reader := .gone }

/-- When the stream goes on by itself, if nothing else happens. -/
def deadline? (stream : OpenStream) : Option Nat :=
  stream.session.deadline?

end OpenStream

namespace Host

/-- Work out the rates if the timer is due. -/
def fireTimer (host : Host) : Host :=
  match host.timer with
  | none => host
  | some timer =>
      if timer.due ≤ host.elapsed ∧ 0 < timer.interval then
        { host with
          agent := host.agent.tick
          timer := some { timer with due := host.elapsed + timer.interval } }
      else
        host

/-- Let every stream go as far as it can. -/
def settle (host : Host) : Host :=
  let fired := host.fireTimer
  { fired with
    streams := fired.streams.mapValues fun _ stream =>
      stream.settle fired.agent fired.elapsed }

/-- When the timer is due, if it runs. -/
def timerDeadline? (host : Host) : Option Nat :=
  (host.timer.filter fun timer => decide (0 < timer.interval)).map RateTimer.due

/-- The next time at which something happens by itself. -/
def nextDeadline? (host : Host) : Option Nat :=
  (host.timerDeadline?.toList ++
    host.streams.values.filterMap OpenStream.deadline?).min?

/-- Let time pass up to a point, one deadline after the other. -/
def passUntil (target : Nat) : Nat → Host → Host
  | 0, host => host
  | fuel + 1, host =>
      match host.nextDeadline? with
      | none => host
      | some deadline =>
          if deadline ≤ target then
            passUntil target fuel
              { host with elapsed := max deadline host.elapsed }.settle
          else
            host

/--
Let some milliseconds pass. After each deadline the next one is later, so
there are at most as many as milliseconds.
-/
def pass (host : Host) (millis : Nat) : Host :=
  let target := host.elapsed + millis
  let last := passUntil target (millis + 1) host.settle
  { last with elapsed := target }.settle

/-- Let the agent do something, and the streams react to it. -/
def act
    {α : Type}
    (host : Host)
    (action : Agent → α × Agent) :
    α × Host :=
  let (result, agent) := action host.agent
  (result, { host with agent := agent }.settle)

/-- Change one open stream. -/
def changeStream (host : Host) (id : String) (change : OpenStream → OpenStream) : Host :=
  match host.streams.find? id with
  | none => host
  | some stream => { host with streams := host.streams.insert id (change stream) }

/-- Open a stream for a direct client; its status is that of a session not begun. -/
def openStream (host : Host) (id : String) (options : StreamOptions) : SessionStatus × Host :=
  let session := Session.fresh options
  let stream : OpenStream :=
    { session := session, reader := .direct true true }
  (session.status, { host with streams := host.streams.insert id stream }.settle)

/-- Answer a request; a stream stays open only under an identifier. -/
def answer (host : Host) (request : Request) (id? : Option String) : Answer × Host :=
  let answer := Web.answer host.web host.agent request
  match answer, id? with
  | .stream options, some id =>
      let stream : OpenStream :=
        { session := Session.fresh options, reader := .web false }
      (answer, { host with streams := host.streams.insert id stream }.settle)
  | _, _ => (answer, host.settle)

/-- Take deliveries of a stream until none is ready, at most as many as the limit. -/
def receiveUpTo (id : String) : Nat → Host → List Delivery × Host
  | 0, host => ([], host)
  | limit + 1, host =>
      let settled := host.settle
      match (settled.streams.find? id).bind OpenStream.receive? with
      | none => ([], settled)
      | some (delivery, stream) =>
          let after := { settled with streams := settled.streams.insert id stream }
          if delivery == .closed then
            ([delivery], after)
          else
            let (others, final) := receiveUpTo id limit after
            (delivery :: others, final)

/-- More deliveries than a stream can have ready at one time. -/
def deliveryBound (host : Host) : Nat :=
  let waiting :=
    host.streams.values.foldl (fun sum stream => sum + stream.session.queue.size) 0
  host.agent.log.size + waiting + 16

/-- Take the deliveries of a stream that are ready. -/
def receive (host : Host) (id : String) (limit? : Option Nat) : List Delivery × Host :=
  let (deliveries, after) :=
    receiveUpTo id (limit?.getD host.deliveryBound) host
  (deliveries, after.settle)

/-- What the holder of a session sees of it. -/
def streamStatus? (host : Host) (id : String) : Option SessionStatus :=
  (host.streams.find? id).bind OpenStream.status?

/-- Work out rates now and then every so many milliseconds. -/
def startTimer (host : Host) (interval : Nat) : Host :=
  { host with timer := some { interval := interval, due := host.elapsed } }.settle

/-- Work out rates no longer. -/
def stopTimer (host : Host) : Host :=
  { host with timer := none }

end Host

end MTConnect
