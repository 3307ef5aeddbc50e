import MTConnect.Capacity
import MTConnect.Queue
import MTConnect.Stream.Frame
import MTConnect.Stream.Options

namespace MTConnect

/-!
# Stream sessions

A session reads the log from its cursor on and puts frames into a bounded
queue that the client empties. It is a machine of small steps. The agent is
shared with others, who may write to it between any two steps, so a step looks
at one thing that is shared and no more: at a signal, at the log under its lock,
or at what a header tells. A step either changes the session or finds that the
session has to wait. A session waits in three places: until it may read again
after a frame, until the queue has room, and until there is something new.

In each place the reasons to go on have a fixed priority. A stop comes first,
a client that has gone comes second; while waiting for something new, a new
history comes before new observations and these before the heartbeat.
-/

/-- What a session reports about itself. -/
inductive SessionStatus where
  | init
  | streaming
  | heartbeatWait
  | dataReady
  | stopped
  deriving Repr, DecidableEq, Inhabited

/-- The spelling of a status. -/
def SessionStatus.name : SessionStatus → String
  | .init => "Init"
  | .streaming => "Streaming"
  | .heartbeatWait => "HeartbeatWait"
  | .dataReady => "DataReady"
  | .stopped => "Stopped"

/-- Where a session is in its course. -/
inductive SessionPhase where
  /-- Not begun; about to watch what is logged. -/
  | starting
  /-- About to look at which history is the current one. -/
  | identifying
  /-- About to check the options. -/
  | validating
  /-- About to look for the starting point in the window. -/
  | placing
  /-- About to read, as soon as the interval since the last data allows it. -/
  | turning
  /-- Waiting for the interval to pass. -/
  | pacing (deadline : Nat)
  /-- About to compare the current history with the one that the session began in. -/
  | checking
  /-- About to take what was announced as seen. -/
  | marking
  /-- About to read the log from the cursor on. -/
  | reading
  /-- About to put a header over what was read. -/
  | heading (page : Page)
  /-- About to make the document that tells of a fault. -/
  | failing (fault : Fault)
  /-- Waiting for room for a frame. -/
  | sending (frame : Frame)
  /-- About to look whether it is stopped, its client is gone, or the history is a new one. -/
  | polling
  /-- About to look whether something was announced, or the heartbeat is due. -/
  | heeding
  /-- Waiting for something new. -/
  | waiting
  /-- About to make a heartbeat. -/
  | beating
  | stopped
  deriving Repr, DecidableEq, Inhabited

/-- A running stream. Times are in milliseconds. -/
structure Session where
  options : StreamOptions
  phase : SessionPhase := .starting
  status : SessionStatus := .init
  /-- The history that the session began in. -/
  instanceId : Nat := 0
  /-- What the session selects, and how much of it goes into one frame. -/
  filter : ObservationFilter := .all
  count : Int := 1
  /-- The number to read on from; all before it has been handed over. -/
  cursor : Nat := 0
  /-- When the last frame was handed over; before the first one, when the session began. -/
  lastEmit : Nat := 0
  /-- When the last frame with observations was handed over. -/
  lastData : Option Nat := none
  /-- The revision of the log's signal that was looked at last. -/
  seenAppends : Nat := 0
  /-- The revision of the instance's signal that was looked at last. -/
  seenInstance : Nat := 0
  /-- The frames that wait for the client. -/
  queue : Queue Frame := .empty
  stopRequested : Bool := false
  /-- Whether the client has gone. -/
  receiverClosed : Bool := false

namespace Session

/-- A session that has not begun. -/
def fresh (options : StreamOptions) : Session where
  options := options

/-- How many frames may wait; at least one. -/
def capacity (session : Session) : Nat :=
  raisedCapacity session.options.capacity

/-- End the session. -/
def halt (session : Session) : Session :=
  { session with phase := .stopped, status := .stopped }

/-- Whether the session has been stopped or its client has gone. -/
def isUnwanted (session : Session) : Bool :=
  session.stopRequested || session.receiverClosed

/-- Hand a frame over as soon as there is room. -/
def send (session : Session) (frame : Frame) : Session :=
  { session with phase := .sending frame }

/-- End the session with an error. -/
def fail (session : Session) (fault : Fault) : Session :=
  { session with phase := .failing fault }

/-- Make the error frame. -/
def report (session : Session) (agent : Agent) (fault : Fault) : Session :=
  session.send (.failure (agent.errorDocument fault))

/-! ## The beginning -/

/-- Watch what is logged from now on. -/
def subscribe (session : Session) (agent : Agent) (now : Nat) : Session :=
  { session with
    phase := .identifying
    seenAppends := agent.log.appended.revision
    lastEmit := now }

/-- Remember the current history, and watch for another one. -/
def identify (session : Session) (agent : Agent) : Session :=
  { session with
    phase := .validating
    instanceId := agent.instanceId
    seenInstance := agent.identity.id.revision }

/-- Check the options as far as the window does not matter. -/
def validate (session : Session) (agent : Agent) : Session :=
  match agent.checkedTerms session.options with
  | .error fault => session.fail fault
  | .ok terms =>
      { session with
        phase := .placing
        filter := terms.filter
        count := terms.count }

/-- Find the starting point. -/
def place (session : Session) (agent : Agent) (now : Nat) : Session :=
  match agent.streamCursor session.options.start with
  | .error fault => session.fail fault
  | .ok cursor =>
      { session with
        phase := .turning
        cursor := cursor
        lastEmit := now }

/-! ## Reading -/

/-- When the session may read again, if it has to wait for that. -/
def pacingDeadline? (session : Session) : Option Nat :=
  if session.options.interval = 0 then
    none
  else
    session.lastData.map (· + session.options.interval)

/-- Turn to the next reading. -/
def turn (session : Session) : Session :=
  let streaming := { session with status := .streaming }
  match session.pacingDeadline? with
  | none => { streaming with phase := .checking }
  | some deadline => { streaming with phase := .pacing deadline }

/-- Look at the instance's signal. -/
def lookUp (session : Session) (agent : Agent) : Session :=
  { session with seenInstance := agent.identity.id.revision }

/-- End the session because its history is gone. -/
def failInstance (session : Session) (agent : Agent) : Session :=
  session.fail (.instanceMismatch session.instanceId agent.instanceId)

/-- Go on reading only if the history is still the one that the session began in. -/
def check (session : Session) (agent : Agent) : Session :=
  let looked := session.lookUp agent
  if agent.instanceId = session.instanceId then
    { looked with phase := .marking }
  else
    looked.failInstance agent

/-- Take what was announced as seen, before the log is read. -/
def mark (session : Session) (agent : Agent) : Session :=
  { session with
    phase := .reading
    seenAppends := agent.log.appended.revision }

/-- Read the log from the cursor on. -/
def read (session : Session) (agent : Agent) : Session :=
  match agent.log.range session.cursor none session.count session.filter with
  | .error fault => session.fail fault
  | .ok page => { session with phase := .heading page }

/-- Take in a document that was read. -/
def deliver (session : Session) (document : SampleDocument) : Session :=
  let moved := { session with cursor := document.endSequence }
  if document.isEmpty then
    { moved with phase := .polling, status := .heartbeatWait }
  else
    moved.send (.data document)

/-- Whether the queue has room for a frame. -/
def hasRoom (session : Session) : Bool :=
  decide (session.queue.size < session.capacity)

/-- Put a frame into the queue and go on after it. -/
def emit (session : Session) (now : Nat) (frame : Frame) : Session :=
  let emitted := { session with queue := session.queue.push frame }
  match frame with
  | .data _ =>
      { emitted with phase := .turning, lastEmit := now, lastData := some now }
  | .heartbeat _ _ => { emitted with phase := .polling, lastEmit := now }
  | .failure _ => emitted.halt

/-! ## Waiting for something new -/

/-- When the next heartbeat is due. -/
def heartbeatDeadline (session : Session) : Nat :=
  session.lastEmit + session.options.heartbeat

/-- Look for another history. -/
def poll (session : Session) (agent : Agent) : Session :=
  if agent.identity.id.changedSince session.seenInstance then
    let looked := session.lookUp agent
    if agent.instanceId = session.instanceId then
      { looked with phase := .polling }
    else
      looked.failInstance agent
  else
    { session with phase := .heeding }

/-- Look for new observations, and for the heartbeat. -/
def heed (session : Session) (agent : Agent) (now : Nat) : Session :=
  if agent.log.appended.changedSince session.seenAppends then
    { session with
      phase := .turning
      status := .dataReady
      seenAppends := agent.log.appended.revision }
  else if session.heartbeatDeadline ≤ now then
    { session with phase := .beating }
  else
    { session with phase := .waiting }

/-- Whether there is a reason to look around again. -/
def isStirred (session : Session) (agent : Agent) (now : Nat) : Bool :=
  session.isUnwanted ||
    agent.identity.id.changedSince session.seenInstance ||
    agent.log.appended.changedSince session.seenAppends ||
    decide (session.heartbeatDeadline ≤ now)

/-- Make a heartbeat. -/
def beat (session : Session) (agent : Agent) : Session :=
  session.send (.heartbeat agent.header session.cursor)

/-! ## Steps -/

/-- One step at a time; none if the session has to wait or has ended. -/
def step? (session : Session) (agent : Agent) (now : Nat) : Option Session :=
  match session.phase with
  | .starting => some (session.subscribe agent now)
  | .identifying => some (session.identify agent)
  | .validating => some (session.validate agent)
  | .placing => some (session.place agent now)
  | .turning => some session.turn
  | .pacing deadline =>
      if session.isUnwanted then
        some session.halt
      else if deadline ≤ now then
        some { session with phase := .checking }
      else
        none
  | .checking => some (session.check agent)
  | .marking => some (session.mark agent)
  | .reading => some (session.read agent)
  | .heading page => some (session.deliver (agent.sampleOf page))
  | .failing fault => some (session.report agent fault)
  | .sending frame =>
      if session.isUnwanted then
        some session.halt
      else if session.hasRoom then
        some (session.emit now frame)
      else
        none
  | .polling =>
      if session.isUnwanted then
        some session.halt
      else
        some (session.poll agent)
  | .heeding => some (session.heed agent now)
  | .waiting =>
      if session.isStirred agent now then
        some { session with phase := .polling }
      else
        none
  | .beating => some (session.beat agent)
  | .stopped => none

/-- Take steps until the session has to wait, at most as many as the fuel allows. -/
def run (agent : Agent) (now : Nat) : Nat → Session → Session
  | 0, session => session
  | fuel + 1, session =>
      match session.step? agent now with
      | none => session
      | some next => run agent now fuel next

/--
More steps than a session can take at one time: a frame takes at most seven and
holds at least one retained observation.
-/
def stepBound (agent : Agent) : Nat :=
  8 * agent.log.size + 32

/-- Take steps until the session has to wait. -/
def settle (session : Session) (agent : Agent) (now : Nat) : Session :=
  run agent now (stepBound agent) session

/-- When the session goes on by itself, if nothing else happens. -/
def deadline? (session : Session) : Option Nat :=
  match session.phase with
  | .pacing deadline => some deadline
  | .waiting => some session.heartbeatDeadline
  | _ => none

/-- Ask the session to stop. -/
def requestStop (session : Session) : Session :=
  { session with stopRequested := true }

/-- Tell the session that its client has gone; waiting frames are lost. -/
def disconnect (session : Session) : Session :=
  { session with receiverClosed := true, queue := .empty }

/-- Take the oldest waiting frame. -/
def take? (session : Session) : Option (Frame × Session) :=
  session.queue.pop?.map fun taken =>
    (taken.1, { session with queue := taken.2 })

/-- Whether no frame will come any more. -/
def isExhausted (session : Session) : Bool :=
  session.phase == .stopped && session.queue.size == 0

end Session

end MTConnect
