import MTConnect.Agent.Queries

namespace MTConnect

/-!
# Options of a stream

A stream starts from options that a client gives and the state of the agent:
the instance must be the current one, device and path must select something,
the count must be positive and within the limits, and the starting point must
lie in the window.
-/

/-- What a client asks of a stream. Times are in milliseconds. -/
structure StreamOptions where
  device : Option String := none
  path : Option String := none
  /-- The number to start from; the first retained one, if there is none. -/
  start : Option Nat := none
  /-- The history that the starting number belongs to. -/
  instanceId : Option Nat := none
  /-- The most observations of a frame. -/
  count : Option Int := none
  /-- The least time between two frames with observations. -/
  interval : Nat := 0
  /-- The longest time without a frame. -/
  heartbeat : Nat := 10000
  /-- How many frames may wait for the client. -/
  capacity : Nat := 16
  deriving Repr, DecidableEq, Inhabited

/-- What a stream selects, and how much of it goes into one frame. -/
structure StreamTerms where
  filter : ObservationFilter
  count : Int
  deriving Repr, DecidableEq, Inhabited

/-- Where a stream starts, beside its terms. -/
structure StreamStart extends StreamTerms where
  cursor : Nat
  deriving Repr, DecidableEq, Inhabited

namespace StreamOptions

/-- The heartbeat that is used when none is given. -/
def defaultHeartbeat : Nat := 10000

/-- Set the heartbeat; zero stands for the default. -/
def withHeartbeat (options : StreamOptions) (millis : Nat) : StreamOptions :=
  { options with
    heartbeat := if millis = 0 then defaultHeartbeat else millis }

end StreamOptions

namespace Agent

/-- Check an optional identifier of a history. -/
def checkOptionalInstance (agent : Agent) (presented? : Option Nat) : Except Fault Unit :=
  match presented? with
  | none => .ok ()
  | some presented => agent.checkInstance presented

/-- Refuse a count that would read backwards. -/
def checkForward (count : Int) : Except Fault Unit :=
  if count < 0 then
    .error (.invalidRequest (.negativeStreamCount count))
  else
    .ok ()

/-- The terms of a stream, which the devices and the limits decide. -/
def streamTerms (agent : Agent) (options : StreamOptions) : Except Fault StreamTerms := do
  let filter ← agent.catalog.select options.device options.path
  let count ← agent.checkedCount options.count
  checkForward count
  pure { filter := filter, count := count }

/-- The terms of a stream whose options present the current history or none. -/
def checkedTerms (agent : Agent) (options : StreamOptions) : Except Fault StreamTerms := do
  agent.checkOptionalInstance options.instanceId
  agent.streamTerms options

/-- The starting number of a stream, if it lies in the window. -/
def streamCursor (agent : Agent) (start? : Option Nat) : Except Fault Nat :=
  let window := agent.log.window
  let start := start?.getD window.first
  if window.accepts start then
    .ok start
  else
    .error (agent.log.outOfRange start)

/-- Where a stream with some options starts, or why it cannot. -/
def prepareStream (agent : Agent) (options : StreamOptions) : Except Fault StreamStart := do
  let terms ← agent.checkedTerms options
  let cursor ← agent.streamCursor options.start
  pure { terms with cursor := cursor }

/-- Whether a stream with some options would start. -/
def validateStream (agent : Agent) (options : StreamOptions) : Except Fault Unit :=
  (agent.prepareStream options).map fun _ => ()

end Agent

end MTConnect
