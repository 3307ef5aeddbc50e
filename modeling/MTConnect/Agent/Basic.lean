import MTConnect.Activity.Monitor
import MTConnect.Asset.Shelf
import MTConnect.Device.Catalog
import MTConnect.Document.Basic
import MTConnect.Instance
import MTConnect.Observation.Log

namespace MTConnect

/-!
# The agent

An agent is a device catalog, an observation log, an asset shelf and an
activity monitor under one clock and one identity. The clock is part of the
state and moves only when it is told to.
-/

/-- Bounds on how many observations a request may ask for. -/
structure QueryLimits where
  defaultCount : Nat := 100
  maximumCount : Nat := 10000
  deriving Repr, DecidableEq, Inhabited

/-- What an agent is made of before it starts. -/
structure AgentPlan where
  catalog : Catalog := {}
  bufferSize : Nat := 131072
  maxAssets : Nat := 1024
  assetLimits : SortedMap String Nat := .empty
  limits : QueryLimits := {}
  smoothing : Float := ActivityMonitor.defaultSmoothing
  deriving Repr, Inhabited

/-- The state of an agent. -/
structure Agent where
  catalog : Catalog
  clock : Timestamp
  identity : AgentInstance
  log : ObservationLog
  assets : AssetShelf
  monitor : ActivityMonitor
  limits : QueryLimits

namespace Agent

/-- A new agent that starts now. -/
def start (plan : AgentPlan) (now : Timestamp) : Agent where
  catalog := plan.catalog
  clock := now
  identity := .starting now
  log := .empty plan.bufferSize
  assets := .empty plan.maxAssets plan.assetLimits
  monitor := .empty plan.smoothing
  limits := plan.limits

/-- Set the clock. -/
def setClock (agent : Agent) (now : Timestamp) : Agent :=
  { agent with clock := now }

/-- Move the clock on. -/
def advanceClock (agent : Agent) (millis : Nat) : Agent :=
  { agent with clock := agent.clock.advance millis }

/-- Work out the rates as of now. -/
def tick (agent : Agent) : Agent :=
  { agent with monitor := agent.monitor.tick agent.clock }

/-- Throw the observations away and begin a new history; assets stay. -/
def reset (agent : Agent) : Agent :=
  { agent with
    log := agent.log.reset
    identity := agent.identity.renew agent.clock }

/-- The identifier of the current history. -/
def instanceId (agent : Agent) : Nat :=
  agent.identity.id.value

/-- The header of a document over a window. -/
def headerFor (agent : Agent) (window : Window) : Header where
  instanceId := agent.instanceId
  version := .current
  created := agent.clock
  bufferSize := agent.log.capacity
  firstSequence := window.first
  lastSequence := window.last
  nextSequence := window.next
  assetBufferSize := agent.assets.capacity
  assetCount := agent.assets.liveCount

/-- The header of a document of now. -/
def header (agent : Agent) : Header :=
  agent.headerFor agent.log.window

end Agent

end MTConnect
