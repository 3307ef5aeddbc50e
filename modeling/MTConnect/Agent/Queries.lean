import MTConnect.Agent.Basic
import MTConnect.Device.Selection

namespace MTConnect

/-!
# Reading from the agent

Each query answers with a document or a fault. Devices and paths are resolved
before counts, and counts before ranges, so that of several faults in one
request the first in this order is reported.

A query reads the log under its lock, and makes the header of its document when
the lock is free again. The two are separate functions here, of agents that
need not be the same one; a query that nothing comes in between of is both of
them on one agent.
-/

/-- A request for the newest observation of each data item. -/
structure CurrentRequest where
  device : Option String := none
  path : Option String := none
  /-- The number as of which to answer; now, if there is none. -/
  point : Option Nat := none
  deriving Repr, DecidableEq, Inhabited

/-- A request for a range of observations. -/
structure SampleRequest where
  device : Option String := none
  path : Option String := none
  first : Option Nat := none
  last : Option Nat := none
  count : Option Int := none
  deriving Repr, DecidableEq, Inhabited

/-- A request for assets. -/
structure AssetRequest where
  kind : Option String := none
  device : Option String := none
  removed : Bool := false
  count : Option Nat := none
  deriving Repr, DecidableEq, Inhabited

namespace Agent

/-- The devices, all or the one that answers to a key. -/
def probe (agent : Agent) (deviceKey? : Option String) : Except Fault ProbeDocument := do
  let devices ← agent.catalog.scope deviceKey?
  pure { header := agent.header, devices := devices }

/-- A document over the observations of a snapshot. -/
def currentOf (agent : Agent) (snapshot : Snapshot) : CurrentDocument where
  header := agent.headerFor snapshot.window
  observations := snapshot.observations

/-- The newest observation of each data item that a filter admits. -/
def snapshot
    (agent : Agent)
    (point? : Option Nat)
    (filter : ObservationFilter) :
    Except Fault Snapshot :=
  match point? with
  | none => .ok (agent.log.now filter)
  | some point => agent.log.asOf point filter

/-- What a request for current values finds in the log. -/
def currentSnapshot (agent : Agent) (request : CurrentRequest) : Except Fault Snapshot := do
  let filter ← agent.catalog.select request.device request.path
  agent.snapshot request.point filter

/-- The newest observation of each data item, now or as of a number. -/
def current (agent : Agent) (request : CurrentRequest) : Except Fault CurrentDocument := do
  let snapshot ← agent.currentSnapshot request
  pure (agent.currentOf snapshot)

/-- The count of a request, or the default one, if it is within the limits. -/
def checkedCount (agent : Agent) (count? : Option Int) : Except Fault Int :=
  let count := count?.getD (Word.toSigned agent.limits.defaultCount)
  if count = 0 then
    .error (.invalidRequest .zeroCount)
  else if agent.limits.maximumCount < count.natAbs then
    .error (.invalidRequest (.countAboveMaximum count agent.limits.maximumCount))
  else
    .ok count

/-- Refuse a range whose ends are both given and in the wrong order. -/
def checkedRange (first? last? : Option Nat) : Except Fault Unit :=
  match first?, last? with
  | some first, some last =>
      if last < first then
        .error (.invalidRequest (.reversedRange first last))
      else
        .ok ()
  | _, _ => .ok ()

/-- A document over the observations of a page. -/
def sampleOf (agent : Agent) (page : Page) : SampleDocument where
  header := agent.headerFor page.window
  endSequence := page.endSequence
  observations := page.observations

/--
What is found in the log of a range that begins at `earliest` unless it says
where. The window that gives the earliest number is looked at before the log is
read.
-/
def pageFiltered
    (agent : Agent)
    (earliest : Nat)
    (first? last? : Option Nat)
    (count : Int)
    (filter : ObservationFilter) :
    Except Fault Page := do
  checkedRange first? last?
  agent.log.range (first?.getD earliest) last? count filter

/-- A range of the observations that a filter admits, by default from the first. -/
def sampleFiltered
    (agent : Agent)
    (first? last? : Option Nat)
    (count : Int)
    (filter : ObservationFilter) :
    Except Fault SampleDocument := do
  let page ←
    agent.pageFiltered agent.log.window.first first? last? count filter
  pure (agent.sampleOf page)

/-- What a request for a sample finds in the log. -/
def samplePage
    (agent : Agent)
    (earliest : Nat)
    (request : SampleRequest) :
    Except Fault Page := do
  let filter ← agent.catalog.select request.device request.path
  let count ← agent.checkedCount request.count
  agent.pageFiltered earliest request.first request.last count filter

/-- A range of observations. -/
def sample (agent : Agent) (request : SampleRequest) : Except Fault SampleDocument := do
  let page ← agent.samplePage agent.log.window.first request
  pure (agent.sampleOf page)

/-- A document over some assets. -/
def assetsOf (agent : Agent) (assets : List Asset) : AssetDocument where
  header := agent.header
  assets := assets

/-- The identifier of the device that answers to a key, if a key is given. -/
def deviceOf (agent : Agent) (deviceKey? : Option String) : Except Fault (Option String) :=
  match deviceKey? with
  | none => .ok none
  | some key => (agent.catalog.findDevice key).map fun device => some device.uuid

/-- The assets that a request selects, newest first. -/
def assetList (agent : Agent) (request : AssetRequest) : Except Fault AssetDocument := do
  let device ← agent.deviceOf request.device
  pure
    (agent.assetsOf
      (agent.assets.list
        { kind := request.kind
          device := device
          includeRemoved := request.removed
          count := request.count }))

/-- The assets of some identifiers, in their order; all of them must be stored. -/
def assetsById (agent : Agent) (ids : List String) : Except Fault AssetDocument :=
  if ids.isEmpty then
    .error (.invalidRequest .noAssetIds)
  else
    (ids.mapM agent.assets.get).map agent.assetsOf

/-- Refuse an identifier of a history that is gone. -/
def checkInstance (agent : Agent) (presented : Nat) : Except Fault Unit :=
  agent.identity.check presented

/-- The document that tells a client of a fault. -/
def errorDocument (agent : Agent) (fault : Fault) : ErrorDocument :=
  .single agent.header fault.code fault.message

end Agent

end MTConnect
