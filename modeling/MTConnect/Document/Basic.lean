import MTConnect.Asset.Record
import MTConnect.Device.Description
import MTConnect.Fault
import MTConnect.Observation.Basic
import MTConnect.Observation.Window

namespace MTConnect

/-!
# Response documents

Every answer of the agent is a document with a header. The header says which
history the document belongs to and which sequence numbers it covers, so that
a client can tell whether it may go on reading.
-/

/-- The version of the document schema. -/
structure SchemaVersion where
  major : Nat
  minor : Nat
  deriving Repr, DecidableEq, Inhabited

namespace SchemaVersion

/-- The version that the agent serves. -/
def current : SchemaVersion := ⟨2, 2⟩

/-- The two numbers with a point between them. -/
def text (version : SchemaVersion) : String :=
  toString version.major ++ "." ++ toString version.minor

end SchemaVersion

/-- What every document says about the agent. -/
structure Header where
  instanceId : Nat
  version : SchemaVersion
  created : Timestamp
  bufferSize : Nat
  firstSequence : Nat
  /-- The newest number that the document covers. -/
  lastSequence : Nat
  nextSequence : Nat
  assetBufferSize : Nat
  /-- How many live assets there are. -/
  assetCount : Nat
  deriving Repr, DecidableEq, Inhabited

/-- The window that a header describes. -/
def Header.window (header : Header) : Window where
  first := header.firstSequence
  last := header.lastSequence
  next := header.nextSequence

/-- Devices and their data items. -/
structure ProbeDocument where
  header : Header
  devices : List Device
  deriving Repr, DecidableEq, Inhabited

/-- The newest observation of each data item, now or as of some number. -/
structure CurrentDocument where
  header : Header
  observations : List Observation
  deriving Repr, DecidableEq, Inhabited

/-- The observation of a data item. -/
def CurrentDocument.observation? (document : CurrentDocument) (key : ItemKey) : Option Observation :=
  document.observations.find? fun observation => observation.key == key

/-- Observations in the order of their numbers. -/
structure SampleDocument where
  header : Header
  /-- The number to read on from, without gaps and without repetitions. -/
  endSequence : Nat
  observations : List Observation
  deriving Repr, DecidableEq, Inhabited

namespace SampleDocument

/-- Whether there is no observation. -/
def isEmpty (document : SampleDocument) : Bool :=
  document.observations.isEmpty

/-- The number of the newest observation. -/
def lastObserved? (document : SampleDocument) : Option Nat :=
  document.observations.getLast?.map Observation.sequence

end SampleDocument

/-- Assets, newest first or in the order of the request. -/
structure AssetDocument where
  header : Header
  assets : List Asset
  deriving Repr, DecidableEq, Inhabited

/-- A protocol code with its wording. -/
structure ErrorEntry where
  code : ErrorCode
  message : String
  deriving Repr, DecidableEq, Inhabited

/-- What went wrong. -/
structure ErrorDocument where
  header : Header
  errors : List ErrorEntry
  deriving Repr, DecidableEq, Inhabited

namespace ErrorDocument

/-- A document of one error. -/
def single (header : Header) (code : ErrorCode) (message : String) : ErrorDocument where
  header := header
  errors := [{ code := code, message := message }]

/-- The code of the first error. -/
def code? (document : ErrorDocument) : Option ErrorCode :=
  document.errors.head?.map ErrorEntry.code

end ErrorDocument

end MTConnect
