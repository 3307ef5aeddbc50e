import MTConnect.Adapter.Record
import MTConnect.Agent.Writes
import MTConnect.Text.Blank
import MTConnect.Text.Utf8

namespace MTConnect

/-!
# Adapter feeds

A feed brings the lines of an adapter's connection to the agent. Lines end at
line feeds, wherever the chunks of the connection are cut. A line that is not
a record, or is not even text, is skipped; only a fatal fault of the agent or
a broken connection ends a feed early. When the feed is over, every device
that it reported on is marked unavailable.
-/

/-- Why a line, or a whole feed, failed. -/
inductive AdapterFault where
  /-- The line is no record. -/
  | malformed
  | agent (fault : Fault)
  /-- The connection broke. -/
  | broken (reason : String)
  deriving Repr, DecidableEq, Inhabited

/-- Whether a feed must end because of a fault. -/
def AdapterFault.isFatal : AdapterFault → Bool
  | .agent fault => fault.isFatal
  | _ => false

/-- The wording of a broken connection. -/
def AdapterFault.brokenMessage (reason : String) : String :=
  "Read error: " ++ reason

namespace Agent

/-- Forget the result of a write. -/
def withoutResult {α : Type} (written : Written α) : Written Unit :=
  (written.1.map fun _ => (), written.2)

/-- The values of an observation record; the short form wins over an entry `value`. -/
def recordValues (value? : Option String) (values : Values) : Values :=
  match value? with
  | some value => values.insert valueKey value
  | none => values

/-- Write what a record reports; records without a time happen now. -/
def applyRecord (agent : Agent) (record : AdapterRecord) : Written Unit :=
  let time := record.timestamp?.getD agent.clock
  match record with
  | .observation device item value? values _ =>
      let all := recordValues value? values
      if all.isEmpty then
        (.error (.invalidRequest (.noValue device item)), agent)
      else
        withoutResult (agent.append device item all time)
  | .unavailable device (some item) _ =>
      withoutResult (agent.markUnavailable device item time)
  | .unavailable device none _ =>
      withoutResult (agent.markDeviceUnavailable device time)
  | .asset device id kind payload removed _ =>
      withoutResult (agent.upsertAsset device id kind payload removed time)

/--
Write what a line reports. The answer is the device key of the record, or
none for a blank line.
-/
def takeLine (agent : Agent) (line : List Char) : Except AdapterFault (Option String) × Agent :=
  let text := Text.trim line
  if text.isEmpty then
    (.ok none, agent)
  else
    match AdapterRecord.read? text with
    | none => (.error .malformed, agent)
    | some record =>
        match agent.applyRecord record with
        | (.error fault, after) => (.error (.agent fault), after)
        | (.ok (), after) => (.ok (some record.device), after)

end Agent

/-- What one read from a connection brings. -/
inductive Chunk where
  /-- Some bytes; none of them at the end of the input. -/
  | bytes (bytes : List UInt8)
  /-- The connection broke. -/
  | broken (reason : String)
  deriving Repr, DecidableEq, Inhabited

/-- A feed in progress. -/
structure Feed where
  agent : Agent
  /-- The device keys that were reported on, each once. -/
  reported : List String := []
  /-- How many records were written. -/
  applied : Nat := 0

namespace Feed

/-- Count a written record. -/
def note (feed : Feed) (device : String) : Feed :=
  { feed with
    reported :=
      if feed.reported.contains device then feed.reported
      else feed.reported ++ [device]
    applied := feed.applied + 1 }

/-- Take the bytes of a line; a fault is reported only if it is fatal. -/
def takeBytes (feed : Feed) (line : List UInt8) : Option AdapterFault × Feed :=
  match Text.Utf8.decode? line with
  | none => (none, feed)
  | some text =>
      match feed.agent.takeLine text with
      | (.ok (some device), after) =>
          (none, { feed with agent := after }.note device)
      | (.ok none, after) => (none, { feed with agent := after })
      | (.error fault, after) =>
          (if fault.isFatal then some fault else none,
            { feed with agent := after })

/-- Take lines until one of them fails fatally. -/
def takeAll (feed : Feed) : List (List UInt8) → Option AdapterFault × Feed
  | [] => (none, feed)
  | line :: rest =>
      match feed.takeBytes line with
      | (some fault, after) => (some fault, after)
      | (none, after) => after.takeAll rest

/-- The byte that ends a line. -/
def lineFeed : UInt8 := 0x0A

/-- The lines that end within some bytes, and the bytes after the last end. -/
def cutLines : List UInt8 → List (List UInt8) × List UInt8
  | [] => ([], [])
  | byte :: rest =>
      let (lines, tail) := cutLines rest
      if byte = lineFeed then
        ([] :: lines, tail)
      else
        match lines with
        | [] => ([], byte :: tail)
        | line :: others => ((byte :: line) :: others, tail)

/--
Take what a connection brings. `pending` is the beginning of a line that has
not ended yet. At the end of the input it counts as a line; input may go on
after an end that left such a line, but not after one that did not.
-/
def takeChunks (feed : Feed) (pending : List UInt8) : List Chunk → Option AdapterFault × Feed
  | [] => if pending.isEmpty then (none, feed) else feed.takeBytes pending
  | .broken reason :: _ => (some (.broken reason), feed)
  | .bytes [] :: rest =>
      if pending.isEmpty then
        (none, feed)
      else
        match feed.takeBytes pending with
        | (some fault, after) => (some fault, after)
        | (none, after) => after.takeChunks [] rest
  | .bytes bytes :: rest =>
      let (lines, tail) := cutLines (pending ++ bytes)
      match feed.takeAll lines with
      | (some fault, after) => (some fault, after)
      | (none, after) => after.takeChunks tail rest

/-- Mark reported devices unavailable; a fault does not keep the others from it. -/
def close (agent : Agent) (now : Timestamp) (devices : List String) : Agent :=
  devices.foldl
    (fun soFar device => (soFar.markDeviceUnavailable device now).2)
    agent

end Feed

/-- The whole life of a connection: how many records it brought, or why it failed. -/
def Agent.ingest (agent : Agent) (chunks : List Chunk) : Except AdapterFault Nat × Agent :=
  let (fault?, feed) := Feed.takeChunks { agent := agent } [] chunks
  let closed := Feed.close feed.agent agent.clock feed.reported
  match fault? with
  | some fault => (.error fault, closed)
  | none => (.ok feed.applied, closed)

end MTConnect
