import MTConnect.Activity.Monitor
import MTConnect.Decimal.Fixed
import MTConnect.Document.Basic

namespace MTConnect.Exposition

/-!
# The text exposition of activity

The activity report is written for a metrics collector, one sample on a line,
each family announced by a line of help and a line with its type. Labels name
the device, data item or asset type that a sample is about; in their values a
backslash, a quote and a line feed are escaped.
-/

/-- Whether a family only counts up or may also go down. -/
inductive Kind where
  | counter
  | gauge
  deriving Repr, DecidableEq, Inhabited

/-- The spelling of a kind. -/
def Kind.name : Kind → String
  | .counter => "counter"
  | .gauge => "gauge"

/-- A family of samples. -/
structure Family where
  name : String
  kind : Kind
  help : String
  deriving Repr, DecidableEq, Inhabited

/-- A named value that tells the samples of a family apart. -/
structure Label where
  name : String
  value : String
  deriving Repr, DecidableEq, Inhabited

/-- One line of the exposition. -/
inductive Line where
  | help (family : Family)
  | kind (family : Family)
  | sample (family : Family) (labels : List Label) (value : String)
  deriving Repr, DecidableEq, Inhabited

/-- How one character appears in the value of a label. -/
def escapeChar (character : Char) : List Char :=
  match character with
  | '\\' => ['\\', '\\']
  | '\x22' => ['\\', '\x22']
  | '\n' => ['\\', 'n']
  | _ => [character]

/-- The value of a label between its quotes. -/
def escapeLabel (value : String) : String :=
  String.ofList (value.toList.flatMap escapeChar)

/-- A label with its quoted value. -/
def Label.text (label : Label) : String :=
  label.name ++ "=\"" ++ escapeLabel label.value ++ "\""

/-- The labels of a sample in braces; nothing if there are none. -/
def labelText (labels : List Label) : String :=
  if labels.isEmpty then
    ""
  else
    "\x7b" ++ ",".intercalate (labels.map Label.text) ++ "\x7d"

/-- A line with a lead in front of the name of its family. -/
def Line.text (lead : String) : Line → String
  | .help family => "# HELP " ++ lead ++ family.name ++ " " ++ family.help
  | .kind family => "# TYPE " ++ lead ++ family.name ++ " " ++ family.kind.name
  | .sample family labels value =>
      lead ++ family.name ++ labelText labels ++ " " ++ value

/-- The two lines that announce a family. -/
def announce (family : Family) : List Line :=
  [.help family, .kind family]

/-- Observations per device. -/
def observations : Family where
  name := "mtconnect_observations_total"
  kind := .counter
  help := "Observations accepted per device"

/-- The speed of observations per device. -/
def observationRate : Family where
  name := "mtconnect_observation_rate_per_second"
  kind := .gauge
  help := "Smoothed observations per second per device"

/-- Observations per data item. -/
def itemObservations : Family where
  name := "mtconnect_data_item_observations_total"
  kind := .counter
  help := "Observations accepted per data item"

/-- The speed of observations per data item. -/
def itemRate : Family where
  name := "mtconnect_data_item_rate_per_second"
  kind := .gauge
  help := "Smoothed observations per second per data item"

/-- Asset changes per type. -/
def assetUpdates : Family where
  name := "mtconnect_asset_updates_total"
  kind := .counter
  help := "Asset changes per asset type"

/-- The speed of asset changes per type. -/
def assetRate : Family where
  name := "mtconnect_asset_update_rate_per_second"
  kind := .gauge
  help := "Smoothed asset changes per second per asset type"

/-- The capacity of the observation log. -/
def bufferSize : Family where
  name := "mtconnect_buffer_size"
  kind := .gauge
  help := "Observation buffer capacity"

/-- The first retained number. -/
def firstSequence : Family where
  name := "mtconnect_first_sequence"
  kind := .gauge
  help := "First sequence retained in the buffer"

/-- The next number. -/
def nextSequence : Family where
  name := "mtconnect_next_sequence"
  kind := .gauge
  help := "Sequence the next observation will receive"

/-- The live assets. -/
def assetCount : Family where
  name := "mtconnect_asset_count"
  kind := .gauge
  help := "Live assets"

/-- The identifier of the current history. -/
def instanceId : Family where
  name := "mtconnect_instance_id"
  kind := .gauge
  help := "Current agent instance id"

/-- When the rates were last worked out. -/
def reportTime : Family where
  name := "mtconnect_metrics_timestamp_seconds"
  kind := .gauge
  help := "Unix timestamp of the last rate computation"

/-- A speed is written with two decimal places. -/
def speedText (rate : Rate) : String :=
  String.ofList (Decimal.fixed 2 rate.perSecond)

/-- A time is written in seconds with three decimal places. -/
def timeText (time : Timestamp) : String :=
  String.ofList (Decimal.fixed 3 (time.millis.toUInt64.toFloat / 1000.0))

/-- The label of a device. -/
def deviceLabel (device : String) : Label := ⟨"device", device⟩

/-- The label of a data item. -/
def itemLabel (item : String) : Label := ⟨"data_item", item⟩

/-- The label of an asset type. -/
def assetLabel (kind : String) : Label := ⟨"asset_type", kind⟩

/-- The families about devices. -/
def deviceLines (report : ActivityReport) : List Line :=
  announce observations ++
    (report.devices.toList.map fun device =>
      .sample observations [deviceLabel device.1]
        (toString device.2.total.count)) ++
    announce observationRate ++
    report.devices.toList.map fun device =>
      .sample observationRate [deviceLabel device.1] (speedText device.2.total)

/-- The two samples of a data item. -/
def itemSamples (device item : String) (rate : Rate) : List Line :=
  let labels := [deviceLabel device, itemLabel item]
  [.sample itemObservations labels (toString rate.count),
    .sample itemRate labels (speedText rate)]

/-- The families about data items. -/
def itemLines (report : ActivityReport) : List Line :=
  announce itemObservations ++ announce itemRate ++
    report.devices.toList.flatMap fun device =>
      device.2.items.toList.flatMap fun item =>
        itemSamples device.1 item.1 item.2

/-- The two samples of an asset type. -/
def assetSamples (kind : String) (rate : Rate) : List Line :=
  let labels := [assetLabel kind]
  [.sample assetUpdates labels (toString rate.count),
    .sample assetRate labels (speedText rate)]

/-- The families about asset types. -/
def assetLines (report : ActivityReport) : List Line :=
  announce assetUpdates ++ announce assetRate ++
    report.assets.toList.flatMap fun kind => assetSamples kind.1 kind.2

/-- A family of one sample without labels. -/
def gauge (family : Family) (value : String) : List Line :=
  announce family ++ [.sample family [] value]

/-- The families about the agent itself. -/
def agentLines (report : ActivityReport) (header : Header) : List Line :=
  gauge bufferSize (toString header.bufferSize) ++
    gauge firstSequence (toString header.firstSequence) ++
    gauge nextSequence (toString header.nextSequence) ++
    gauge assetCount (toString header.assetCount) ++
    gauge instanceId (toString header.instanceId) ++
    gauge reportTime (timeText report.timestamp)

/-- All lines of the exposition. -/
def lines (report : ActivityReport) (header : Header) : List Line :=
  deviceLines report ++ itemLines report ++ assetLines report ++
    agentLines report header

/-- What stands in front of the name of every family. -/
def leadText : Option String → String
  | none => ""
  | some name => name ++ "_"

/-- The exposition, every line ended by a line feed. -/
def text (lead? : Option String) (report : ActivityReport) (header : Header) : String :=
  String.join
    ((lines report header).map fun line =>
      Line.text (leadText lead?) line ++ "\n")

/-- The media type of the exposition. -/
def mediaType : String :=
  "text/plain; version=0.0.4; charset=utf-8"

end MTConnect.Exposition
