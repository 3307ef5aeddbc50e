import MTConnect.Activity.Exposition
import MTConnect.Activity.Monitor
import MTConnect.Activity.Rate
import MTConnect.Activity.Wire
import MTConnect.Adapter.Feed
import MTConnect.Adapter.Record
import MTConnect.Agent.Basic
import MTConnect.Agent.Queries
import MTConnect.Agent.Wire
import MTConnect.Agent.Writes
import MTConnect.Asset.Record
import MTConnect.Asset.Shelf
import MTConnect.Asset.Wire
import MTConnect.Capacity
import MTConnect.Console
import MTConnect.Decimal.Binary
import MTConnect.Decimal.Fixed
import MTConnect.Decimal.Literal
import MTConnect.Decimal.Power
import MTConnect.Decimal.Shortest
import MTConnect.Device.Catalog
import MTConnect.Device.Category
import MTConnect.Device.Description
import MTConnect.Device.Path
import MTConnect.Device.Path.Reader
import MTConnect.Device.Selection
import MTConnect.Device.Wire
import MTConnect.Document.Basic
import MTConnect.Document.Wire
import MTConnect.Fault
import MTConnect.Host
import MTConnect.Instance
import MTConnect.Json.Exact
import MTConnect.Json.Members
import MTConnect.Json.Number
import MTConnect.Json.Reader
import MTConnect.Json.Shape
import MTConnect.Json.Value
import MTConnect.Json.Writer
import MTConnect.Main
import MTConnect.Net.SocketAddress
import MTConnect.Observation.Basic
import MTConnect.Observation.Filter
import MTConnect.Observation.Log
import MTConnect.Observation.Sequence
import MTConnect.Observation.Window
import MTConnect.Observation.Wire
import MTConnect.Queue
import MTConnect.Settings.Basic
import MTConnect.Settings.CommandLine
import MTConnect.Settings.Environment
import MTConnect.Settings.KeyPath
import MTConnect.Settings.Load
import MTConnect.Settings.Setting
import MTConnect.Signal
import MTConnect.SortedMap
import MTConnect.Stream.Frame
import MTConnect.Stream.Multipart
import MTConnect.Stream.Options
import MTConnect.Stream.Session
import MTConnect.Text.Blank
import MTConnect.Text.Digits
import MTConnect.Text.Graphic
import MTConnect.Text.Numeral
import MTConnect.Text.Quoted
import MTConnect.Text.Split
import MTConnect.Text.Utf8
import MTConnect.Timestamp
import MTConnect.Toml.Document
import MTConnect.Toml.Moment
import MTConnect.Toml.Quotation
import MTConnect.Toml.Reader
import MTConnect.Toml.Scalar
import MTConnect.Web.Form
import MTConnect.Web.Handler
import MTConnect.Web.Route
import MTConnect.Word
import MTConnect.Proofs.Observation.History
import MTConnect.Proofs.Observation.Index
import MTConnect.Proofs.Observation.Retention
import MTConnect.Proofs.Agent.Chronicle
import MTConnect.Proofs.Observation.Reading
import MTConnect.Proofs.Observation.Ranges
import MTConnect.Proofs.Observation.Guards
import MTConnect.Proofs.Observation.Views
import MTConnect.Proofs.Agent.Replay
import MTConnect.Proofs.Agent.Paging
import MTConnect.Proofs.Agent.Page
import MTConnect.Proofs.Stream.Step
import MTConnect.Proofs.Stream.Run
import MTConnect.Proofs.Stream.Opening
import MTConnect.Proofs.Stream.Lossless
import MTConnect.Proofs.Agent.Signals
import MTConnect.Proofs.Stream.Origin
import MTConnect.Proofs.Stream.Attention
import MTConnect.Proofs.Stream.Ending
import MTConnect.Proofs.Observation.Overlay
import MTConnect.Proofs.Stream.CatchUp
import MTConnect.Proofs.Asset.Arrangement
import MTConnect.Proofs.Asset.Row
import MTConnect.Proofs.Asset.Trim
import MTConnect.Proofs.Asset.Refinement
import MTConnect.Proofs.Observation.Acceptance
import MTConnect.Proofs.Stream.Publication
import MTConnect.Proofs.Activity.Counting
import MTConnect.Proofs.Activity.Conservation
import MTConnect.Proofs.Device.Resolution
import MTConnect.Proofs.Agent.Addressing
import MTConnect.Proofs.Adapter.Intake
import MTConnect.Proofs.Adapter.Closing
import MTConnect.Proofs.Agent.Idling
import MTConnect.Proofs.Adapter.Skipping
import MTConnect.Proofs.Adapter.Aliases
import MTConnect.Proofs.Text.Digits
import MTConnect.Proofs.Json.Scalars
import MTConnect.Proofs.Json.RoundTrip
import MTConnect.Proofs.Document.Records
import MTConnect.Proofs.Document.Decoding
import MTConnect.Proofs.Activity.Collector
import MTConnect.Proofs.Activity.Series
import MTConnect.Proofs.Json.OneLine
import MTConnect.Proofs.Stream.Body
import MTConnect.Proofs.Text.Utf8
import MTConnect.Proofs.Text.Visible
import MTConnect.Proofs.Web.Escapes
import MTConnect.Proofs.Web.Addresses
import MTConnect.Proofs.Agent.DefaultCount
import MTConnect.Proofs.Agent.DefaultStart
import MTConnect.Proofs.Agent.Removal
import MTConnect.Proofs.Stream.Timing
import MTConnect.Proofs.Stream.Emission
import MTConnect.Proofs.Stream.Silence
import MTConnect.Proofs.Device.Path.Scanning
import MTConnect.Proofs.Device.Path.Writing
import MTConnect.Proofs.Agent.Tombstones
import MTConnect.Proofs.Observation.Restrictions
import MTConnect.Proofs.Device.Selecting
import MTConnect.Proofs.Activity.Grouping
import MTConnect.Proofs.Text.Cutting
import MTConnect.Proofs.Text.Slicing
import MTConnect.Proofs.Device.Path.Splitting
import MTConnect.Proofs.Device.Path.Spelling
import MTConnect.Proofs.Device.Path.Shape
import MTConnect.Proofs.Device.Path.Ranges
import MTConnect.Proofs.Device.Path.Parts
