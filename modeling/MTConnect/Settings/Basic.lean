import MTConnect.Agent.Basic
import MTConnect.Net.SocketAddress
import MTConnect.Stream.Options
import MTConnect.Text.Quoted
import MTConnect.Web.Handler

namespace MTConnect

/-!
# Settings of an agent

The settings say where to listen, how much to keep, how streams and the
activity monitor behave unless told otherwise, and which devices there are.
Settings that the agent cannot run with have a defect; of several the first
in a fixed order is reported.
-/

/-- How much is kept, and how much a request may ask for. -/
structure BufferSettings where
  size : Nat := 131072
  maxAssets : Nat := 1024
  assetLimits : SortedMap String Nat := .empty
  limits : QueryLimits := {}
  deriving Repr, DecidableEq, Inhabited

/-- Streams whose client asks for nothing else. Times are in milliseconds. -/
structure StreamSettings where
  heartbeat : Nat := 10000
  capacity : Nat := 16
  deriving Repr, DecidableEq, Inhabited

/-- The activity monitor and its exposition. -/
structure MonitorSettings where
  /-- The time between two computations of the rates, in milliseconds. -/
  interval : Nat := 10000
  /-- The weight of the newest rate. -/
  smoothing : Float := ActivityMonitor.defaultSmoothing
  /-- What the names of all families begin with. -/
  familyLead : Option String := none
  deriving Repr, Inhabited

/-- Everything that an agent is configured with. -/
structure Settings where
  httpAddress : String := "0.0.0.0:5000"
  adapterAddress : String := "0.0.0.0:7878"
  buffer : BufferSettings := {}
  stream : StreamSettings := {}
  monitor : MonitorSettings := {}
  devices : List Device := []
  deriving Repr, Inhabited

namespace Settings

/-- Why there are no settings, or none that an agent can run with. -/
inductive Defect where
  /-- A file cannot be read. -/
  | unreadable
  /-- A value is missing or has the wrong type. -/
  | malformed
  | httpAddress (address : String)
  | adapterAddress (address : String)
  | bufferSize
  | maxAssets
  | defaultCount
  | heartbeat
  | interval
  | smoothing
  | duplicateDevice (uuid : String)
  deriving Repr, DecidableEq, Inhabited

/-- The wording of a defect. -/
def Defect.message : Defect → String
  | .unreadable => "failed to read configuration"
  | .malformed => "invalid configuration"
  | .httpAddress address =>
      "invalid http.listen_addr " ++ Text.quotedString address
  | .adapterAddress address =>
      "invalid adapters.listen_addr " ++ Text.quotedString address
  | .bufferSize => "buffer.size must be positive"
  | .maxAssets => "buffer.max_assets must be positive"
  | .defaultCount => "buffer.default_count must be in 1..=buffer.max_count"
  | .heartbeat => "stream.heartbeat_ms must be positive"
  | .interval => "metrics.interval_ms must be positive"
  | .smoothing => "metrics.smoothing must be in (0, 1]"
  | .duplicateDevice uuid =>
      "duplicate device uuid " ++ Text.quotedString uuid

/-- Whether a text is an address to listen on. -/
def isAddress (text : String) : Bool :=
  (SocketAddress.parse? text).isSome

/-- The first name that is among `seen` or stood in the list before. -/
def firstRepeated? (seen : List String) : List String → Option String
  | [] => none
  | name :: rest =>
      if name ∈ seen then some name else firstRepeated? (name :: seen) rest

/-- The first defect of the settings. -/
def defect? (settings : Settings) : Option Defect :=
  if !isAddress settings.httpAddress then
    some (.httpAddress settings.httpAddress)
  else if !isAddress settings.adapterAddress then
    some (.adapterAddress settings.adapterAddress)
  else if settings.buffer.size = 0 then
    some .bufferSize
  else if settings.buffer.maxAssets = 0 then
    some .maxAssets
  else if settings.buffer.limits.defaultCount = 0 ∨
      settings.buffer.limits.maximumCount < settings.buffer.limits.defaultCount then
    some .defaultCount
  else if settings.stream.heartbeat = 0 then
    some .heartbeat
  else if settings.monitor.interval = 0 then
    some .interval
  else if !(0.0 < settings.monitor.smoothing && settings.monitor.smoothing <= 1.0) then
    some .smoothing
  else
    (firstRepeated? [] (settings.devices.map Device.uuid)).map .duplicateDevice

/-- Settings that an agent can run with. -/
def Valid (settings : Settings) : Prop :=
  settings.defect? = none

/-- Accept settings without a defect. -/
def check (settings : Settings) : Except Defect Settings :=
  match settings.defect? with
  | none => .ok settings
  | some defect => .error defect

/-- What the agent is made of. -/
def plan (settings : Settings) : AgentPlan where
  catalog := { devices := settings.devices }
  bufferSize := settings.buffer.size
  maxAssets := settings.buffer.maxAssets
  assetLimits := settings.buffer.assetLimits
  limits := settings.buffer.limits
  smoothing := settings.monitor.smoothing

/-- The options of a stream before those of a request apply. -/
def streamDefaults (settings : Settings) : StreamOptions :=
  let options : StreamOptions := { capacity := settings.stream.capacity }
  options.withHeartbeat settings.stream.heartbeat

/-- How requests are answered. -/
def web (settings : Settings) : WebSettings where
  streamDefaults := settings.streamDefaults
  familyLead := settings.monitor.familyLead

/-- Names without a repetition are distinct, and not among those seen. -/
theorem firstRepeated?_eq_none_iff
    (seen names : List String) :
    firstRepeated? seen names = none ↔
      names.Nodup ∧ ∀ name ∈ names, name ∉ seen := by
  induction names generalizing seen with
  | nil =>
      simp [firstRepeated?]
  | cons first rest inductionHypothesis =>
      unfold firstRepeated?
      split
      next isSeen =>
        simp [isSeen]
      next unseen =>
        rw [inductionHypothesis, List.nodup_cons]
        constructor
        · rintro ⟨distinct, apart⟩
          refine ⟨⟨fun member => apart first member (by simp), distinct⟩, ?_⟩
          intro name member
          rcases List.mem_cons.mp member with rfl | inRest
          · exact unseen
          · exact fun old => apart name inRest (List.mem_cons_of_mem first old)
        · rintro ⟨⟨notLater, distinct⟩, apart⟩
          refine ⟨distinct, fun name member old => ?_⟩
          rcases List.mem_cons.mp old with rfl | wasSeen
          · exact notLater member
          · exact apart name (List.mem_cons_of_mem first member) wasSeen

/-- A check that is passed reports nothing, and neither do those after it. -/
theorem if_defect_eq_none_iff
    {fails : Prop}
    [Decidable fails]
    {defect : Defect}
    {rest : Option Defect} :
    (if fails then some defect else rest) = none ↔ ¬ fails ∧ rest = none := by
  by_cases failed : fails
  · simp [failed]
  · simp [failed]

/-- What the check of the settings makes sure of. -/
structure Checked (settings : Settings) : Prop where
  httpAddress : isAddress settings.httpAddress = true
  adapterAddress : isAddress settings.adapterAddress = true
  bufferSize : 0 < settings.buffer.size
  maxAssets : 0 < settings.buffer.maxAssets
  defaultCount :
    0 < settings.buffer.limits.defaultCount ∧
      settings.buffer.limits.defaultCount ≤
        settings.buffer.limits.maximumCount
  heartbeat : 0 < settings.stream.heartbeat
  interval : 0 < settings.monitor.interval
  smoothing :
    (0.0 < settings.monitor.smoothing && settings.monitor.smoothing <= 1.0) =
      true
  /-- The devices have distinct identifiers. -/
  devices : (settings.devices.map Device.uuid).Nodup

/-- Valid settings have passed each of the checks. -/
theorem Valid.checked
    {settings : Settings}
    (valid : settings.Valid) :
    settings.Checked := by
  unfold Valid defect? at valid
  simp only [if_defect_eq_none_iff, Option.map_eq_none_iff,
    firstRepeated?_eq_none_iff, Bool.not_eq_true', Bool.not_eq_false] at valid
  obtain
    ⟨httpAddress, adapterAddress, bufferSize, maxAssets, count, heartbeat,
      interval, smoothing, devices, _⟩ := valid
  obtain ⟨notZero, notAbove⟩ := not_or.mp count
  exact
    { httpAddress := httpAddress
      adapterAddress := adapterAddress
      bufferSize := Nat.pos_of_ne_zero bufferSize
      maxAssets := Nat.pos_of_ne_zero maxAssets
      defaultCount := ⟨Nat.pos_of_ne_zero notZero, Nat.not_lt.mp notAbove⟩
      heartbeat := Nat.pos_of_ne_zero heartbeat
      interval := Nat.pos_of_ne_zero interval
      smoothing := smoothing
      devices := devices }

end Settings

end MTConnect
