import MTConnect.Json.Reader
import MTConnect.Settings.Basic
import MTConnect.Settings.Environment
import MTConnect.Toml.Reader

namespace MTConnect

/-!
# Loading settings

Settings are put together from a file, if there is one, and the environment,
which wins. What neither of them says keeps its default, and names that mean
nothing are ignored. The command line has the last word, and the result is
checked before it and after it.
-/

/-- A settings file. -/
inductive SettingsFile where
  | toml (text : String)
  | json (text : String)
  /-- There is no such file, or it is of another kind. -/
  | unreadable
  deriving Repr, DecidableEq, Inhabited

/-- A settings file by the ending of its name; a mark of the byte order does not count. -/
def SettingsFile.ofContent (extension text : String) : SettingsFile :=
  let content := String.ofList (Toml.dropOrderMark text.toList)
  if extension = "toml" then .toml content
  else if extension = "json" then .json content
  else .unreadable

/-- What a file says, if it is a table. -/
def SettingsFile.entries? : SettingsFile → Option (List (String × Setting))
  | .toml text => (Toml.parse? text).map Setting.entries
  | .json text =>
      match (Json.parse? text).map Setting.ofJson with
      | some (.table entries) => some entries
      | _ => none
  | .unreadable => none

/-! ## Records -/

namespace Setting

/-- Read a category by its exact name. -/
def category? (value : Setting) : Option Category :=
  value.variant?.bind Category.ofName?

/-- Read a data item. -/
def dataItem? (value : Setting) : Option DataItem := do
  match ← value.fields? ["id", "name", "category", "type", "sub_type", "units"] with
  | [id, name, category, kind, subType, units] =>
      pure
        { id := ← id.bind text?
          name := ← fieldOr? none (nullable? text?) name
          category := ← category.bind category?
          kind := ← kind.bind text?
          subType := ← fieldOr? none (nullable? text?) subType
          units := ← fieldOr? none (nullable? text?) units }
  | _ => none

/-- Read a device. -/
def device? (value : Setting) : Option Device := do
  match ← value.fields? ["uuid", "name", "data_items"] with
  | [uuid, name, dataItems] =>
      pure
        { uuid := ← uuid.bind text?
          name := ← name.bind text?
          dataItems := ← fieldOr? [] (list? dataItem?) dataItems }
  | _ => none

/-- Read a record whose only field is an address, with a default. -/
def address? (default : String) (value : Setting) : Option String := do
  match ← value.fields? ["listen_addr"] with
  | [address] => fieldOr? default text? address
  | _ => none

/-- Read what is said of the buffers. -/
def buffer? (value : Setting) : Option BufferSettings := do
  let base : BufferSettings := {}
  let names :=
    ["size", "max_assets", "max_assets_per_type", "default_count", "max_count"]
  match ← value.fields? names with
  | [size, maxAssets, assetLimits, defaultCount, maximumCount] =>
      let limits : QueryLimits :=
        { defaultCount := ← fieldOr? base.limits.defaultCount word? defaultCount
          maximumCount := ← fieldOr? base.limits.maximumCount word? maximumCount }
      pure
        { size := ← fieldOr? base.size word? size
          maxAssets := ← fieldOr? base.maxAssets word? maxAssets
          assetLimits := ← fieldOr? base.assetLimits (map? word?) assetLimits
          limits := limits }
  | _ => none

/-- Read what is said of streams. -/
def stream? (value : Setting) : Option StreamSettings := do
  let base : StreamSettings := {}
  match ← value.fields? ["heartbeat_ms", "channel_capacity"] with
  | [heartbeat, capacity] =>
      pure
        { heartbeat := ← fieldOr? base.heartbeat word? heartbeat
          capacity := ← fieldOr? base.capacity word? capacity }
  | _ => none

/-- Read what is said of the activity monitor. -/
def monitor? (value : Setting) : Option MonitorSettings := do
  let base : MonitorSettings := {}
  match ← value.fields? ["interval_ms", "smoothing", "namespace"] with
  | [interval, smoothing, familyLead] =>
      pure
        { interval := ← fieldOr? base.interval word? interval
          smoothing := ← fieldOr? base.smoothing real? smoothing
          familyLead := ← fieldOr? none (nullable? text?) familyLead }
  | _ => none

/-- Read all settings. -/
def settings? (value : Setting) : Option Settings := do
  let base : Settings := {}
  match ← value.fields? ["http", "adapters", "buffer", "stream", "metrics", "devices"] with
  | [http, adapters, buffer, stream, monitor, devices] =>
      pure
        { httpAddress := ← fieldOr? base.httpAddress (address? base.httpAddress) http
          adapterAddress :=
            ← fieldOr? base.adapterAddress (address? base.adapterAddress) adapters
          buffer := ← fieldOr? base.buffer buffer? buffer
          stream := ← fieldOr? base.stream stream? stream
          monitor := ← fieldOr? base.monitor monitor? monitor
          devices := ← fieldOr? base.devices (list? device?) devices }
  | _ => none

end Setting

/-! ## Loading -/

/-- What the command line may replace. -/
structure SettingsOverride where
  httpAddress : Option String := none
  adapterAddress : Option String := none
  bufferSize : Option Nat := none
  deriving Repr, DecidableEq, Inhabited

namespace Settings

/-- The tree of settings that a file and the environment make up together. -/
def gather
    (file? : Option SettingsFile)
    (environment : List (String × String)) :
    Except Defect Setting :=
  let named := Environment.settings environment
  match file? with
  | none => .ok ((Setting.table []).putAll named)
  | some file =>
      match file.entries? with
      | some entries =>
          .ok (((Setting.table []).putAll entries).putAll named)
      | none => .error .unreadable

/-- The checked settings of a file and of the environment. -/
def load
    (file? : Option SettingsFile)
    (environment : List (String × String)) :
    Except Defect Settings := do
  let tree ← gather file? environment
  match tree.settings? with
  | some settings => settings.check
  | none => .error .malformed

/-- Replace what the command line names. -/
def override (settings : Settings) (given : SettingsOverride) : Settings :=
  { settings with
    httpAddress := given.httpAddress.getD settings.httpAddress
    adapterAddress := given.adapterAddress.getD settings.adapterAddress
    buffer :=
      { settings.buffer with
        size := given.bufferSize.getD settings.buffer.size } }

/-- The checked settings of a file, of the environment and of the command line. -/
def loadWith
    (file? : Option SettingsFile)
    (environment : List (String × String))
    (given : SettingsOverride) :
    Except Defect Settings := do
  let settings ← load file? environment
  (settings.override given).check

/-- Accepted settings have no defect. -/
theorem valid_of_check
    {settings accepted : Settings}
    (checked : settings.check = .ok accepted) :
    accepted.Valid := by
  unfold check at checked
  split at checked
  next sound =>
    cases checked
    exact sound
  next =>
    cases checked

/-- Loaded settings have no defect. -/
theorem valid_of_load
    {file? : Option SettingsFile}
    {environment : List (String × String)}
    {settings : Settings}
    (loaded : load file? environment = .ok settings) :
    settings.Valid := by
  obtain ⟨tree, _, read⟩ := bind_eq_ok_iff.mp loaded
  split at read
  · exact valid_of_check read
  · cases read

end Settings

end MTConnect
