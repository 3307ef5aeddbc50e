import MTConnect.Settings.Load

namespace MTConnect

/-!
# The command line

Options have a value, which follows as the next word or after an equals sign.
They name a settings file and replace single settings. Each may be given
once.
-/

/-- What the command line says. -/
structure CommandLine where
  /-- The path of a settings file. -/
  file : Option String := none
  given : SettingsOverride := {}
  deriving Repr, DecidableEq, Inhabited

namespace CommandLine

/-- The options there are. -/
inductive Flag where
  | config
  | httpAddress
  | adapterAddress
  | bufferSize
  deriving Repr, DecidableEq, Inhabited

/-- Why a command line makes no sense. -/
inductive Defect where
  | unknownOption (word : String)
  | missingValue (word : String)
  | repeatedOption (word : String)
  | badNumber (word value : String)
  deriving Repr, DecidableEq, Inhabited

/-- The wording of a defect. -/
def Defect.message : Defect → String
  | .unknownOption word => "unexpected argument " ++ word
  | .missingValue word => "a value is required for " ++ word
  | .repeatedOption word => word ++ " cannot be used twice"
  | .badNumber word value =>
      "invalid value " ++ Text.quotedString value ++ " for " ++ word

/-- The option of a word. -/
def flag? (word : String) : Option Flag :=
  match word with
  | "-c" => some .config
  | "--config" => some .config
  | "--http-addr" => some .httpAddress
  | "--adapter-addr" => some .adapterAddress
  | "-b" => some .bufferSize
  | "--buffer-size" => some .bufferSize
  | _ => none

/-- Whether an option has been given. -/
def has (line : CommandLine) : Flag → Bool
  | .config => line.file.isSome
  | .httpAddress => line.given.httpAddress.isSome
  | .adapterAddress => line.given.adapterAddress.isSome
  | .bufferSize => line.given.bufferSize.isSome

/-- Take in the value of an option. -/
def set (line : CommandLine) (word : String) (flag : Flag) (value : String) : Except Defect CommandLine :=
  if line.has flag then
    .error (.repeatedOption word)
  else
    match flag with
    | .config => .ok { line with file := some value }
    | .httpAddress =>
        .ok { line with given := { line.given with httpAddress := some value } }
    | .adapterAddress =>
        .ok { line with given := { line.given with adapterAddress := some value } }
    | .bufferSize =>
        match Text.word? value.toList with
        | some size =>
            .ok { line with given := { line.given with bufferSize := some size } }
        | none => .error (.badNumber word value)

/-- An option and its value in one word. -/
def joined? (word : String) : Option (String × String) :=
  (Text.splitOnce? '=' word.toList).map fun halves =>
    (String.ofList halves.1, String.ofList halves.2)

/-- Take in words, one option after the other. -/
def addWords (line : CommandLine) : List String → Except Defect CommandLine
  | [] => .ok line
  | [word] =>
      match joined? word with
      | some (name, value) =>
          match flag? name with
          | some flag => line.set name flag value
          | none => .error (.unknownOption word)
      | none =>
          match flag? word with
          | some _ => .error (.missingValue word)
          | none => .error (.unknownOption word)
  | word :: value :: rest =>
      match flag? word with
      | some flag =>
          match line.set word flag value with
          | .ok next => next.addWords rest
          | .error defect => .error defect
      | none =>
          match joined? word with
          | none => .error (.unknownOption word)
          | some (name, own) =>
              match flag? name with
              | none => .error (.unknownOption word)
              | some flag =>
                  match line.set name flag own with
                  | .ok next => next.addWords (value :: rest)
                  | .error defect => .error defect

/-- Read a command line. -/
def read (words : List String) : Except Defect CommandLine :=
  ({} : CommandLine).addWords words

/-- The ending of a file's name, without the point. -/
def extension (path : String) : String :=
  let name := ((Text.splitAt '/' path.toList).getLast?).getD []
  match (Text.splitAt '.' name).getLast? with
  | some ending => if ending = name then "" else String.ofList ending
  | none => ""

/-- The names of the variables that carry single settings. -/
def variableNames : List String :=
  ["HTTP__LISTEN_ADDR", "ADAPTERS__LISTEN_ADDR", "BUFFER__SIZE",
    "BUFFER__MAX_ASSETS", "BUFFER__DEFAULT_COUNT", "BUFFER__MAX_COUNT",
    "STREAM__HEARTBEAT_MS", "STREAM__CHANNEL_CAPACITY", "METRICS__INTERVAL_MS",
    "METRICS__SMOOTHING", "METRICS__NAMESPACE"].map fun name => "MTCONNECT_" ++ name

end CommandLine

end MTConnect
