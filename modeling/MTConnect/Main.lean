import Std.Time.DateTime.Timestamp
import MTConnect.Console
import MTConnect.Settings.CommandLine

/-!
# An agent on the console

Loads the settings, starts an agent and reacts to the lines of the standard
input until it ends.
-/

namespace MTConnect.Program

/-- The time of day. -/
def now : IO Timestamp := do
  let stamp ← Std.Time.Timestamp.now
  pure ⟨stamp.toMillisecondsSinceUnixEpoch.toInt.toNat⟩

/-- The settings file at a path. -/
def readFile (path : String) : IO SettingsFile := do
  try
    pure (.ofContent (CommandLine.extension path) (← IO.FS.readFile path))
  catch _ =>
    pure .unreadable

/-- The part of the environment that carries settings. -/
def environment : IO (List (String × String)) := do
  let found ← CommandLine.variableNames.mapM fun name => do
    pure ((← IO.getEnv name).map fun value => (name, value))
  pure (found.filterMap id)

/-- The agent of some settings, with its timer running. -/
def start (settings : Settings) (time : Timestamp) : Host :=
  let host : Host :=
    { agent := Agent.start settings.plan time
      web := settings.web }
  host.startTimer settings.monitor.interval

/-- React to the lines of the input until it ends. -/
partial def serve (input output : IO.FS.Stream) (host : Host) : IO Unit := do
  let line ← input.getLine
  if line.isEmpty then
    pure ()
  else
    let host := Console.advance host (← now)
    let (answers, after) := Console.react host (String.ofList (Text.trim line.toList))
    for answer in answers do
      output.putStrLn answer
    output.flush
    serve input output after

/-- Say what is wrong and end with a status. -/
def refuse (message : String) (status : UInt32) : IO UInt32 := do
  IO.eprintln ("error: " ++ message)
  pure status

end MTConnect.Program

open MTConnect in
/-- Run an agent on the console. -/
def main (words : List String) : IO UInt32 := do
  match CommandLine.read words with
  | .error defect => Program.refuse defect.message 2
  | .ok line =>
      let file? ← line.file.mapM Program.readFile
      match Settings.loadWith file? (← Program.environment) line.given with
      | .error defect => Program.refuse defect.message 1
      | .ok settings =>
          let host := Program.start settings (← Program.now)
          Program.serve (← IO.getStdin) (← IO.getStdout) host
          pure 0
