import LayerGraph.Command.Run
import LayerGraph.Log.Store
import LayerGraph.Node.Catalog
import Std.Time.DateTime.Timestamp

/-! # The program

    The command on real files. Settings come from the environment, the logs go into the folder that
    the variable `DATA_DIR` names.
-/

namespace LayerGraph.Main

open Log (Event Store)

/-- The variables that the program looks at. -/
def knownVariables : List String :=
  ["LOG_LEVEL", "LOG_RETENTION_DAYS", "CODE_FORMATTER", "INCLUDE_IMPORTS", "CORS_ORIGINS"]

/-- The part of the environment that the program looks at. -/
def environment : IO (List (String × String)) := do
  let found ← knownVariables.mapM fun name => do return (← IO.getEnv name).map (name, ·)
  return found.filterMap id

/-- What is wrong with a file that the system refused. -/
def faultOf : IO.Error → FileFault
  | .noFileOrDirectory .. => .notFound
  | .inappropriateType _ code _ => if code = 21 then .isFolder else .notFolder
  | .permissionDenied _ code words => .other code.toNat words
  | error => .other 5 (toString error)

/-- The content of a file. -/
def contentOf (path : Path) : IO (Except FileFault (List UInt8)) := do
  try return .ok (← IO.FS.readBinFile path.text).toList
  catch error => return .error (faultOf error)

/-- The time. -/
def now? : IO (Option Time.Instant) := do
  let stamp ← Std.Time.Timestamp.now
  return Time.Instant.ofMicroseconds? (stamp.toNanosecondsSinceUnixEpoch.val / 1000).toNat

/-- Writes events into the log files of today. -/
def tell (level : String) (events : List Event) : IO Unit := do
  let some now ← now? | return
  let data := (← IO.getEnv "DATA_DIR").getD "data"
  for event in events do
    match (Store.empty level now).record event with
    | .error _ => return
    | .ok (store, _) =>
      for file in store.files do
        let folder := s!"{data}/{Configuration.logsFolder}/{file.folder}"
        IO.FS.createDirAll folder
        IO.FS.withFile s!"{folder}/{file.name}" .append fun handle => handle.putStr file.text

/-- Shows why the program cannot go on. -/
def giveUp (failure : Failure) : IO UInt32 := do
  IO.eprintln (failure.words?.getD "internal failure")
  return 1

/-- How the command is called. -/
def usage : String := "usage: layergraph [-h] [-o OUTPUT] [--imports] [--format FORMATTER] graph"

/-- Runs the command with its arguments. -/
def runWith (configuration : Configuration) (arguments : Command.Arguments) : IO UInt32 := do
  let content ← contentOf (.ofText arguments.graph)
  match Command.outcome Node.registry.resolve arguments content with
  | .error failure => giveUp failure
  | .ok outcome =>
    IO.print outcome.output
    match outcome.file with
    | none => pure ()
    | some (path, code) => IO.FS.writeFile path.text code
    IO.eprint outcome.diagnostics
    tell configuration.logLevel outcome.events
    return outcome.exitCode.toUInt32

end LayerGraph.Main

open LayerGraph in
/-- The command line. -/
def main (words : List String) : IO UInt32 := do
  match Configuration.ofEnvironment (← Main.environment) with
  | .error failure => Main.giveUp failure
  | .ok configuration =>
    match Command.Arguments.read configuration.formatter words with
    | .ok arguments => Main.runWith configuration arguments
    | .error refusal =>
      if refusal = .help then IO.println Main.usage else IO.eprintln Main.usage
      return refusal.exitCode.toUInt32
