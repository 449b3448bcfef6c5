import LayerGraph.Command.Arguments
import LayerGraph.Configuration
import LayerGraph.Folder
import LayerGraph.GraphFile
import LayerGraph.Json.Writer
import LayerGraph.Log.Event
import LayerGraph.Program

/-! # The command

    Turns a graph file into a program, which is shown or written to a file. An error of the graph,
    or of reading the file, is shown as an object, and the exit code is 1. What is done is told in
    the log, but not that a file could not be read.
-/

namespace LayerGraph.Command

open Log (Event)

/-- What a run of the command shows and does. -/
structure Outcome where
  exitCode : Nat
  /-- What is shown. -/
  output : String := ""
  /-- What is shown beside it. -/
  diagnostics : String := ""
  /-- The file that is written, and its text. -/
  file : Option (Path × String) := none
  events : List Event := []

/-- An object on a line. -/
def objectLine (entries : Entries) : Except Failure String :=
  match Json.write (.ofEntries entries) with
  | .ok text => .ok (text ++ "\n")
  | .error .badKey => .error .badKey
  | .error (.noText cause) => .error (.noText cause)

/-- What is told of a graph that was not turned into a program. -/
def rejection (graph : String) (error : GraphError) : Event :=
  { category := Log.graphs
    level := "WARNING"
    message := s!"CLI translation failed: {error.message}"
    data := .ofEntries [("graph", .str graph), ("error", .ofEntries error.toEntries)]
    component := some "cli" }

/-- What is told of a program. -/
def success (arguments : Arguments) (layers : Nat) : Event :=
  { category := Log.graphs
    level := "INFO"
    message := "CLI translation"
    data := .ofEntries
      [("graph", .str arguments.graph), ("layers", .int layers),
       ("output", (arguments.output.map Value.str).getD .null)]
    component := some "cli" }

/-- The outcome of an error of the graph. -/
def Outcome.ofError (graph : String) (error : GraphError) : Except Failure Outcome := do
  let line ← objectLine error.toEntries
  return { exitCode := 1, diagnostics := line, events := [rejection graph error] }

/-- The outcome of a fault of reading the file. -/
def Outcome.ofFault (path : Path) (fault : FileFault) : Except Failure Outcome := do
  let line ← objectLine
    [("kind", .str "io_error"), ("message", .str (fault.message path.text))]
  return { exitCode := 1, diagnostics := line }

/-- The outcome of a program of so many layers. Code that is not empty ends with a line end. -/
def Outcome.ofProgram (arguments : Arguments) (layers : Nat) (program : Program) : Outcome :=
  let code := if program.code.isEmpty then "" else program.code ++ "\n"
  match arguments.output.filter (!·.isEmpty) with
  | none => { exitCode := 0, output := code, events := [success arguments layers] }
  | some file =>
    { exitCode := 0
      diagnostics := s!"Wrote {file}\n"
      file := some (.ofText file, code)
      events := [success arguments layers] }

section running
variable [Stack]

/-- The layers of a graph file and its program. -/
def translate (resolve : Resolver) (arguments : Arguments) (content : List UInt8) :
    Except Failure (List Layer × Program) := do
  let layers ← GraphFile.layers (.ofText arguments.graph) content
  let formatter ← Configuration.formatterNamed arguments.formatter
  let program ← Program.ofLayers resolve layers arguments.imports formatter
  return (layers, program)

/-- The outcome for a graph file with this content, or with a fault that keeps it unread. -/
def outcome (resolve : Resolver) (arguments : Arguments)
    (content : Except FileFault (List UInt8)) : Except Failure Outcome :=
  match content with
  | .error fault => Outcome.ofFault (.ofText arguments.graph) fault
  | .ok content =>
    match translate resolve arguments content with
    | .ok (layers, program) => .ok (.ofProgram arguments layers.length program)
    | .error (.graph error) => Outcome.ofError arguments.graph error
    | .error failure => .error failure

/-- Runs the command in a folder. Answers the outcome, and the folder after it. -/
def run (resolve : Resolver) (arguments : Arguments) (folder : Folder) :
    Except Failure (Outcome × Folder) := do
  let outcome ← outcome resolve arguments (folder.read (.ofText arguments.graph))
  match outcome.file with
  | none => return (outcome, folder)
  | some (path, code) =>
    match folder.write path code.toUTF8.toList with
    | .ok after => return (outcome, after)
    | .error fault => throw (.file fault path.text)

end running

end LayerGraph.Command
