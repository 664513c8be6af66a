import TemplatePress.CommandLine.Request
import TemplatePress.Config.Load
import TemplatePress.Pipeline

/-!
# A run of the program

From arguments to an exit status. Help and version texts go to the output and end the run well; wrong
arguments end it with status 2, and everything else that fails with status 1 and a message. Building
fails also when the run kept going and a package could not be built.
-/

namespace TemplatePress

/-- Why a run of the program failed. -/
inductive RunError where
  | config (source : ConfigError)
  | pipeline (source : PipelineError)
  /-- Packages could not be built. -/
  | incomplete (failed total : Nat)
  | discovery (source : DiscoveryError)
  | output (source : IoError)
  deriving DecidableEq

namespace RunError

def message : RunError → String
  | .config source => source.message
  | .pipeline source => source.message
  | .incomplete failed total => toString failed ++ " of " ++ toString total ++ " templates failed"
  | .discovery source => source.message
  | .output source => source.message

/-- The messages of the errors behind this one. -/
def sources : RunError → List String
  | .pipeline source => source.sources
  | .discovery source => source.sources
  | _ => []

end RunError

namespace Request

variable {σ ω : Type}

/-- The settings that a request runs with. -/
def settings (r : Request) (fs : FileSystem) (env : Environment) : Except ConfigError Config :=
  match resolveConfig fs env r.config with
  | .error e => .error e
  | .ok c => .ok (if r.keepGoing then { c with keepGoing := true } else c)

/-- Fetches, searches and builds; a package that could not be built is a failure. -/
def generateAll (tools : Toolchain σ) (writer : Writer ω) (config : Config) :
    EStateM RunError (Run σ ω) Unit := fun run =>
  match runPipeline tools writer config run with
  | .error e run' => .error (.pipeline e) run'
  | .ok report run' =>
    if report.isSuccess then .ok () run'
    else .error (.incomplete report.failed.length report.total) run'

/-- Writes the lines of folders. -/
def list (writer : Writer ω) : List TemplateFolder → EStateM RunError (Run σ ω) Unit
  | [] => pure ()
  | folder :: rest => fun run =>
    match writer.writePieces (Pipeline.linePieces folder) run.output with
    | .error e output => .error (.output e) { run with output }
    | .ok () output => list writer rest { run with output }

/-- Searches a directory and lists what it finds. -/
def discoverAll (writer : Writer ω) (config : Config) (root : Option Path) :
    EStateM RunError (Run σ ω) Unit := fun run =>
  let root := root.getD (Layout.mk config.templatesRoot).reposDir
  match discover run.world.files root config.entryPoint with
  | .error e => .error (.discovery e) run
  | .ok folders => list writer folders run

/-- Does what is asked for. The tools depend on the settings. -/
def perform (toolchain : ToolsConfig → Toolchain σ) (writer : Writer ω) (env : Environment)
    (r : Request) : EStateM RunError (Run σ ω) Unit := fun run =>
  match r.settings run.world.files env with
  | .error e => .error (.config e) run
  | .ok config =>
    match r.task with
    | .generate => generateAll (toolchain config.tools) writer config run
    | .discover root => discoverAll writer config root run

end Request

/-- How a run of the program ended. -/
structure Outcome where
  status : Nat
  /-- What it said on the error stream. -/
  said : String
  deriving DecidableEq

/-- Runs the program with arguments. Help and version texts are written as far as the output takes
    them. -/
def runProgram {σ ω : Type} (toolchain : ToolsConfig → Toolchain σ) (writer : Writer ω)
    (env : Environment) (arguments : List Bytes) (run : Run σ ω) : Outcome × Run σ ω :=
  match Request.ofArguments arguments with
  | .error (.show text) =>
    match writer.writeAll (Text.Utf8.bytes text) run.output with
    | .ok () output => (⟨0, ""⟩, { run with output })
    | .error _ output => (⟨0, ""⟩, { run with output })
  | .error (.wrong _ message) => (⟨2, message⟩, run)
  | .ok request =>
    match request.perform toolchain writer env run with
    | .ok () run' => (⟨0, ""⟩, run')
    | .error e run' => (⟨1, "Error: " ++ chain e.message e.sources ++ "\n"⟩, run')

end TemplatePress
