import TemplatePress.Config
import TemplatePress.Discovery
import TemplatePress.Fetch
import TemplatePress.Output
import TemplatePress.Package

/-!
# The pipeline

Fetches every repository, searches the clones for templates once, and builds one package per folder
in the order of discovery. Before a folder is built its line is written and flushed. A run stops at
the first package that cannot be built, unless it is to keep going; then it collects the failures.
A failed fetch, search or write always stops it.
-/

namespace TemplatePress

/-- Why a run stopped. -/
inductive PipelineError where
  | fetch (source : FetchError)
  | discovery (source : DiscoveryError)
  | generate (folder : TemplateFolder) (source : PackageError)
  | output (source : IoError)
  deriving DecidableEq

namespace PipelineError

def message : PipelineError → String
  | .fetch source => source.message
  | .discovery source => source.message
  | .generate folder source => "template " ++ folder.display ++ ": " ++ source.message
  | .output source => "failed to write progress output: " ++ source.message

/-- The messages of the errors behind this one. A failed fetch or search speaks for itself. -/
def sources : PipelineError → List String
  | .fetch source => source.sources
  | .discovery source => source.sources
  | .generate _ source => source.message :: source.sources
  | .output source => [source.message]

end PipelineError

/-- A package that could not be built. -/
structure FailedTemplate where
  folder : TemplateFolder
  error : PackageError
  deriving DecidableEq

/-- What a run built and what it could not build, each in the order of the run. -/
structure PipelineReport where
  generated : List TemplatePackage := []
  failed : List FailedTemplate := []
  deriving DecidableEq

namespace PipelineReport

def isSuccess (r : PipelineReport) : Bool :=
  r.failed.isEmpty

/-- How many templates the run tried to build. -/
def total (r : PipelineReport) : Nat :=
  r.failed.length + r.generated.length

end PipelineReport

/-- The files, the toolchain and the output of a run. -/
structure Run (σ ω : Type) where
  world : World σ
  output : Output ω

namespace Pipeline

variable {σ ω : Type}

/-- Acts on the world of a run. -/
def inWorld {ε α : Type} (wrap : ε → PipelineError) (act : EStateM ε (World σ) α) :
    EStateM PipelineError (Run σ ω) α := fun run =>
  match act run.world with
  | .ok a world => .ok a { run with world }
  | .error e world => .error (wrap e) { run with world }

/-- Acts on the output of a run. -/
def inOutput (act : EStateM IoError (Output ω) Unit) : EStateM PipelineError (Run σ ω) Unit :=
  fun run =>
    match act run.output with
    | .ok () output => .ok () { run with output }
    | .error e output => .error (.output e) { run with output }

/-- The pieces in which a folder's line is written. -/
def linePieces (folder : TemplateFolder) : List Bytes :=
  [Text.Utf8.bytes folder.trimmed, Text.Utf8.bytes "/", Text.Utf8.bytes "\n"]

/-- Writes a folder's line and flushes. -/
def announce (writer : Writer ω) (folder : TemplateFolder) : EStateM IoError (Output ω) Unit :=
  fun out =>
    match writer.writePieces (linePieces folder) out with
    | .error e out' => .error e out'
    | .ok () out' => writer.flushAll out'

/-- Builds one folder after its line is written. A package that cannot be built is reported if the
    run keeps going, and stops it otherwise. -/
def buildOne (tools : Toolchain σ) (writer : Writer ω) (layout : Layout)
    (options : PackageOptions) (keepGoing : Bool) (folder : TemplateFolder)
    (report : PipelineReport) : EStateM PipelineError (Run σ ω) PipelineReport := fun run =>
  match inOutput (announce writer folder) run with
  | .error e run' => .error e run'
  | .ok () run' =>
    match generate tools layout options folder run'.world with
    | .ok package world =>
      .ok { report with generated := report.generated ++ [package] } { run' with world }
    | .error e world =>
      if keepGoing then
        .ok { report with failed := report.failed ++ [⟨folder, e⟩] } { run' with world }
      else .error (.generate folder e) { run' with world }

/-- Builds folders in turn, going on from a report. -/
def buildOnto (tools : Toolchain σ) (writer : Writer ω) (layout : Layout)
    (options : PackageOptions) (keepGoing : Bool) :
    List TemplateFolder → PipelineReport → EStateM PipelineError (Run σ ω) PipelineReport
  | [], report => pure report
  | folder :: rest, report => fun run =>
    match buildOne tools writer layout options keepGoing folder report run with
    | .error e run' => .error e run'
    | .ok report' run' => buildOnto tools writer layout options keepGoing rest report' run'

end Pipeline

/-- Writes the line of each folder and builds its package. -/
def generateAll {σ ω : Type} (tools : Toolchain σ) (writer : Writer ω) (layout : Layout)
    (options : PackageOptions) (keepGoing : Bool) (folders : List TemplateFolder) :
    EStateM PipelineError (Run σ ω) PipelineReport :=
  Pipeline.buildOnto tools writer layout options keepGoing folders {}

/-- What packages are built with under a configuration. -/
def Config.packageOptions (c : Config) : PackageOptions where
  entryPoint := c.entryPoint
  previewPage := c.previewPage
  previewDpi := c.previewDpi

/-- Fetches, searches and builds as a configuration says, with a way of listing the directories of a
    file system. -/
def runPipelineBy {σ ω : Type} (list : FileSystem → Discovery.Listing) (tools : Toolchain σ)
    (writer : Writer ω) (config : Config) : EStateM PipelineError (Run σ ω) PipelineReport :=
  fun run =>
    let layout : Layout := ⟨config.templatesRoot⟩
    match Pipeline.inWorld .fetch (fetchAll tools layout config.host config.repositories) run with
    | .error e run' => .error e run'
    | .ok () run' =>
      match Discovery.discoverBy (list run'.world.files) layout.reposDir config.entryPoint with
      | .error e => .error (.discovery e) run'
      | .ok folders =>
        generateAll tools writer layout config.packageOptions config.keepGoing folders run'

/-- Fetches, searches and builds as a configuration says. -/
def runPipeline {σ ω : Type} (tools : Toolchain σ) (writer : Writer ω) (config : Config) :
    EStateM PipelineError (Run σ ω) PipelineReport :=
  runPipelineBy (fun fs => fs.readDirectory) tools writer config

/-- What a run does once all repositories are fetched. -/
def buildFound {σ ω : Type} (tools : Toolchain σ) (writer : Writer ω) (config : Config) :
    EStateM PipelineError (Run σ ω) PipelineReport := fun run =>
  match discover run.world.files (Layout.reposDir ⟨config.templatesRoot⟩) config.entryPoint with
  | .error e => .error (.discovery e) run
  | .ok folders =>
    generateAll tools writer ⟨config.templatesRoot⟩ config.packageOptions config.keepGoing folders run

theorem runPipeline_eq {σ ω : Type} (tools : Toolchain σ) (writer : Writer ω) (config : Config)
    (run : Run σ ω) : runPipeline tools writer config run =
      match fetchAll tools ⟨config.templatesRoot⟩ config.host config.repositories run.world with
      | .error e world => .error (.fetch e) { run with world }
      | .ok () world => buildFound tools writer config { run with world } := by
  simp only [runPipeline, runPipelineBy, Pipeline.inWorld]
  cases fetchAll tools ⟨config.templatesRoot⟩ config.host config.repositories run.world <;> rfl

end TemplatePress
