import TemplatePress.Repository
import TemplatePress.Tool.Status

/-!
# Configuration

The settings of a run. Every setting has a default; with all of them a run clones
`typst/templates` from `github.com` and builds its packages under `Templates`.
-/

namespace TemplatePress

/-- The outside programs and how long each may run. -/
structure ToolsConfig where
  git : String := "git"
  cp : String := "cp"
  typst : String := "typst"
  convert : String := "convert"
  /-- A tool that runs longer than this many seconds is stopped. -/
  timeoutSecs : Option Nat := none
  deriving DecidableEq

/-- The longest time that a tool may run, if there is one. -/
def ToolsConfig.timeout (t : ToolsConfig) : Option Duration :=
  t.timeoutSecs.map Duration.ofSeconds

/-- The settings of a run. -/
structure Config where
  templatesRoot : Path := .ofString "Templates"
  host : String := "github.com"
  repositories : List RepositoryRef := [{ author := "typst", repo := "templates" }]
  entryPoint : String := "main.typ"
  previewDpi : Nat := 300
  previewPage : Nat := 0
  keepGoing : Bool := false
  tools : ToolsConfig := {}
  deriving DecidableEq

end TemplatePress
