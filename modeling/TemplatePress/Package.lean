import TemplatePress.Layout
import TemplatePress.TemplateFolder
import TemplatePress.Toolchain

/-!
# Packages

Builds the package of one template folder: the folder's name is checked, whatever stands in the
package's place is removed and an empty directory is made, then the source is copied, the metadata
of the reference package is copied, the entry document is compiled, and one page is drawn. A step is
taken only after the ones before it succeeded, and each has its own error.
-/

namespace TemplatePress

/-- Why a package could not be built. -/
inductive PackageError where
  /-- The folder's path ends in no name. -/
  | unnamedFolder (folder : Path)
  /-- The package would take the place of the reference package. -/
  | reservedName (folder : Path)
  | prepare (path : Path) (source : IoError)
  | copySource (path : Path) (source : ToolError)
  | copyMetadata (origin destination : Path) (source : IoError)
  | compile (path : Path) (source : ToolError)
  | rasterize (path : Path) (source : ToolError)
  deriving DecidableEq

namespace PackageError

def message : PackageError → String
  | .unnamedFolder folder => "template folder " ++ folder.display ++ " has no name segment"
  | .reservedName folder =>
    "template folder " ++ folder.display ++
      " is named like the reference package and would replace it"
  | .prepare path source =>
    "failed to prepare package directory " ++ path.display ++ ": " ++ source.message
  | .copySource path source =>
    "failed to copy template source into " ++ path.display ++ ": " ++ source.message
  | .copyMetadata origin destination source =>
    "failed to copy metadata " ++ origin.display ++ " to " ++ destination.display ++ ": " ++
      source.message
  | .compile path source => "failed to compile " ++ path.display ++ ": " ++ source.message
  | .rasterize path source =>
    "failed to render preview of " ++ path.display ++ ": " ++ source.message

/-- The messages of the errors behind this one. -/
def sources : PackageError → List String
  | .unnamedFolder _ => []
  | .reservedName _ => []
  | .prepare _ source => [source.message]
  | .copySource _ source => source.message :: source.sources
  | .copyMetadata _ _ source => [source.message]
  | .compile _ source => source.message :: source.sources
  | .rasterize _ source => source.message :: source.sources

end PackageError

/-- What a package is built with. -/
structure PackageOptions where
  /-- The name of the document that is compiled. -/
  entryPoint : String := "main.typ"
  previewPage : Nat := 0
  previewDpi : Nat := 300
  deriving DecidableEq

/-- A package that was built. -/
structure TemplatePackage where
  name : String
  dir : Path
  document : Path
  preview : Path
  deriving DecidableEq

namespace Package

/-- Makes the package's place an empty directory. -/
def prepare (dir : Path) : Disk Unit := fun fs =>
  match FileSystem.removeIfPresent dir fs with
  | .error e fs' => .error e fs'
  | .ok () fs' => FileSystem.makeDirectories dir fs'

/-- Asks a tool, with an error of the step that it serves. -/
def ask {σ : Type} (tools : Toolchain σ) (call : ToolCall) (wrap : ToolError → PackageError) :
    EStateM PackageError (World σ) Unit := fun w =>
  match tools.run call w with
  | .ok () w' => .ok () w'
  | .error e w' => .error (wrap e) w'

/-- The steps that fill an empty package. -/
def fill {σ : Type} (tools : Toolchain σ) (layout : Layout) (options : PackageOptions)
    (folder : Path) (paths : PackagePaths) : EStateM PackageError (World σ) Unit := do
  ask tools (.copyTree folder paths.typst) (.copySource paths.typst)
  World.onFiles (.copyMetadata layout.referenceMetadata paths.metadata)
    (Disk.change fun fs => fs.copyFile layout.referenceMetadata paths.metadata)
  ask tools (.compile paths.entryDocument paths.document) (.compile paths.entryDocument)
  ask tools
    (.rasterize paths.document options.previewPage options.previewDpi paths.preview)
    (.rasterize paths.document)

/-- The package of a name as it is reported. -/
def report (name : Name) (paths : PackagePaths) : TemplatePackage where
  name := Text.Utf8.lossy name
  dir := paths.dir
  document := paths.document
  preview := paths.preview

end Package

/-- Builds the package of a template folder. -/
def generate {σ : Type} (tools : Toolchain σ) (layout : Layout) (options : PackageOptions)
    (folder : TemplateFolder) : EStateM PackageError (World σ) TemplatePackage := fun w =>
  match folder.name? with
  | none => .error (.unnamedFolder folder.path) w
  | some name =>
    if name = Text.Utf8.bytes Layout.referencePackage then .error (.reservedName folder.path) w
    else
      let paths := layout.package name options.entryPoint
      match World.onFiles (.prepare paths.dir) (Package.prepare paths.dir) w with
      | .error e w' => .error e w'
      | .ok () w' =>
        match Package.fill tools layout options folder.path paths w' with
        | .error e w'' => .error e w''
        | .ok () w'' => .ok (Package.report name paths) w''

end TemplatePress
