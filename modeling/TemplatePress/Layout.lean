import TemplatePress.Repository

/-!
# Layout

Where everything stands below a root directory:

* `repos/<author>/<repo>` is the clone of a repository;
* `<name>.sr` is a template package: `Typst` with the template's source, `Serifian.plist`,
  `preview.pdf` and `preview.jpg`;
* `Empty.sr` is the reference package, whose `Serifian.plist` every package copies.
-/

namespace TemplatePress

/-- The paths of one template package. -/
structure PackagePaths where
  dir : Path
  /-- The template's source. -/
  typst : Path
  metadata : Path
  /-- The document that is compiled. -/
  entryDocument : Path
  /-- The compiled document. -/
  document : Path
  /-- The picture of one page. -/
  preview : Path
  deriving DecidableEq

/-- A directory that holds the clones and the packages. -/
structure Layout where
  root : Path
  deriving DecidableEq

namespace Layout

/-- The name of the reference package. -/
def referencePackage : String := "Empty"

/-- The directory of all clones. -/
def reposDir (l : Layout) : Path :=
  l.root.join (.ofString "repos")

/-- The directory of one clone. -/
def cloneDir (l : Layout) (r : RepositoryRef) : Path :=
  (l.reposDir.join (.ofString r.author)).join (.ofString r.repo)

/-- The directory of the package of a name. -/
def packageDir (l : Layout) (name : Name) : Path :=
  l.root.join ⟨name ++ Text.Utf8.bytes ".sr"⟩

/-- The metadata that every package copies. -/
def referenceMetadata (l : Layout) : Path :=
  (l.packageDir (Text.Utf8.bytes referencePackage)).join (.ofString "Serifian.plist")

/-- The paths of the package of a name, with the entry document of a template. -/
def package (l : Layout) (name : Name) (entryPoint : String) : PackagePaths :=
  let dir := l.packageDir name
  let typst := dir.join (.ofString "Typst")
  { dir
    typst
    metadata := dir.join (.ofString "Serifian.plist")
    entryDocument := typst.join (.ofString entryPoint)
    document := dir.join (.ofString "preview.pdf")
    preview := dir.join (.ofString "preview.jpg") }

end Layout

end TemplatePress
