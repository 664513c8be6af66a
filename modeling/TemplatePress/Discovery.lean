import TemplatePress.FileSystem.Lookup
import TemplatePress.TemplateFolder

/-!
# Discovery

Finding the template folders of a tree. A directory is visited entry by entry in the order of names:
a real directory is visited in its turn, and any other entry with the name of the entry document
makes the directory a template folder. Links are not followed, and the first directory that cannot
be listed ends the search.
-/

namespace TemplatePress

/-- Why a search for templates failed. -/
inductive DiscoveryError where
  /-- A directory could not be listed. -/
  | readDirectory (path : Path) (source : IoError)
  deriving DecidableEq

namespace DiscoveryError

def message : DiscoveryError → String
  | .readDirectory path source =>
    "failed to read directory " ++ path.display ++ ": " ++ source.message

/-- The messages of the errors behind this one. -/
def sources : DiscoveryError → List String
  | .readDirectory _ source => [source.message]

end DiscoveryError

namespace Discovery

/-- How directories are listed. -/
abbrev Listing := Path → Except IoError (List (Name × Entry))

/-- Whether the name of the first entry comes no later than that of the second. -/
def byName (a b : Name × Entry) : Bool :=
  Path.compareBytes a.1 b.1 != .gt

/-- What one entry of a directory contributes: the folders below it, or the directory itself. -/
def visitEntry (visit : Path → Except DiscoveryError (List TemplateFolder)) (entryPoint : Name)
    (dir : Path) : Name × Entry → Except DiscoveryError (List TemplateFolder)
  | (n, .directory) => visit (dir.join ⟨n⟩)
  | (n, _) => .ok (if n = entryPoint then [⟨dir⟩] else [])

/-- The contributions of entries in turn, up to the first failure. -/
def visitEntries (visit : Path → Except DiscoveryError (List TemplateFolder)) (entryPoint : Name)
    (dir : Path) : List (Name × Entry) → Except DiscoveryError (List TemplateFolder)
  | [] => .ok []
  | e :: rest =>
    match visitEntry visit entryPoint dir e with
    | .error err => .error err
    | .ok found =>
      match visitEntries visit entryPoint dir rest with
      | .error err => .error err
      | .ok more => .ok (found ++ more)

/-- The template folders at and below a directory, at most `depth` levels down. -/
def visitLevels (list : Listing) (entryPoint : Name) :
    (depth : Nat) → Path → Except DiscoveryError (List TemplateFolder)
  | 0, dir => .error (.readDirectory dir (.os .nameTooLong))
  | depth + 1, dir =>
    match list dir with
    | .error e => .error (.readDirectory dir e)
    | .ok entries =>
      visitEntries (visitLevels list entryPoint depth) entryPoint dir (entries.mergeSort byName)

/-- The template folders at and below a directory, as a way of listing shows it. A path over the
    limit cannot be listed, so the limit bounds the depth. -/
def discoverBy (list : Listing) (root : Path) (entryPoint : String) :
    Except DiscoveryError (List TemplateFolder) :=
  visitLevels list (Text.Utf8.bytes entryPoint) FileSystem.pathLimit root

end Discovery

/-- The template folders at and below `root`. -/
def discover (fs : FileSystem) (root : Path) (entryPoint : String) :
    Except DiscoveryError (List TemplateFolder) :=
  Discovery.discoverBy fs.readDirectory root entryPoint

end TemplatePress
