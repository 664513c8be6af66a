import TemplatePress.Path

/-!
# Template folders

A template folder is the path of a directory that holds an entry document. Folders are equal and
ordered by the components of their paths; the last component names the template.
-/

namespace TemplatePress

/-- A directory with a template in it. -/
structure TemplateFolder where
  path : Path
  deriving DecidableEq

namespace TemplateFolder

/-- The template's name: the last component of the path, if that is an ordinary name. -/
def name? (f : TemplateFolder) : Option Name :=
  f.path.fileName

/-- The path without the separators at its end. -/
def trimmed (f : TemplateFolder) : String :=
  String.ofList ((f.path.display.toList.reverse.dropWhile (· = '/')).reverse)

/-- The folder as listings show it: its path with exactly one separator at the end. -/
def display (f : TemplateFolder) : String :=
  f.trimmed ++ "/"

/-- The same folder, however it is spelled. -/
def same (f g : TemplateFolder) : Bool :=
  f.path.same g.path

def compare (f g : TemplateFolder) : Ordering :=
  f.path.compare g.path

/-- Folders in order; among equal ones the given order stays. -/
def sorted (fs : List TemplateFolder) : List TemplateFolder :=
  fs.mergeSort fun f g => f.compare g != .gt

/-- Drops a folder that is the same as the one kept before it. -/
def dropRepeats : List TemplateFolder → List TemplateFolder
  | [] => []
  | f :: rest => f :: go f rest
where
  go (last : TemplateFolder) : List TemplateFolder → List TemplateFolder
    | [] => []
    | f :: rest => if last.same f then go last rest else f :: go f rest

end TemplateFolder

end TemplatePress
