import TemplatePress.FileSystem.Lookup
import TemplatePress.Shell.Pattern

/-!
# Names of files

A word in which a byte without quotes stands for others is a pattern for paths. This file fixes:

* a pattern is matched part by part between separators, each part against the names in a directory;
* a name that begins with a dot is matched only by a part that begins with one;
* the paths are in the order of their bytes; a pattern that no path matches stands for itself.
-/

namespace TemplatePress.Shell

/-- A word whose bytes know whether they are quoted. -/
abbrev Marked := List (UInt8 × Bool)

namespace Marked

/-- The bytes alone. -/
def bytes (w : Marked) : Bytes :=
  w.map (·.1)

/-- White space. -/
def isBlank (b : UInt8) : Bool :=
  b = 0x20 || b = 0x09 || b = 0x0A

/-- Whether a byte without quotes may stand for others. -/
def isPattern (w : Marked) : Bool :=
  w.any fun b => !b.2 && (b.1 = 0x2A || b.1 = 0x3F || b.1 = 0x5B)

/-- The parts between separators. -/
def split : Marked → List Marked
  | [] => [[]]
  | b :: rest =>
    if b.1 = Path.separator then [] :: split rest
    else
      match split rest with
      | [] => [[b]]
      | part :: parts => (b :: part) :: parts

/-- The names in a directory that a part matches. -/
def namesIn (fs : FileSystem) (dir : Path) (part : Marked) : List Bytes :=
  let pattern := Pattern.ofBytes part
  let showsDots := part.head?.any fun b => b.1 = 0x2E
  let names :=
    match fs.readDirectory dir with
    | .ok entries => Path.here :: Path.above :: entries.map Prod.fst
    | .error _ => []
  names.filter fun n => (showsDots || n.head? != some 0x2E) && pattern.accepts n

/-- Paths with a part behind each. -/
def goOn (fs : FileSystem) (paths : List Bytes) (part : Marked) : List Bytes :=
  if part.isPattern then
    paths.flatMap fun p =>
      (namesIn fs ⟨if p.isEmpty then Path.here else p⟩ part).map (p ++ ·)
  else paths.map (· ++ part.bytes)

/-- Goes on through parts with separators between them. -/
def paths (fs : FileSystem) : List Bytes → List Marked → List Bytes
  | found, [] => found
  | found, [part] => goOn fs found part
  | found, part :: rest => paths fs ((goOn fs found part).map (· ++ [Path.separator])) rest

/-- The words that a word stands for. -/
def words (fs : FileSystem) (w : Marked) : List Bytes :=
  if !w.isPattern then [w.bytes]
  else
    let found := (paths fs [[]] w.split).filter fun p : Bytes => (fs.lstat? ⟨p⟩).toBool
    if found = [] then [w.bytes]
    else found.mergeSort fun a b => Path.compareBytes a b != .gt

end Marked

end TemplatePress.Shell
