import TemplatePress.Machine.Utility.Basic

/-!
# Removing, linking and moving

The utilities that change where entries stand without looking into files: `rm`, `ln` and `mv`. This
file fixes:

* each operand is dealt with by itself; what goes wrong is said, and the others follow;
* directories are removed with what is in them only if that is asked for;
* several operands, or one operand and a directory, go into the directory under their last names;
* what moves over a file or a link replaces it; a directory does not move into itself.
-/

namespace TemplatePress.Machine.Utility

open Text.Utf8 (bytes)
open Text.ShellQuoted (encode)

namespace Placing

/-- Goes through operands; each changes the files or says what is wrong. -/
def eachOperand (name : String) (act : FileSystem → Bytes → Except Bytes FileSystem)
    (operands : List Bytes) (s : Surroundings) : Trace :=
  operands.foldl (fun t operand =>
    match act t.files operand with
    | .ok files => { t with files }
    | .error text =>
      { t with ending := .exited 1, said := t.said ++ .ofBytes (line name text) })
    (s.ended (.exited 0))

/-- Complains of a path that the system refused. -/
def blame {α : Type} (what : String) (path : Bytes) (e : IoError) : Except Bytes α :=
  .error (bytes what ++ encode path ++ bytes ": " ++ wordsOf e)

/-- The last part of a path. -/
def lastPart (path : Bytes) : Bytes :=
  ((Path.mk path).parts.getLast?).getD []

/-- The path of a name in a directory. -/
def within (directory name : Bytes) : Bytes :=
  ((Path.mk directory).join ⟨lastPart name⟩).bytes

/-! ## 1. Removing -/

/-- Whether a missing entry is no cause for complaint. -/
def isAbsent : IoError → Bool
  | .os e => e = .notFound || e = .notDirectory
  | _ => false

/-- Removes one entry. -/
def remove (recursive force : Bool) (fs : FileSystem) (operand : Bytes) : Except Bytes FileSystem :=
  let last := lastPart operand
  if recursive && (last = Path.here || last = Path.above) then
    .error (bytes "refusing to remove '.' or '..' directory: skipping " ++ encode operand)
  else
    match fs.lstat? ⟨operand⟩ with
    | .error e => if force && isAbsent e then .ok fs else blame "cannot remove " operand e
    | .ok (loc, entry) =>
      if entry.isDirectory && !recursive then blame "cannot remove " operand (.os .isDirectory)
      else .ok (fs.prune loc)

/-! ## 2. Linking -/

/-- Makes a link at a path. -/
def link (force : Bool) (target : Bytes) (fs : FileSystem) (path : Bytes) :
    Except Bytes FileSystem :=
  let refuse := fun e =>
    if target.isEmpty then
      blame "failed to create symbolic link " (path ++ bytes "' -> '") e
    else blame "failed to create symbolic link " path e
  match fs.lstat? ⟨path⟩ with
  | .ok (_, .directory) => refuse (.os .alreadyExists)
  | .ok (loc, _) =>
    if force then .ok ((fs.prune loc).put loc.above (loc.getLast?.getD []) (.link ⟨target⟩))
    else refuse (.os .alreadyExists)
  | .error _ =>
    match fs.spot false ⟨path⟩ with
    | .error e => refuse e
    | .ok ⟨dir, .enter n, _⟩ =>
      if target.isEmpty then refuse (.os .notFound)
      else if fs.admits dir n (.link ⟨target⟩) then .ok (fs.put dir n (.link ⟨target⟩))
      else refuse (.os .notFound)
    | .ok _ => refuse (.os .alreadyExists)

/-! ## 3. Moving -/

/-- The files with what stands at and below one location at and below another. -/
def moved (fs : FileSystem) (origin goal : Location) : FileSystem :=
  let entries := fs.entries.filter fun e => origin.isPrefixOf e.1
  entries.foldl (fun fs e =>
    let loc := goal ++ e.1.drop origin.length
    fs.put loc.dropLast (loc.getLast?.getD []) e.2) (fs.prune origin)

/-- Moves what stands at a path to another path. -/
def move (fs : FileSystem) (source destination : Bytes) : Except Bytes FileSystem :=
  let refuse := blame ("cannot move ") (source ++ bytes "' to '" ++ destination)
  match fs.lstat? ⟨source⟩ with
  | .error e => blame "cannot stat " source e
  | .ok (origin, entry) =>
    match fs.spot false ⟨destination⟩ with
    | .error e => refuse e
    | .ok spot =>
      let goal := spot.location
      let old := fs.at? goal
      if origin = goal && !entry.isDirectory then
        .error (encode source ++ bytes " and " ++ encode destination ++ bytes " are the same file")
      else if entry.isDirectory && origin.isPrefixOf goal then
        .error (bytes "cannot move " ++ encode source ++ bytes " to a subdirectory of itself, " ++
          encode destination)
      else if entry.isDirectory && old.any (!·.isDirectory) then
        .error (bytes "cannot overwrite non-directory " ++ encode destination ++
          bytes " with directory " ++ encode source)
      else if !entry.isDirectory && old.any (·.isDirectory) then
        .error (bytes "cannot overwrite directory " ++ encode destination ++
          bytes " with non-directory")
      else if !(fs.children goal).isEmpty then refuse (.os .notEmpty)
      else if !fs.isDirectory goal.above then refuse (.os .notFound)
      else .ok (moved (fs.prune goal) origin goal)

/-- Where the operands go: into a directory, or the only one to a path. -/
def places (name : String) (fs : FileSystem) (operands : List Bytes) :
    Except Bytes (List (Bytes × Bytes)) :=
  match operands.getLast?, operands.dropLast with
  | none, _ => .error (misused name (bytes "missing file operand"))
  | some only, [] =>
    .error (misused name (bytes "missing destination file operand after " ++ encode only))
  | some last, sources =>
    if fs.leadsToDirectory ⟨last⟩ then .ok (sources.map fun s => (s, within last s))
    else
      match sources with
      | [source] => .ok [(source, last)]
      | _ =>
        match fs.stat? ⟨last⟩ with
        | .error e => .error (bytes "target " ++ encode last ++ bytes ": " ++ wordsOf e)
        | .ok _ =>
          .error (bytes "target " ++ encode last ++ bytes ": " ++ wordsOf (.os .notDirectory))

/-- Goes through operands with their places. -/
def eachPlace (name : String) (act : FileSystem → Bytes → Bytes → Except Bytes FileSystem)
    (operands : List Bytes) (s : Surroundings) : Trace :=
  match places name s.files operands with
  | .error text => complains s name text
  | .ok found =>
    found.foldl (fun t place =>
      match act t.files place.1 place.2 with
      | .ok files => { t with files }
      | .error text =>
        { t with ending := .exited 1, said := t.said ++ .ofBytes (line name text) })
      (s.ended (.exited 0))

end Placing

/-- Removes entries. -/
def remover : Utility := fun arguments s =>
  match readOptions [('r', "recursive"), ('R', "recursive"), ('f', "force")] arguments with
  | .error e => refuses s "rm" e
  | .ok (options, operands) =>
    let force := options.contains 'f'
    let recursive := options.contains 'r' || options.contains 'R'
    if operands.isEmpty && !force then refuses s "rm" (bytes "missing operand")
    else Placing.eachOperand "rm" (Placing.remove recursive force) operands s

/-- Makes links. -/
def linker : Utility := fun arguments s =>
  match readOptions [('s', "symbolic"), ('f', "force"), ('n', "no-dereference")] arguments with
  | .error e => refuses s "ln" e
  | .ok (options, operands) =>
    let operands := match operands with
      | [target] => [target, Path.here]
      | _ => operands
    Placing.eachPlace "ln" (fun fs target path => Placing.link (options.contains 'f') target fs path)
      operands s

/-- Moves entries. -/
def mover : Utility := fun arguments s =>
  match readOptions [('f', "force")] arguments with
  | .error e => refuses s "mv" e
  | .ok (_, operands) => Placing.eachPlace "mv" Placing.move operands s

end TemplatePress.Machine.Utility
