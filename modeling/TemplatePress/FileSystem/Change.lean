import TemplatePress.FileSystem.Lookup

/-!
# Changing files

The operations on paths that create, write, copy and remove. This file fixes:

* an operation of one step either happens or leaves everything as it was (`makeDirectory`,
  `writeFile`, `copyFile`, `removeDirectory`);
* an operation of several steps keeps what it did before it failed (`makeDirectories`,
  `removeTree`, `copyTree`), so it is an action on the file system, a `Disk`;
* writing goes through a link at the end of the path, creating and removing do not;
* a copied file takes content and execute bit; a file copied onto itself loses its content.
-/

namespace TemplatePress

/-- An action on the file system that may fail half way. -/
abbrev Disk (α : Type) := EStateM IoError FileSystem α

/-- A change that happens as a whole or not at all. -/
def Disk.change (f : FileSystem → Except IoError FileSystem) : Disk Unit := fun fs =>
  match f fs with
  | .ok fs' => .ok () fs'
  | .error e => .error e fs

/-- A question to the file system. -/
def Disk.ask {α : Type} (f : FileSystem → Except IoError α) : Disk α := fun fs =>
  match f fs with
  | .ok a => .ok a fs
  | .error e => .error e fs

namespace FileSystem

/-! ## 1. Directories -/

/-- Creates one directory where nothing stands yet. -/
def makeDirectory (fs : FileSystem) (p : Path) : Except IoError FileSystem :=
  match fs.spot false p with
  | .error e => .error e
  | .ok ⟨dir, .enter n, _⟩ =>
    if (fs.at? (dir ++ [n])).isSome then .error (.os .alreadyExists)
    else if fs.admits dir n .directory then .ok (fs.put dir n .directory)
    else .error (.os .notFound)
  | .ok _ => .error (.os .alreadyExists)

/-- A path and the paths above it, the path first. -/
def ancestorsFrom : Nat → Path → List Path
  | 0, p => [p]
  | n + 1, p =>
    match p.parent? with
    | none => [p]
    | some q => p :: ancestorsFrom n q

/-- Creates the first directory of a list, and the ones after it as far as they are missing. -/
def makeFirst : List Path → Disk Unit
  | [] => throw (.os .notFound)
  | p :: above => fun fs =>
    if p.isEmpty then .ok () fs
    else
      match fs.makeDirectory p with
      | .ok fs' => .ok () fs'
      | .error e =>
        if e.isNotFound then
          match makeFirst above fs with
          | .error e fs' => .error e fs'
          | .ok () fs' =>
            match fs'.makeDirectory p with
            | .ok fs'' => .ok () fs''
            | .error e => if fs'.leadsToDirectory p then .ok () fs' else .error e fs'
        else if fs.leadsToDirectory p then .ok () fs
        else .error e fs

/-- Creates a directory and every missing directory above it. -/
def makeDirectories (p : Path) : Disk Unit :=
  makeFirst (ancestorsFrom p.components.length p)

/-! ## 2. Files -/

/-- Where a write to a path goes: directory, name, and the execute bit of the file there, if any. -/
def writeTarget (fs : FileSystem) (p : Path) : Except IoError (Location × Name × Option Bool) :=
  match fs.spot true p with
  | .error e => .error e
  | .ok ⟨dir, .enter n, false⟩ =>
    match fs.at? (dir ++ [n]) with
    | none =>
      if fs.admits dir n (.file [] false) then .ok (dir, n, none) else .error (.os .notFound)
    | some (.file _ executable) => .ok (dir, n, some executable)
    | some _ => .error (.os .isDirectory)
  | .ok _ => .error (.os .isDirectory)

/-- Writes a file from the beginning. A new file has no execute bit, an old one keeps its own. -/
def writeFile (fs : FileSystem) (p : Path) (content : Bytes) : Except IoError FileSystem :=
  match fs.writeTarget p with
  | .error e => .error e
  | .ok (dir, n, executable?) => .ok (fs.put dir n (.file content (executable?.getD false)))

/-- Copies the regular file that `source` leads to. -/
def copyFile (fs : FileSystem) (source destination : Path) : Except IoError FileSystem :=
  match fs.stat? source with
  | .error e => .error e
  | .ok (loc, .file content executable) =>
    match fs.writeTarget destination with
    | .error e => .error e
    | .ok (dir, n, _) =>
      let kept := if dir ++ [n] = loc then [] else content
      .ok (fs.put dir n (.file kept executable))
  | .ok _ => .error .notRegularFile

/-! ## 3. Removing -/

/-- Removes an empty directory. -/
def removeDirectory (fs : FileSystem) (p : Path) : Except IoError FileSystem :=
  match fs.spot false p with
  | .error e => .error e
  | .ok ⟨_, .stay, _⟩ => .error (.os (if p.steps.isEmpty then .busy else .invalidArgument))
  | .ok ⟨_, .up, _⟩ => .error (.os .notEmpty)
  | .ok ⟨dir, .enter n, _⟩ =>
    match fs.at? (dir ++ [n]) with
    | none => .error (.os .notFound)
    | some .directory =>
      if (fs.children (dir ++ [n])).isEmpty then .ok (fs.prune (dir ++ [n]))
      else .error (.os .notEmpty)
    | some _ => .error (.os .notDirectory)

/-- Removes what is in the directory at `loc`, then the directory by its path. -/
def removeTree (p : Path) (loc : Location) : Disk Unit := fun fs =>
  let emptied := fs.clear loc
  match emptied.removeDirectory p with
  | .ok fs' => .ok () fs'
  | .error e => if e.isNotFound then .ok () emptied else .error e emptied

/-- Removes whatever stands at a path: a directory with all that is in it, a file, or a link but not
    what it points to. Where nothing stands there is nothing to do. -/
def removeIfPresent (p : Path) : Disk Unit := fun fs =>
  match fs.lstat? p with
  | .error e => if e.isNotFound then .ok () fs else .error e fs
  | .ok (loc, .directory) => removeTree p loc fs
  | .ok (loc, _) => .ok () (fs.prune loc)

/-! ## 4. Copying trees -/

/-- Acts on each item in turn until one fails. -/
def each {α : Type} (act : α → Disk Unit) : List α → Disk Unit
  | [] => pure ()
  | a :: rest => fun fs =>
    match act a fs with
    | .error e fs' => .error e fs'
    | .ok () fs' => each act rest fs'

/-- Copies one listed entry: a directory by `tree`, anything else as the file it leads to. -/
def copyEntry (tree : Path → Path → Disk Unit) (source destination : Path) :
    Name × Entry → Disk Unit
  | (n, .directory) => tree (source.join ⟨n⟩) (destination.join ⟨n⟩)
  | (n, _) => Disk.change fun fs => fs.copyFile (source.join ⟨n⟩) (destination.join ⟨n⟩)

/-- Copies a directory, at most `depth` levels deep. -/
def copyLevels : (depth : Nat) → Path → Path → Disk Unit
  | 0, _, _ => throw (.os .nameTooLong)
  | depth + 1, source, destination => fun fs =>
    match makeDirectories destination fs with
    | .error e fs' => .error e fs'
    | .ok () fs' =>
      match fs'.readDirectory source with
      | .error e => .error e fs'
      | .ok entries => each (copyEntry (copyLevels depth) source destination) entries fs'

/-- Copies a directory with all that is in it; files are copied as what they lead to. Each level
    makes the paths longer, so the limit on paths bounds the depth. -/
def copyTree (source destination : Path) : Disk Unit :=
  copyLevels pathLimit source destination

end FileSystem

end TemplatePress
