import TemplatePress.Machine.Utility.Basic

/-!
# The copier

`cp` copies files to a place or into a directory, with `-r` also directories. Here a source that is
a link is copied as a link; without `-r` it stands for what it leads to. This file fixes:

* what is in the way is written over by its own kind: a directory takes entries, a file takes
  content and keeps its execute bit, a link is replaced;
* what cannot be copied is said, and the rest is copied nevertheless;
* a directory that the copier made is not copied into itself.
-/

namespace TemplatePress.Machine.Utility.Copy

open Text.Utf8 (bytes)
open Text.ShellQuoted (encode)

/-- How far the copying has come. -/
structure Progress where
  files : FileSystem
  said : Bytes := []
  failed : Bool := false
  /-- The first directory that was made for the operand. -/
  made : Option Location := none
  /-- Whether that directory was met as a source, which ends the copying of the operand. -/
  metItself : Bool := false

/-- A copying action. -/
abbrev Act := StateM Progress Unit

/-- Says that something could not be copied. -/
def complain (text : Bytes) : Act :=
  modify fun p => { p with said := p.said ++ line "cp" text, failed := true }

/-- Complains of a path that the system refused. -/
def blame (what : String) (path : Path) (e : IoError) : Act :=
  complain (bytes what ++ encode path.bytes ++ bytes ": " ++ wordsOf e)

/-- The operands of the copier for one source. -/
structure Operand where
  recursive : Bool
  source : Path
  destination : Path

/-- What stands at the destination; none if there is nothing yet. -/
def standing (fs : FileSystem) (follow : Bool) (destination : Path) :
    Except IoError (Option (Location × Entry)) :=
  match if follow then fs.stat? destination else fs.lstat? destination with
  | .ok found => .ok (some found)
  | .error e => if e.isNotFound then .ok none else .error e

/-- Writes a file. A new one takes the execute bit of its source. -/
def writeFile (destination : Path) (isNew : Bool) (content : Bytes) (executable : Bool) : Act :=
  fun p =>
    let failing := blame "cannot create regular file " destination
    match p.files.writeTarget destination with
    | .error (.os e) =>
      let e := if e = .isDirectory && destination.endsInSeparator then .notDirectory else e
      failing (.os e) p
    | .error e => failing e p
    | .ok (dir, n, old) =>
      if isNew && (p.files.lstat? destination).toBool then
        complain (bytes "not writing through dangling symlink " ++ encode destination.bytes) p
      else
        ((), { p with files := p.files.put dir n (.file content (old.getD executable)) })

/-- Makes a link in place of whatever is there. -/
def writeLink (destination : Path) (old : Option Location) (target : Path) : Act := fun p =>
  let files := match old with
    | some loc => p.files.prune loc
    | none => p.files
  match files.spot false destination with
  | .error e => blame "cannot create symbolic link " destination e p
  | .ok ⟨dir, .enter n, _⟩ =>
    if files.admits dir n (.link target) then
      ((), { p with files := files.put dir n (.link target) })
    else blame "cannot create symbolic link " destination (.os .notFound) p
  | .ok _ => blame "cannot create symbolic link " destination (.os .alreadyExists) p

/-- Acts on names in turn, as long as the copying goes on. -/
def eachName (act : Name → Act) : List Name → Act
  | [] => pure ()
  | n :: rest => do
    act n
    if !(← get).metItself then eachName act rest

/-- Copies what is in one directory to another by `copy`. -/
def copyEntries (copy : Path → Path → Act) (loc : Location) (source destination : Path) : Act := do
  let p ← get
  eachName (fun n => copy (source.join ⟨n⟩) (destination.join ⟨n⟩))
    ((p.files.children loc).map Prod.fst)

/-- Copies a directory by copying its entries. -/
def copyDirectory (operand : Operand) (copy : Path → Path → Act) (loc : Location)
    (source destination : Path) (old : Option (Location × Entry)) : Act := fun p =>
  if p.made = some loc then
    complain (bytes "cannot copy a directory, " ++ encode operand.source.bytes ++
      bytes ", into itself, " ++ encode operand.destination.bytes) { p with metItself := true }
  else
    match old with
    | some (_, .directory) => copyEntries copy loc source destination p
    | some _ =>
      complain (bytes "cannot overwrite non-directory " ++ encode destination.bytes ++
        bytes " with directory " ++ encode source.bytes) p
    | none =>
      match p.files.makeDirectory destination with
      | .error e => blame "cannot create directory " destination e p
      | .ok files =>
        let made := p.made.orElse fun _ =>
          ((files.lstat? destination).toOption).map Prod.fst
        copyEntries copy loc source destination { p with files, made }

/-- Copies whatever stands at a path, at most `depth` levels deep. -/
def copy (operand : Operand) : (depth : Nat) → Path → Path → Act
  | 0, source, _ => blame "cannot stat " source (.os .nameTooLong)
  | depth + 1, source, destination => fun p =>
    match if operand.recursive then p.files.lstat? source else p.files.stat? source with
    | .error e => blame "cannot stat " source e p
    | .ok (loc, entry) =>
      if entry.isDirectory && !operand.recursive then
        complain (bytes "-r not specified; omitting directory " ++ encode source.bytes) p
      else
        let follow := match entry with
          | .file _ _ => true
          | _ => false
        match standing p.files follow destination with
        | .error e => blame "cannot stat " destination e p
        | .ok old =>
          if old.map Prod.fst = some loc && !entry.isDirectory then
            complain (encode source.bytes ++ bytes " and " ++ encode destination.bytes ++
              bytes " are the same file") p
          else
            match entry, old with
            | .directory, _ =>
              copyDirectory operand (copy operand depth) loc source destination old p
            | _, some (_, .directory) =>
              complain (bytes "cannot overwrite directory " ++ encode destination.bytes ++
                bytes " with non-directory") p
            | .file content executable, _ =>
              writeFile destination old.isNone content executable p
            | .link target, _ => writeLink destination (old.map Prod.fst) target p

/-- Copies one operand. -/
def copyOperand (operand : Operand) : Act := do
  modify fun p => { p with made := none, metItself := false }
  copy operand FileSystem.pathLimit operand.source operand.destination

/-- The last part of a path. A `..` does not lead out of the directory that is copied into. -/
def lastPart (p : Path) : Bytes :=
  match p.parts.getLast? with
  | none => []
  | some part => if part = Path.above then Path.here else part

/-- Copies each source into a directory. -/
def copyInto (recursive : Bool) (directory : Path) : List Bytes → Act
  | [] => pure ()
  | source :: rest => do
    copyOperand ⟨recursive, ⟨source⟩, directory.join ⟨lastPart ⟨source⟩⟩⟩
    copyInto recursive directory rest

/-- Copies sources to the last operand. -/
def copyOperands (recursive : Bool) (operands : List Bytes) (s : Surroundings) : Trace :=
  let finish := fun (act : Act) =>
    let p := (act.run { files := s.files }).2
    { s.ended (.exited (if p.failed then 1 else 0)) with
      files := p.files, said := .ofBytes p.said }
  match operands.getLast?, operands.dropLast with
  | none, _ => refuses s "cp" (bytes "missing file operand")
  | some only, [] =>
    refuses s "cp" (bytes "missing destination file operand after " ++ encode only)
  | some last, sources =>
    let target := s.files.stat? ⟨last⟩
    match target, sources with
    | .ok (_, .directory), _ => finish (copyInto recursive ⟨last⟩ sources)
    | _, [source] => finish (copyOperand ⟨recursive, ⟨source⟩, ⟨last⟩⟩)
    | .ok _, _ =>
      complains s "cp" (bytes "target " ++ encode last ++ bytes ": " ++
        wordsOf (.os .notDirectory))
    | .error e, _ =>
      complains s "cp" (bytes "target " ++ encode last ++ bytes ": " ++ wordsOf e)

def known : Options :=
  [('r', "recursive"), ('R', "recursive"), ('a', "archive"), ('f', "force"), ('p', "preserve")]

end TemplatePress.Machine.Utility.Copy

namespace TemplatePress.Machine.Utility

/-- The copier. -/
def copier : Utility := fun arguments s =>
  match readOptions Copy.known arguments with
  | .error e => refuses s "cp" e
  | .ok (options, operands) =>
    Copy.copyOperands (options.any fun c => c = 'r' || c = 'R' || c = 'a') operands s

end TemplatePress.Machine.Utility
