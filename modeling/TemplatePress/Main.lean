import TemplatePress.CommandLine.Run
import TemplatePress.Environment.File
import TemplatePress.Machine.Programs
import TemplatePress.Toolchain.System

/-!
# The program

Loads the working directory, runs the program on it, stores what changed, and writes what the run
printed. The tools are scripts that the settings name, or programs of the standard machine. A link is
not loaded; a file that begins by naming the program that reads it counts as executable.
-/

namespace TemplatePress.Disk

/-- Whether a file begins by naming the program that reads it. -/
def namesInterpreter (content : Bytes) : Bool :=
  (Machine.interpreter? content).isSome

/-- Loads an entry of the disk, with all below it, into the directory at a location. -/
partial def loadEntry (dir : Location) (fs : FileSystem) (entry : IO.FS.DirEntry) :
    IO FileSystem := do
  let name := Text.Utf8.bytes entry.fileName
  match (← entry.path.symlinkMetadata).type with
  | .dir =>
    (← entry.path.readDir).foldlM (loadEntry (dir ++ [name])) (fs.put dir name .directory)
  | .file =>
    let content := (← IO.FS.readBinFile entry.path).toList
    return fs.put dir name (.file content (namesInterpreter content))
  | _ => return fs

/-- Loads the working directory. -/
def load : IO FileSystem := do
  let here ← IO.currentDir
  let home := (Path.ofString here.toString).parts
  let above := home.foldl (fun (loc, fs) name =>
    (loc ++ [name], FileSystem.put fs loc name .directory)) (([] : Location), FileSystem.empty)
  let fs := { above.2 with home }
  (← here.readDir).foldlM (loadEntry home) fs

/-- The relative path of a location below the working directory. -/
def relativePath (home loc : Location) : String :=
  Text.Utf8.lossy (List.intercalate [Path.separator] (loc.drop home.length))

/-- Removes what is gone, and what gives way to another kind of entry, from below upwards. -/
def removeGone (before after : FileSystem) : IO Unit :=
  before.entries.reverse.forM fun (loc, entry) => do
    let path := relativePath before.home loc
    match entry, after.at? loc with
    | .directory, some .directory => pure ()
    | .directory, _ => IO.FS.removeDir path
    | _, some (.file _ _) => pure ()
    | _, _ => IO.FS.removeFile path

/-- Makes what is new or different, from above downwards. -/
def makeNew (before after : FileSystem) : IO Unit :=
  after.entries.forM fun (loc, entry) => do
    if before.at? loc = some entry then return
    let path := relativePath after.home loc
    match entry with
    | .directory => IO.FS.createDir path
    | .file content executable =>
      IO.FS.writeBinFile path ⟨content.toArray⟩
      if executable then
        IO.setAccessRights path ⟨⟨true, true, true⟩, ⟨true, false, true⟩, ⟨true, false, true⟩⟩
    | .link _ => pure ()

/-- The variables that the program looks at. -/
def environment : IO Environment := do
  let set (env : Environment) (name : String) : IO Environment := do
    match ← IO.getEnv name with
    | some value => return env.set name (Text.Utf8.bytes value)
    | none => return env
  set (← set {} Config.rootVariable) Config.timeoutVariable

end TemplatePress.Disk

/-- Runs the program on the working directory. -/
def main (arguments : List String) : IO UInt32 := do
  let before ← TemplatePress.Disk.load
  let env := (← TemplatePress.Disk.environment).withFile before
  let (outcome, run) := TemplatePress.runProgram (TemplatePress.Machine.standard.toolchain env)
    TemplatePress.Writer.accepting env (arguments.map TemplatePress.Text.Utf8.bytes)
    ⟨⟨before, ()⟩, ⟨(), []⟩⟩
  TemplatePress.Disk.removeGone before run.world.files
  TemplatePress.Disk.makeNew before run.world.files
  (← IO.getStdout).write ⟨run.output.accepted.toArray⟩
  (← IO.getStderr).putStr outcome.said
  return UInt32.ofNat outcome.status
