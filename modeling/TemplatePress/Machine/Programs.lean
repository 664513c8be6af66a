import TemplatePress.Machine.Utility.Copy
import TemplatePress.Machine.Utility.Files
import TemplatePress.Machine.Utility.Placing
import TemplatePress.Machine.Utility.Printing
import TemplatePress.Machine.Utility.Waiting
import TemplatePress.Shell.Run

/-!
# The programs of a machine

A machine has some utilities and a shell installed. This file fixes how a command finds its program:

* a name without a separator is searched for in the directories that a variable names;
* a path leads to an installed program or to a file; the file has to be executable, and its first
  line has to name the program that reads it;
* what cannot be found or run is an error of the system, as is a file of no known format.

Programs that run programs do so only to a limited depth; beyond it a command does not end. A command
that has no time at all does nothing.
-/

namespace TemplatePress.Machine

open Text.Utf8 (bytes)

/-- A program that is installed. -/
inductive Program where
  | utility (run : Utility)
  | shell
  /-- Runs the program that its first argument names. -/
  | finder

/-- The installed programs by their names. -/
def installed : List (String × Program) :=
  [("basename", .utility Utility.basename), ("cat", .utility Utility.cat),
    ("cp", .utility Utility.copier), ("dash", .shell), ("dirname", .utility Utility.dirname),
    ("echo", .utility Utility.echo), ("env", .finder), ("false", .utility Utility.fail),
    ("head", .utility Utility.head), ("ln", .utility Utility.linker),
    ("mkdir", .utility Utility.mkdir), ("mv", .utility Utility.mover),
    ("printf", .utility Utility.printf), ("rm", .utility Utility.remover), ("sh", .shell),
    ("sleep", .utility Utility.sleep),
    ("touch", .utility Utility.touch), ("true", .utility Utility.succeed),
    ("yes", .utility Utility.yes)]

/-- The installed program of a name. -/
def installed? (name : Bytes) : Option Program :=
  (installed.find? fun p => bytes p.1 = name).map Prod.snd

/-- The directories of the installed programs. -/
def programDirectories : List Path :=
  [.ofString "/bin", .ofString "/usr/bin"]

/-- What a command runs. -/
inductive Executable where
  | program (p : Program)
  /-- A file that another program reads, which may be given an argument before the file. -/
  | script (file : Path) (interpreter : Bytes) (argument : Option Bytes)

/-- How much of a file is looked at to find out what it is. -/
def headLength : Nat := 256

def isBlank (b : UInt8) : Bool :=
  b = 0x20 || b = 0x09

/-- The program, and perhaps an argument, that the first line of a file names. -/
def interpreter? (content : Bytes) : Option (Bytes × Option Bytes) :=
  match content with
  | 0x23 :: 0x21 :: rest =>
    let line := ((rest.take (headLength - 2)).takeWhile (· ≠ 0x0A)).dropWhile isBlank
    let line := (line.reverse.dropWhile isBlank).reverse
    let name := line.takeWhile (! isBlank ·)
    let argument := (line.drop name.length).dropWhile isBlank
    if name.isEmpty then none else some (name, if argument.isEmpty then none else some argument)
  | _ => none

/-- What a path leads to, if that can be run. -/
def ofPath (fs : FileSystem) (path : Path) : Except IoError Executable :=
  let known := path.fileName.bind fun name =>
    if programDirectories.any fun d => (d.join ⟨name⟩).same path then installed? name else none
  match known with
  | some p => .ok (.program p)
  | none =>
    match fs.stat? path with
    | .error e => .error e
    | .ok (_, .file content true) =>
      match interpreter? content with
      | some (name, argument) => .ok (.script path name argument)
      | none => .error (.os .execFormat)
    | .ok _ => .error (.os .permissionDenied)

/-- The directories that a search goes through. -/
def searched (s : Surroundings) : List Bytes :=
  (s.search.getD ((s.environment.get? searchVariable).getD usualSearch)).splitOn 0x3A

/-- Searches directories for a program; an empty name stands for the working directory. What may not be
    run is passed over, but remembered. -/
def search (fs : FileSystem) (name : Bytes) (denied : Bool) :
    List Bytes → Except IoError Executable
  | [] => .error (.os (if denied then .permissionDenied else .notFound))
  | dir :: rest =>
    match ofPath fs (if dir.isEmpty then ⟨name⟩ else (Path.mk dir).join ⟨name⟩) with
    | .error (.os .permissionDenied) => search fs name true rest
    | .error (.os .notFound) => search fs name denied rest
    | .error (.os .notDirectory) => search fs name denied rest
    | found => found

/-- What a name or a path stands for. The directories that are searched hold `.` and `..`, which
    cannot be run. -/
def find (s : Surroundings) (name : Bytes) : Except IoError Executable :=
  if name.isEmpty then .error (.os .notFound)
  else if name.contains Path.separator then ofPath s.files ⟨name⟩
  else if name.length > FileSystem.nameLimit then .error (.os .nameTooLong)
  else if name = Path.here || name = Path.above then .error (.os .permissionDenied)
  else search s.files name false (searched s)

/-- The path of an interpreter: it is not searched for. -/
def asPath (name : Bytes) : Bytes :=
  if name.contains Path.separator then name else Path.here ++ Path.separator :: name

/-- The variables that options leave, and the arguments behind the options. -/
def keptVariables (environment : Environment) : List Bytes → Environment × List Bytes
  | [] => (environment, [])
  | [0x2D] :: rest => ({}, rest)
  | [0x2D, 0x2D] :: rest => (environment, rest)
  | [0x2D, 0x69] :: rest => keptVariables {} rest
  | [0x2D, 0x75] :: name :: rest => keptVariables (environment.unset (Text.Utf8.lossy name)) rest
  | rest => (environment, rest)

/-- The variables after those that arguments give a value, and the arguments behind them. -/
def givenVariables (environment : Environment) : List Bytes → Environment × List Bytes
  | [] => (environment, [])
  | a :: rest =>
    let name := a.takeWhile (· ≠ 0x3D)
    if name.length < a.length then
      givenVariables (environment.set (Text.Utf8.lossy name) (a.drop (name.length + 1))) rest
    else (environment, a :: rest)

/-- The lines of an environment. -/
def environmentLines (environment : Environment) : Bytes :=
  environment.bindings.reverse.flatMap fun (name, value) => bytes name ++ 0x3D :: value ++ [0x0A]

/-- Runs the program that the first argument behind options and variables names; without one, prints
    the variables. -/
def runNamed (runner : Runner) (arguments : List Bytes) (s : Surroundings) : Trace :=
  let (environment, arguments) := keptVariables s.environment arguments
  let (environment, arguments) := givenVariables environment arguments
  match arguments with
  | [] => Utility.prints s (.ofBytes (environmentLines environment))
  | program :: rest =>
    match runner ⟨program, rest⟩ { s with environment, search := none } with
    | .ok t => t
    | .error e =>
      { Utility.complains s "env" (Text.ShellQuoted.encode program ++ bytes ": " ++
          Utility.wordsOf e) with
        ending := .exited (if e.isNotFound then 127 else 126) }

/-- Runs a command and those that it runs, at most `depth` within one another. -/
def runWithin : (depth : Nat) → Runner
  | 0, _, s => .ok (s.ended .unfinished)
  | depth + 1, c, s =>
    match find s c.program with
    | .error e => .error e
    | .ok (.script file name argument) =>
      runWithin depth ⟨asPath name, argument.toList ++ file.bytes :: c.arguments⟩ s
    | .ok (.program p) =>
      if s.time = some 0 then .ok (s.ended .unfinished)
      else
        match p with
        | .utility run => .ok (run c.arguments s)
        | .shell => .ok (Shell.shell (runWithin depth) c.program c.arguments s)
        | .finder => .ok (runNamed (runWithin depth) c.arguments s)

/-- How many programs may run within one another. -/
def depthLimit : Nat := 100

/-- What is printed for ever is not a run that ended. -/
def checked (t : Trace) : Trace :=
  if t.printed.isEndless || t.said.isEndless then { t with ending := .unfinished } else t

/-- The machine with the installed programs. -/
def standard : Machine where
  run c s := (runWithin depthLimit c s).map checked

end TemplatePress.Machine
