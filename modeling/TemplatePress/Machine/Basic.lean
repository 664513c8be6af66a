import TemplatePress.Environment
import TemplatePress.FileSystem.Change
import TemplatePress.Machine.Flow
import TemplatePress.Tool.Error

/-!
# Machines

A machine runs programs. This file fixes what a program sees and leaves:

* a `Command` names a program and gives it arguments;
* the `Surroundings` of a run are the files, what it can read, the time it has, and the variables
  that are set for it;
* a `Trace` is what is left after the run: the files, what it printed, and its `Ending`;
* a machine either refuses to start a command or answers with a trace.

A run that does not end in its time leaves what it did until then.
-/

namespace TemplatePress

namespace Machine

/-- A program and its arguments. -/
structure Command where
  program : Bytes
  arguments : List Bytes := []
  deriving DecidableEq

namespace Command

/-- The program and its arguments. -/
def words (c : Command) : List Bytes :=
  c.program :: c.arguments

/-- A command with a zero byte in it cannot be handed to the system. -/
def holdsZero (c : Command) : Bool :=
  c.words.any (·.contains 0)

end Command

/-- How a run ended. -/
inductive Ending where
  | exited (code : UInt8)
  | killed (signal : Nat)
  /-- It was still running when its time was up, or it would run for ever. -/
  | unfinished
  deriving DecidableEq

/-- What a run sees. -/
structure Surroundings where
  files : FileSystem
  /-- What it can read. -/
  input : Flow := .nothing
  /-- The nanoseconds that it has, if they are limited. -/
  time : Option Nat := none
  environment : Environment := {}
  /-- Where programs are searched for, if the environment does not say so. -/
  search : Option Bytes := none

/-- The variable that names the directories where programs are searched for. -/
def searchVariable : String := "PATH"

/-- Where programs are searched for if no variable says so. -/
def usualSearch : Bytes :=
  Text.Utf8.bytes "/usr/local/sbin:/usr/local/bin:/usr/sbin:/usr/bin:/sbin:/bin"

/-- What a run leaves. -/
structure Trace where
  ending : Ending
  files : FileSystem
  /-- What it did not read. -/
  input : Flow
  time : Option Nat
  printed : Flow := .nothing
  /-- What it printed on its error stream. -/
  said : Flow := .nothing

/-- A trace that leaves the surroundings as they were. -/
def Surroundings.ended (s : Surroundings) (ending : Ending) : Trace :=
  { ending, files := s.files, input := s.input, time := s.time }

/-- How commands are run: an error means that the command could not be started. -/
abbrev Runner := Command → Surroundings → Except IoError Trace

end Machine

/-- What runs commands. -/
structure Machine where
  run : Machine.Runner

namespace Machine

/-- Runs a command with nothing to read, for no longer than a time, and judges how it ended. The
    label stands for the command in errors. -/
def runTool (machine : Machine) (environment : Environment) (label : String) (command : Command)
    (limit : Option Duration) : EStateM ToolError FileSystem Unit := fun fs =>
  if command.holdsZero then .error (.launch label .nulInArgument) fs
  else
    let time := limit.map (·.nanoseconds)
    match machine.run command { files := fs, time, environment } with
    | .error e => .error (.launch label e) fs
    | .ok trace =>
      let files := { trace.files with home := fs.home }
      let judge := fun (status : WaitStatus) =>
        if status.isSuccess then .ok () files
        else .error (.ofStatus label status trace.said.start) files
      match trace.ending with
      | .exited code => judge (.exited code)
      | .killed signal => judge (.killed signal)
      | .unfinished => .error (.timedOut label (limit.getD ⟨0⟩)) files

end Machine

end TemplatePress
