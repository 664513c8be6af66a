import TemplatePress.Environment
import TemplatePress.Machine.Basic
import TemplatePress.Shell.Pattern
import TemplatePress.Shell.Script
import TemplatePress.Text.Latin

/-!
# Sessions

What a running shell knows and can change. This file fixes:

* where its streams go: to a file, into a pipe, or nowhere;
* what stops it: its end, a signal, or time that does not suffice; and what only ends a loop or a
  command of the script's own;
* how a subshell keeps its changes of variables, arguments and streams to itself, while files, pipes
  and time are shared.
-/

namespace TemplatePress.Shell

open Text.Utf8 (bytes)

/-- Where a stream goes. -/
inductive Sink where
  | nowhere
  /-- Behind what the file of a directory holds. -/
  | file (dir : Location) (name : Name)
  | pipe (n : Nat)
  deriving DecidableEq

/-- A running shell. -/
structure Session where
  files : FileSystem
  input : Flow
  time : Option Nat
  /-- What is in the pipes. The first two lead out of the shell. -/
  pipes : List Flow := [.nothing, .nothing]
  sinks : List (Nat × Sink) := [(1, .pipe 0), (2, .pipe 1)]
  /-- The name of the script. -/
  name : Bytes
  arguments : List Bytes
  bindings : Environment := {}
  /-- The variables that programs see. -/
  exported : List String := []
  /-- The variables whose values stay. -/
  fixed : List String := []
  /-- In a command of the script's own, what variables were before it kept them for itself, last
      first. -/
  locals : Option (List (String × Option Bytes)) := none
  /-- The commands of the script's own. -/
  definitions : List (String × Command) := []
  /-- What is run when a signal comes, by its number; nothing for a signal that is ignored. Number zero
      stands for the end of the shell. -/
  traps : List (Nat × Bytes) := []
  /-- The signals that came and whose traps were not run yet. -/
  caught : List Nat := []
  /-- The status of the last command. -/
  status : Nat := 0
  /-- The line of the last simple command. -/
  line : Nat := 1
  /-- What stands before complaints: the command whose text is run. -/
  speaker : Bytes := []
  /-- How many loops the shell is in. -/
  loops : Nat := 0
  /-- Whether a command that fails ends the shell. -/
  isStrict : Bool := false
  /-- Whether a variable that is not set ends the shell. -/
  isExact : Bool := false
  /-- Whether programs see every variable that gets a value. -/
  isOpen : Bool := false
  /-- Whether words stand for themselves and not for the names of files. -/
  isLiteral : Bool := false
  /-- Whether commands are shown before they are run. -/
  isTraced : Bool := false
  /-- Whether lines are read but not run. -/
  isIdle : Bool := false

/-- What stops a shell, or a part of its script. -/
inductive Stop where
  | exited (status : Nat)
  | killed (signal : Nat)
  | unfinished
  /-- Some loops end; if `again` is set the last one only begins its next round. -/
  | left (loops : Nat) (again : Bool)
  /-- A command of the script's own ends. -/
  | returned (status : Nat)

/-- An action of a shell. -/
abbrev Act := EStateM Stop Session

namespace Session

/-- The number of the shell's process. -/
def processNumber : Nat := 1000

/-- The value of a variable; one that is not set is empty. -/
def value (s : Session) (name : String) : Bytes :=
  (s.bindings.get? name).getD []

/-- The variable whose bytes separate the words of a value. -/
def separatorVariable : String := "IFS"

/-- The separators of a shell that has no others: a space, a tab and the end of a line. -/
def usualSeparators : Bytes := [0x20, 0x09, 0x0A]

/-- The bytes that separate the words of a value. -/
def separators (s : Session) : Bytes :=
  (s.bindings.get? separatorVariable).getD usualSeparators

/-- What stands between arguments that make up one word: the first separator. -/
def joint (s : Session) : Bytes :=
  s.separators.take 1

/-- A session in which programs see a variable. -/
def expose (s : Session) (name : String) : Session :=
  { s with exported := name :: s.exported.filter (· != name) }

/-- A session in which a variable has a value. -/
def assign (s : Session) (name : String) (value : Bytes) : Session :=
  let s := { s with bindings := s.bindings.set name value }
  if s.isOpen then s.expose name else s

/-- The variables that programs see. -/
def environment (s : Session) : Environment :=
  ⟨s.bindings.bindings.filter fun b => s.exported.contains b.1⟩

/-- Where a stream goes. -/
def sink (s : Session) (stream : Nat) : Sink :=
  (s.sinks.lookup stream).getD .nowhere

/-- A session in which a stream goes elsewhere. -/
def lead (s : Session) (stream : Nat) (sink : Sink) : Session :=
  { s with sinks := (stream, sink) :: s.sinks.filter (·.1 != stream) }

/-- The files with bytes behind what a file holds. -/
def appendTo (fs : FileSystem) (dir : Location) (name : Name) (bs : Bytes) : FileSystem :=
  match fs.at? (dir ++ [name]) with
  | some (.file content executable) => fs.put dir name (.file (content ++ bs) executable)
  | _ => fs

end Session

namespace Act

def setStatus (n : Nat) : Act Unit :=
  modify fun s => { s with status := n }

/-- Ends a strict shell if the last command failed. -/
def checkStatus : Act Unit := do
  let s ← get
  if s.isStrict && s.status != 0 then throw (.exited s.status)

/-- Ends the shell. -/
def exit {α : Type} (status : Nat) : Act α :=
  throw (.exited (status % 256))

/-- The status of a program that wrote into a pipe nobody reads from. -/
def brokenPipe : Nat := 141

/-- Writes to a sink. Who writes for ever into a pipe within the shell is ended when the reader has
    enough; elsewhere it does not end. -/
def writeTo (sink : Sink) (flow : Flow) : Act Unit := do
  let s ← get
  match sink with
  | .nowhere => if flow.isEndless then throw .unfinished
  | .file dir name =>
    if flow.isEndless then throw .unfinished
    else set { s with files := Session.appendTo s.files dir name flow.start }
  | .pipe n =>
    set { s with pipes := s.pipes.modify n (· ++ flow) }
    if flow.isEndless then throw (if n < 2 then .unfinished else .exited brokenPipe)

/-- Writes to a stream. -/
def write (stream : Nat) (flow : Flow) : Act Unit := do
  writeTo ((← get).sink stream) flow

/-- Says on the error stream what is wrong in a line. -/
def complain (line : Nat) (text : Bytes) : Act Unit := do
  let s ← get
  let place := s.name ++ bytes (": " ++ toString line ++ ": ")
  write 2 (.ofBytes (place ++ s.speaker ++ text ++ [0x0A]))

/-- Says what is wrong in the current line and ends the shell. -/
def abandon {α : Type} (text : Bytes) : Act α := do
  complain (← get).line text
  throw (.exited 2)

/-- Gives a variable a value. A fixed variable ends the shell. -/
def give (name : String) (value : Bytes) : Act Unit := do
  let s ← get
  if s.fixed.contains name then abandon (bytes (name ++ ": is read only"))
  else set (s.assign name value)

/-- Runs an action in a shell of its own, in which only the signals that are ignored have traps. -/
def subshell (act : Act Unit) : Act Unit := fun s =>
  let back := fun (s' : Session) =>
    { s with
      files := { s'.files with home := s.files.home }, input := s'.input, time := s'.time,
      pipes := s'.pipes, status := s'.status }
  match act { s with traps := s.traps.filter (·.2.isEmpty) } with
  | .ok () s' => .ok () (back s')
  | .error (.exited status) s' => .ok () { back s' with status }
  | .error (.returned status) s' => .ok () { back s' with status }
  | .error (.left _ _) s' => .ok () (back s')
  | .error e s' => .error e (back s')

/-- What an action prints in a shell of its own. -/
def capture (act : Act Unit) : Act Flow := do
  let n := (← get).pipes.length
  modify fun s => { s with pipes := s.pipes ++ [.nothing] }
  subshell do
    modify (·.lead 1 (.pipe n))
    act
  let flow := (← get).pipes.getD n .nothing
  modify fun s => { s with pipes := s.pipes.take n }
  return flow

/-- Runs an action and then changes the session, unless the shell has ended. -/
def andAfter {α : Type} (act : Act α) (after : Session → Session) : Act α := fun s =>
  match act s with
  | .ok a s' => .ok a (after s')
  | .error (.left loops again) s' => .error (.left loops again) (after s')
  | .error (.returned status) s' => .error (.returned status) (after s')
  | .error e s' => .error e s'

/-- Runs an action in which complaints begin with a command. -/
def speaking {α : Type} (command : Bytes) (act : Act α) : Act α := do
  let speaker := (← get).speaker
  modify fun s => { s with speaker := command ++ bytes ": " }
  andAfter act fun s => { s with speaker }

/-- Whether a redirection changes what is read. -/
def readsElsewhere : Redirection → Bool
  | .mk stream direction _ => stream = 0 && (direction = .input || direction = .given)

/-- Runs an action under redirections and then lets the streams go where they went before. -/
def keepingStreams (redirections : List Redirection) (act : Act Unit) : Act Unit := do
  let before ← get
  andAfter act fun s =>
    { s with
      sinks := before.sinks,
      input := if redirections.any readsElsewhere then before.input else s.input }

/-! ## Redirections -/

/-- Why a file could not be opened. -/
def reason (missing : String) (e : IoError) : Bytes :=
  match e with
  | .os e =>
    if e = .notFound || e = .notDirectory then bytes missing else bytes (Errno.words e.number)
  | e => bytes e.message

/-- The file that takes everything and holds nothing. -/
def nullDevice : Bytes := bytes "/dev/null"

/-- What a path leads to, as something to read. What is no file holds nothing. -/
def contentOf (fs : FileSystem) (path : Bytes) : Except IoError Bytes :=
  if path = nullDevice then .ok []
  else
    match fs.stat? ⟨path⟩ with
    | .ok (_, .file content _) => .ok content
    | .ok _ => .ok []
    | .error e => .error e

/-- Gives a stream another place; the complaint if that is not possible. -/
def redirect (stream : Nat) (direction : Direction) (target : Bytes) : Act (Option Bytes) := do
  let s ← get
  match direction with
  | .input =>
    match contentOf s.files target with
    | .ok content =>
      set { s with input := .ofBytes content }
      return none
    | .error e => return some (bytes "cannot open " ++ target ++ bytes ": " ++ reason "No such file" e)
  | .given =>
    set { s with input := .ofBytes target }
    return none
  | .duplicate =>
    match target with
    | [0x2D] =>
      set (s.lead stream .nowhere)
      return none
    | [d] =>
      let other := d.toNat - 0x30
      if stream = 0 || other = 0 then return none
      else
        match s.sinks.lookup other with
        | some sink =>
          set (s.lead stream sink)
          return none
        | none => return some (target ++ bytes ": Bad file descriptor")
    | _ => return some (bytes "Bad fd number")
  | _ =>
    if target = nullDevice then
      set (s.lead stream .nowhere)
      return none
    else
      match s.files.writeTarget ⟨target⟩ with
      | .error e =>
        return some (bytes "cannot create " ++ target ++ bytes ": " ++
          reason "Directory nonexistent" e)
      | .ok (dir, name, old) =>
        let empty := Entry.file [] (old.getD false)
        let files := if old.isNone || direction = .write then s.files.put dir name empty else s.files
        set ({ s with files }.lead stream (.file dir name))
        return none

end Act

end TemplatePress.Shell
