import TemplatePress.Machine.Utility.Printing
import TemplatePress.Shell.Builtin.Reading
import TemplatePress.Shell.Builtin.Signals
import TemplatePress.Shell.Builtin.Switches
import TemplatePress.Shell.Builtin.Variables
import TemplatePress.Shell.Condition

/-!
# Commands of the shell itself

The commands that a shell carries out without a program. Each gets the line it stands on and its
arguments and answers with a status. For some of them a failure ends the shell.
-/

namespace TemplatePress.Shell.Builtin

open Text.Utf8 (bytes)

/-- Does nothing. -/
def constant (status : Nat) (endsShell : Bool := false) : Builtin where
  run _ _ := return status
  endsShell := endsShell

/-- Prints its arguments. -/
def echo : Builtin where
  run _ arguments := do
    Act.write 1 (.ofBytes (Machine.Utility.Printing.echoed true arguments))
    return 0

/-- Prints its arguments by a format. -/
def printf : Builtin where
  run line arguments :=
    match arguments with
    | [] => wrong line (bytes "usage: printf format [arg ...]") 2
    | format :: rest => do
      let p := Machine.Utility.Printing.formatted format rest
      Act.write 1 (.ofBytes (Text.Latin.bytes p.out))
      p.noNumbers.forM fun cs =>
        Act.complain line (Text.Latin.bytes cs ++ bytes ": expected numeric value")
      match p.noKind with
      | some c =>
        wrong line (bytes "%" ++ Text.Latin.bytes [c] ++ bytes ": invalid directive") 2
      | none => return if p.isFine then 0 else 1

/-- Decides a condition. -/
def condition (line : Nat) (arguments : List Bytes) : Act Nat := do
  match Condition.holds (← get).files arguments.length arguments with
  | .ok true => return 0
  | .ok false => return 1
  | .error e => wrong line e 2

def test : Builtin where
  run line arguments := condition line arguments

/-- A condition between brackets. -/
def bracket : Builtin where
  run line arguments :=
    if arguments.getLast? = some (bytes "]") then condition line arguments.dropLast
    else wrong line (bytes "missing ]") 2

/-- Ends the shell. -/
def exit : Builtin where
  run line arguments := do
    match arguments with
    | [] => Act.exit (← get).status
    | a :: _ =>
      match natural? a with
      | some n => Act.exit n
      | none => wrong line (bytes "Illegal number: " ++ a) 2
  endsShell := true

/-! ## Leaving -/

/-- Leaves loops, or begins the next round of one. Outside of loops it does nothing. -/
def leaveLoops (again : Bool) : Builtin where
  run line arguments := do
    let n := match arguments with
      | [] => some 1
      | a :: _ => (natural? a).filter (0 < ·)
    match n with
    | none => wrong line (bytes "Illegal number: " ++ arguments.headD []) 2
    | some n => do
      let loops := min n (← get).loops
      Act.setStatus 0
      if loops = 0 then return 0 else throw (.left loops again)
  endsShell := true

/-- Leaves a command of the script's own. -/
def leaveCommand : Builtin where
  run line arguments :=
    match arguments with
    | [] => do throw (.returned (← get).status)
    | a :: _ =>
      match natural? a with
      | some n => throw (.returned n)
      | none => wrong line (bytes "Illegal number: " ++ a) 2
  endsShell := true

/-! ## The state of the shell -/

/-- Goes to another directory. -/
def cd : Builtin where
  run line arguments := do
    let s ← get
    match arguments with
    | [] => return 0
    | target :: _ =>
      match s.files.stat? ⟨target⟩ with
      | .ok (loc, .directory) =>
        set { s with files := { s.files with home := loc } }
        return 0
      | _ => wrong line (bytes "can't cd to " ++ target) 2

/-- Prints the working directory. -/
def pwd : Builtin where
  run _ _ := do
    let home := (← get).files.home
    Act.write 1 (.ofBytes (Path.separator :: List.intercalate [Path.separator] home ++ [0x0A]))
    return 0

/-- Leaves out the first arguments. -/
def shift : Builtin where
  run line arguments := do
    let s ← get
    let n := match arguments with
      | a :: _ => (natural? a).getD 1
      | [] => 1
    if n ≤ s.arguments.length then
      set { s with arguments := s.arguments.drop n }
      return 0
    else wrong line (bytes "can't shift that many") 2
  endsShell := true

/-- The commands of the shell by their names. -/
def all : List (String × Builtin) :=
  [(":", constant 0 true), ("true", constant 0), ("false", constant 1), ("echo", echo),
    ("printf", printf), ("test", test), ("[", bracket), ("exit", exit), ("read", read),
    ("kill", kill), ("cd", cd), ("pwd", pwd), ("shift", shift), ("set", setArguments),
    ("unset", unset), ("export", exportEach), ("readonly", fixEach), ("local", keepLocal),
    ("break", leaveLoops false), ("continue", leaveLoops true),
    ("return", leaveCommand), ("trap", trap), ("wait", constant 0), ("umask", constant 0)]

/-- The command of the shell that a word names. -/
def find? (name : Bytes) : Option Builtin :=
  (all.find? fun b => bytes b.1 = name).map Prod.snd

end TemplatePress.Shell.Builtin
