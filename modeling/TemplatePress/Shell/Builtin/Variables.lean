import TemplatePress.Shell.Builtin.Basic
import TemplatePress.Shell.Script.Source

/-!
# Commands about variables

Variables are forgotten, shown to programs, fixed, or kept for the time that a command of the script's
own runs. Without names the commands print the variables they are about, in a form that a script may
hold.
-/

namespace TemplatePress.Shell.Builtin

open Text.Utf8 (bytes)

/-- The letters of options that come first, and the words behind them. The first letter that is not
    known is an error. -/
def optionLetters (known : Bytes) : List Bytes → Except UInt8 (Bytes × List Bytes)
  | [0x2D, 0x2D] :: rest => .ok ([], rest)
  | (0x2D :: b :: letters) :: rest =>
    match (b :: letters).find? fun l => !known.contains l with
    | some unknown => .error unknown
    | none => (optionLetters known rest).map fun (more, words) => (b :: letters ++ more, words)
  | words => .ok ([], words)

/-- Forgets variables. -/
def unsetEach : List Bytes → Act Unit
  | [] => pure ()
  | a :: rest => do
    let name := nameOf (a.takeWhile (· ≠ 0x3D))
    let s ← get
    if !Reading.isName name then Act.abandon (a ++ bytes ": bad variable name")
    if s.fixed.contains name then Act.abandon (a ++ bytes ": is read only")
    set { s with bindings := s.bindings.unset name, exported := s.exported.filter (· != name) }
    unsetEach rest

/-- Forgets variables, or commands of the script's own. -/
def unset : Builtin where
  run line arguments := do
    match optionLetters [0x66, 0x76] arguments with
    | .error letter => unknownOption line [letter]
    | .ok (letters, words) =>
      if letters.getLast? = some 0x66 then
        let names := words.map nameOf
        modify fun s => { s with definitions := s.definitions.filter (! names.contains ·.1) }
      else unsetEach words
      return 0
  endsShell := true

/-- Does something with variables, which may be given values before that. -/
def declareEach (before after : String → Session → Session) : List Bytes → Act Unit
  | [] => pure ()
  | a :: rest => do
    let typed := a.takeWhile (· ≠ 0x3D)
    let name := nameOf typed
    if !Reading.isName name then Act.abandon (typed ++ bytes ": bad variable name")
    modify (before name)
    if typed.length < a.length then Act.give name (a.drop (typed.length + 1))
    modify (after name)
    declareEach before after rest

/-- A value between quotes, so that a script may hold it. -/
def quotedValue (value : Bytes) : Bytes :=
  [0x27] ++ (value.flatMap fun b => if b = 0x27 then bytes "'\"'\"'" else [b]) ++ [0x27]

/-- The lines that declare variables again, by their names. -/
def declarations (who : Bytes) (names : List String) (s : Session) : Bytes :=
  (names.eraseDups.mergeSort (· ≤ ·)).flatMap fun name =>
    who ++ bytes (" " ++ name) ++
      ((s.bindings.get? name).elim [] fun value => 0x3D :: quotedValue value) ++ [0x0A]

/-- Does something with variables, or prints those with which it was done. -/
def declare (who : String) (done : Session → List String) (act : String → Session → Session) :
    Builtin where
  run line arguments := do
    let s ← get
    let print := Act.write 1 (.ofBytes (declarations (bytes who) (done s) s))
    match arguments with
    | [] | [[0x2D, 0x2D]] => print
    | [0x2D, 0x2D] :: words => declareEach (fun _ s => s) act words
    | (0x2D :: b :: _) :: _ => if b = 0x70 then print else return ← unknownOption line [b]
    | words => declareEach (fun _ s => s) act words
    return 0
  endsShell := true

/-- Lets programs see variables, and may give them values. -/
def exportEach : Builtin :=
  declare "export" (·.exported) fun name s => s.expose name

/-- Fixes variables, and may give them values. -/
def fixEach : Builtin :=
  declare "readonly" (·.fixed) fun name s => { s with fixed := name :: s.fixed }

/-- Gives variables values as long as a command of the script's own runs. -/
def keepLocal : Builtin where
  run line arguments := do
    match (← get).locals with
    | none => wrong line (bytes "not in a function") 2
    | some _ => do
      let keep := fun (name : String) (s : Session) =>
        { s with locals := s.locals.map ((name, s.bindings.get? name) :: ·) }
      declareEach keep (fun _ s => s) arguments
      return 0
  endsShell := true

end TemplatePress.Shell.Builtin
