import TemplatePress.CommandLine.Command
import TemplatePress.Text.Similarity
import TemplatePress.Text.Terminal

/-!
# Reading arguments

Arguments are read from left to right. An option's value stands behind an equals sign or is the next
argument; a value that is the next argument is stored only when the next option or the end comes, so an
error in it is noticed there. After two hyphens nothing is an option or a command. An option is given
once at most, and its value is not empty.

`Stop` says why the reading ended before the program could begin: a help or version text was asked
for, or something is wrong.
-/

namespace TemplatePress.CommandLine

/-- What is wrong with the arguments. -/
inductive Fault where
  /-- No command has this name; the names that it is like. -/
  | unknownCommand (name : String) (similar : List String)
  | unexpected (argument : String)
  /-- No option has this name; the name that it is like. -/
  | unknownOption (argument : String) (similar : Option String)
  /-- An option of a command that follows. -/
  | optionOf (argument command option : String)
  /-- A command behind two hyphens. -/
  | hiddenCommand (name : String)
  | noValue (option : String)
  | unexpectedValue (value option : String)
  | repeated (option : String)
  deriving DecidableEq

namespace Fault

/-- What was typed, as messages quote it. -/
def quoted (typed : String) : String :=
  "'" ++ Text.Terminal.visible typed ++ "'"

/-- What is wrong, in one line. -/
def summary : Fault → String
  | .unknownCommand name _ => "unrecognized subcommand " ++ quoted name
  | .unexpected argument => "unexpected argument " ++ quoted argument ++ " found"
  | .unknownOption argument _ => "unexpected argument " ++ quoted argument ++ " found"
  | .optionOf argument _ _ => "unexpected argument " ++ quoted argument ++ " found"
  | .hiddenCommand name => "unexpected argument '" ++ name ++ "' found"
  | .noValue option => "a value is required for '" ++ option ++ "' but none was supplied"
  | .unexpectedValue value option =>
    "unexpected value " ++ quoted value ++ " for '" ++ option ++ "' found; no more were expected"
  | .repeated option => "the argument '" ++ option ++ "' cannot be used multiple times"

/-- Names between quotes, with commas between them. -/
def quotedList (names : List String) : String :=
  ", ".intercalate (names.map fun n => "'" ++ n ++ "'")

/-- What may have been meant. -/
def tip : Fault → Option String
  | .unknownCommand _ [] => none
  | .unknownCommand _ [name] => some ("a similar subcommand exists: '" ++ name ++ "'")
  | .unknownCommand _ names => some ("some similar subcommands exist: " ++ quotedList names)
  | .unknownOption _ (some name) => some ("a similar argument exists: '" ++ name ++ "'")
  | .optionOf _ command option => some ("'" ++ command ++ " " ++ option ++ "' exists")
  | .hiddenCommand name =>
    some ("subcommand '" ++ name ++ "' exists; to use it, remove the '--' before it")
  | _ => none

/-- The message: what is wrong, a tip, the usage, and where to find help. -/
def message (fault : Fault) (usage : Option String) (hasHelp : Bool) : String :=
  "error: " ++ fault.summary
    ++ fault.tip.elim "" (fun t => "\n\n  tip: " ++ t)
    ++ usage.elim "" ("\n\n" ++ ·)
    ++ (if hasHelp then "\n\nFor more information, try '--help'.\n" else "\n")

end Fault

/-- Why the reading ended. -/
inductive Stop where
  /-- A text was asked for. -/
  | show (text : String)
  | wrong (fault : Fault) (message : String)
  deriving DecidableEq

/-- An option that was given, and its value. -/
structure Given where
  option : OptionSpec
  value : Option Bytes

/-- What was read of the arguments of a command. -/
structure Matches where
  given : List Given := []
  /-- The option whose value is the next argument, or was and is not stored yet. -/
  pending : Option Given := none

namespace Matches

def options (m : Matches) : List OptionSpec :=
  m.given.map (·.option)

def has (m : Matches) (long : String) : Bool :=
  m.given.any (·.option.long == long)

/-- The value of an option. -/
def value? (m : Matches) (long : String) : Option Bytes :=
  (m.given.find? (·.option.long == long)).bind (·.value)

end Matches

/-- Reads arguments. -/
abbrev Reading := EStateM Stop Matches

namespace Reading

/-- The command whose arguments are read. -/
structure Place where
  program : Program
  command : Command

def Place.commands (p : Place) : List Command :=
  p.command.commandsIn p.program

def Place.command? (p : Place) (name : String) : Option Command :=
  p.commands.find? (·.name == name)

def Place.option? (p : Place) (long : String) : Option OptionSpec :=
  p.command.options.find? (·.long == long)

/-- Ends with a fault and a usage line. -/
def wrong {α : Type} (p : Place) (fault : Fault) (usage : Option String) : Reading α :=
  throw (.wrong fault (fault.message usage p.command.hasHelp))

/-- Ends with a fault and the usage line of the command. -/
def wrongUse {α : Type} (p : Place) (fault : Fault) : Reading α :=
  wrong p fault (some (p.command.usage p.program))

/-! ## 1. Options -/

/-- Stores an option; the second time it is taken away again. -/
def store (p : Place) (g : Given) : Reading Unit := do
  let m ← get
  if m.has g.option.long then
    set { m with given := m.given.filter (·.option.long != g.option.long) }
    wrongUse p (.repeated g.option.shown)
  else
    set { m with given := m.given ++ [g] }
    if g.value = some [] then wrong p (.noValue g.option.shown) none

/-- Stores the option that waits for it. It must have got its value. -/
def settle (p : Place) : Reading Unit := do
  let m ← get
  match m.pending with
  | none => pure ()
  | some g => do
    set { m with pending := none }
    match g.value with
    | none => wrong p (.noValue g.option.shown) none
    | some _ => store p g

/-- Stores the option that waits for it, and passes over an error in it. -/
def settleQuietly (p : Place) : Reading Unit := fun m =>
  match settle p m with
  | .ok () m' => .ok () m'
  | .error _ m' => .ok () m'

/-- Reads an option without a value. -/
def flag (p : Place) (o : OptionSpec) : Reading Unit := do
  settle p
  match o.kind with
  | .help => throw (.show (p.command.help p.program))
  | .version => throw (.show (p.program.main.name ++ " " ++ p.program.version ++ "\n"))
  | _ => store p ⟨o, none⟩

/-- Reads an option of the command, with the value behind an equals sign if there is one. -/
def option (p : Place) (o : OptionSpec) (attached : Option Bytes) : Reading Unit := do
  match o.valueName?, attached with
  | some _, some value => do
    settle p
    store p ⟨o, some value⟩
  | some _, none => do
    settle p
    modify fun m => { m with pending := some ⟨o, none⟩ }
  | none, some value => do
    let m ← get
    wrong p (.unexpectedValue (Text.Utf8.lossy value) o.shown)
      (some (p.command.groupedUsage p.program m.options o))
  | none, none => flag p o

/-- The option of a command among later arguments that a name is like: the command that comes
    first. -/
def optionOfLater (p : Place) (name : String) (later : List Bytes) : Option (String × String) :=
  let near := p.commands.filterMap fun c =>
    match (Text.Similarity.suggestions name (c.options.map (·.long))).getLast? with
    | none => none
    | some option =>
      (later.findIdx? (· == Text.Utf8.bytes c.name)).map fun i => (i, c.name, option)
  (near.foldl (fun best c =>
    match best with
    | none => some c
    | some b => if c.1 < b.1 then some c else some b) none).map (·.2)

/-- Ends at an option that the command does not have. -/
def unknownOption {α : Type} (p : Place) (name : String) (later : List Bytes) : Reading α := do
  settleQuietly p
  let m ← get
  let argument := "--" ++ name
  let similar := (Text.Similarity.suggestions name (p.command.options.map (·.long))).getLast?
  match similar with
  | some long =>
    let used := m.options ++ (p.option? long).toList
    wrong p (.unknownOption argument (some ("--" ++ long)))
      (some (p.command.usageWith p.program used))
  | none =>
    let fault : Fault := match optionOfLater p name later with
      | some (command, option) => .optionOf argument command ("--" ++ option)
      | none => .unknownOption argument none
    wrong p fault (some (p.command.usageWith p.program m.options))

/-- Reads an argument that begins with two hyphens and a name. -/
def long (p : Place) (argument : Bytes) (later : List Bytes) : Reading Unit := do
  let name := argument.takeWhile (· != 0x3D)
  let attached := (argument.drop name.length).drop 1
  let value := if name.length < argument.length then some attached else none
  match (Text.Utf8.decode? name).bind p.option? with
  | some o => option p o value
  | none => unknownOption p (Text.Utf8.lossy name) later

/-- Ends at a letter that is no option. -/
def unknownLetter {α : Type} (p : Place) (letters : String) : Reading α := do
  settleQuietly p
  wrongUse p (.unexpected ("-" ++ letters))

/-- Reads the letters behind one hyphen. -/
def short (p : Place) : List Text.Utf8.Piece → Reading Unit
  | [] => pure ()
  | .broken b :: rest =>
    let more := rest.flatMap fun
      | .char c => Text.Utf8.bytes c.toString
      | .broken b => b
    unknownLetter p (Text.Utf8.lossy (b ++ more))
  | .char c :: rest =>
    match p.command.options.find? (·.short == some c) with
    | some o => do
      flag p o
      short p rest
    | none => unknownLetter p c.toString

/-! ## 2. Commands -/

/-- Ends at an argument that is neither an option nor a command. -/
def misplaced {α : Type} (p : Place) (argument : Bytes) (trailing : Bool) : Reading α := do
  settleQuietly p
  let shown := Text.Utf8.lossy argument
  if trailing && ((Text.Utf8.decode? argument).bind p.command?).isSome then
    wrongUse p (.hiddenCommand shown)
  else if p.commands.isEmpty then wrongUse p (.unexpected shown)
  else
    let similar := Text.Similarity.suggestions shown (p.commands.map (·.name))
    wrongUse p (.unknownCommand shown similar)

/-- Shows the help of the command that the arguments name. -/
def showHelp {α : Type} (p : Place) : List Bytes → Reading α
  | [] => throw (.show (p.command.help p.program))
  | name :: rest =>
    match (Text.Utf8.decode? name).bind p.command? with
    | some c => showHelp ⟨p.program, c⟩ rest
    | none => wrongUse p (.unknownCommand (Text.Utf8.lossy name) [])

/-- Reads the arguments of a command, up to the name of another one, which is returned with the
    arguments after it. -/
def arguments (p : Place) : (trailing : Bool) → List Bytes → Reading (Option (Command × List Bytes))
  | _, [] => return none
  | true, argument :: _ => misplaced p argument true
  | false, argument :: rest => do
    let m ← get
    let waiting := m.pending.any (·.value.isNone)
    match (if waiting then none else (Text.Utf8.decode? argument).bind p.command?) with
    | some c =>
      if c.name == p.program.helpCommand.name then showHelp p rest
      else return some (c, rest)
    | none =>
      match argument with
      | [0x2D, 0x2D] => arguments p true rest
      | 0x2D :: 0x2D :: name => do
        long p name rest
        arguments p false rest
      | 0x2D :: b :: letters => do
        short p (Text.Utf8.pieces (b :: letters))
        arguments p false rest
      | _ =>
        if waiting then do
          modify fun m => { m with pending := m.pending.map fun g => ⟨g.option, some argument⟩ }
          arguments p false rest
        else misplaced p argument false

end Reading

/-- What the arguments say: the options given to the program, the command, and the options given to
    it. -/
structure Invocation where
  main : Matches
  command : Option (Command × Matches) := none

/-- Reads the arguments of a program. The options before a command are complete when those of the
    command are. -/
def Program.read (p : Program) (arguments : List Bytes) : Except Stop Invocation :=
  let top : Reading.Place := ⟨p, p.main⟩
  match Reading.arguments top false arguments {} with
  | .error stop _ => .error stop
  | .ok none m =>
    match Reading.settle top m with
    | .error stop _ => .error stop
    | .ok () m' => .ok { main := m' }
  | .ok (some (c, rest)) m =>
    let inner : Reading.Place := ⟨p, c⟩
    match (Reading.arguments inner false rest *> Reading.settle inner) {} with
    | .error stop _ => .error stop
    | .ok () inside =>
      match Reading.settle top m with
      | .error stop _ => .error stop
      | .ok () m' => .ok { main := m', command := some (c, inside) }

end TemplatePress.CommandLine
