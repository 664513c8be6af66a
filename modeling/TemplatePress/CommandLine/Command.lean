/-!
# Commands and options

What a command line may hold: a program with options and commands, each with options of its own. From
this come the help texts, the usage lines and the reading of arguments.
-/

namespace TemplatePress.CommandLine

/-- What an option does. -/
inductive OptionKind where
  /-- Stores the value behind it, which messages call by this name. -/
  | value (name : String)
  | switch
  | help
  | version
  deriving DecidableEq

/-- An option. -/
structure OptionSpec where
  long : String
  short : Option Char := none
  kind : OptionKind
  help : String
  /-- Options are listed by rank, and within a rank by name. -/
  rank : Nat
  deriving DecidableEq

namespace OptionSpec

def valueName? (o : OptionSpec) : Option String :=
  match o.kind with
  | .value name => some name
  | _ => none

/-- The option with its value as messages show it. -/
def shown (o : OptionSpec) : String :=
  "--" ++ o.long ++ o.valueName?.elim "" fun name => " <" ++ name ++ ">"

/-- The option as a list of options shows it. -/
def listed (o : OptionSpec) : String :=
  o.short.elim "    " (fun c => "-" ++ c.toString ++ ", ") ++ o.shown

end OptionSpec

/-- A command: its options, and the arguments and commands that may follow. -/
structure Command where
  name : String
  /-- What is typed to reach it. -/
  path : String
  about : String
  options : List OptionSpec
  /-- Its own options, without those that it has because they may stand anywhere. -/
  own : List OptionSpec := []
  /-- The arguments that its usage shows, and what they are. -/
  operands : Option (String × String) := none

/-- A program: what it does without a command, and its commands. -/
structure Program where
  version : String
  main : Command
  commands : List Command
  /-- The command that prints the help of another one. -/
  helpCommand : Command

namespace Program

/-- All commands, in the order of the help. -/
def allCommands (p : Program) : List Command :=
  p.commands ++ [p.helpCommand]

/-- The command with a name. -/
def find? (p : Program) (name : String) : Option Command :=
  p.allCommands.find? (·.name == name)

end Program

namespace Command

/-- Where a command stands in a program: its other commands, if it is the main one. -/
def commandsIn (c : Command) (p : Program) : List Command :=
  if c.path == p.main.path then p.allCommands else []

/-- The usage line. -/
def usage (p : Program) (c : Command) : String :=
  "Usage: " ++ c.path ++ (if c.options.isEmpty then "" else " [OPTIONS]")
    ++ (c.operands.elim "" fun o => " " ++ o.1)
    ++ (if (c.commandsIn p).isEmpty then "" else " [COMMAND]")

/-- A usage line with the options that were given, each once, in the order of their first
    occurrence. -/
def usageWith (p : Program) (c : Command) (given : List OptionSpec) : String :=
  match given.eraseDups with
  | [] => c.usage p
  | options => "Usage: " ++ c.path ++ String.join (options.map fun o => " " ++ o.shown)

/-- The own options as alternatives. -/
def ownChoice (c : Command) : String :=
  "<" ++ "|".intercalate (c.own.map (·.shown)) ++ ">"

/-- A usage line with the options that were given and one more. If own options were given, all of
    them stand at its end as alternatives. -/
def groupedUsage (p : Program) (c : Command) (given : List OptionSpec) (last : OptionSpec) :
    String :=
  if given.any c.own.contains then
    let others := ((given ++ [last]).filter fun o => !c.own.contains o).eraseDups
    "Usage: " ++ c.path ++ String.join (others.map fun o => " " ++ o.shown) ++ " " ++ c.ownChoice
  else c.usageWith p (given ++ [last])

/-- Rows of a list in two columns, indented by two. -/
def table (rows : List (String × String)) : String :=
  let width := rows.foldl (fun w r => max w r.1.length) 0
  String.join (rows.map fun r =>
    "  " ++ r.1 ++ String.ofList (List.replicate (width - r.1.length + 2) ' ') ++ r.2 ++ "\n")

/-- A titled list, with an empty line before it; nothing if there are no rows. -/
def listing (title : String) (rows : List (String × String)) : String :=
  if rows.isEmpty then "" else "\n" ++ title ++ ":\n" ++ table rows

/-- Whether an option is listed no later than another. -/
def listedBefore (a b : OptionSpec) : Bool :=
  a.rank < b.rank || (a.rank == b.rank && a.long ≤ b.long)

/-- The help of a command. -/
def help (p : Program) (c : Command) : String :=
  c.about ++ "\n\n" ++ c.usage p ++ "\n"
    ++ listing "Commands" ((c.commandsIn p).map fun sub => (sub.name, sub.about))
    ++ listing "Arguments" (c.operands.toList)
    ++ listing "Options" ((c.options.mergeSort listedBefore).map fun o => (o.listed, o.help))

/-- Whether the command has an option for its help. -/
def hasHelp (c : Command) : Bool :=
  c.options.any (·.kind = .help)

end Command

end TemplatePress.CommandLine
