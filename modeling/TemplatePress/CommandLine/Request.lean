import TemplatePress.CommandLine.Arguments
import TemplatePress.Path

/-!
# The program's arguments

The options and commands of the program, and what arguments ask it to do. The settings file and
keeping going may be given before or after the command; the settings file after it wins.
-/

namespace TemplatePress

namespace CommandLine

/-- The option for the settings file. -/
def configOption : OptionSpec where
  long := "config"
  kind := .value "CONFIG"
  help := "Path to an optional YAML config file"
  rank := 0

/-- The option for keeping going after a failure. -/
def keepGoingOption : OptionSpec where
  long := "keep-going"
  kind := .switch
  help := "Keep generating the remaining templates after one fails"
  rank := 1

/-- The option for the directory to search. -/
def rootOption : OptionSpec where
  long := "root"
  kind := .value "ROOT"
  help := "Directory to scan; defaults to the configured repos directory"
  rank := 0

def helpOption : OptionSpec where
  long := "help"
  short := some 'h'
  kind := .help
  help := "Print help"
  rank := 2

def versionOption : OptionSpec where
  long := "version"
  short := some 'V'
  kind := .version
  help := "Print version"
  rank := 3

def mainCommand : Command where
  name := "serifian-templates"
  path := "serifian-templates"
  about := "Clone Typst templates and package each one as a Serifian .sr template " ++
    "with a rendered preview"
  options := [configOption, keepGoingOption, helpOption, versionOption]
  own := [configOption, keepGoingOption]

def generateCommand : Command where
  name := "generate"
  path := "serifian-templates generate"
  about := "Fetch, discover and generate every template package (the default)"
  options := [configOption, keepGoingOption, helpOption]

def discoverCommand : Command where
  name := "discover"
  path := "serifian-templates discover"
  about := "List template folders under an existing tree without fetching anything"
  options := [rootOption, configOption, keepGoingOption, helpOption]
  own := [rootOption]

def helpCommand : Command where
  name := "help"
  path := "serifian-templates help"
  about := "Print this message or the help of the given subcommand(s)"
  options := []
  operands := some ("[COMMAND]...", "Print help for the subcommand(s)")

/-- The program. -/
def program : Program where
  version := "0.1.0"
  main := mainCommand
  commands := [generateCommand, discoverCommand]
  helpCommand := helpCommand

end CommandLine

/-- What the program is to do. -/
inductive Task where
  /-- Fetch, search and build. -/
  | generate
  /-- List the template folders below a directory; without one, below that of the clones. -/
  | discover (root : Option Path)
  deriving DecidableEq

/-- What the arguments ask for. -/
structure Request where
  /-- The settings file. -/
  config : Option Path
  /-- Whether to go on after a failure, whatever the settings say. -/
  keepGoing : Bool
  task : Task
  deriving DecidableEq

namespace Request

open CommandLine

/-- The value of an option as a path. -/
def path? (m : Matches) (o : OptionSpec) : Option Path :=
  (m.value? o.long).map Path.mk

/-- What the options and the command ask for. -/
def ofInvocation (i : Invocation) : Request :=
  match i.command with
  | none =>
    { config := path? i.main configOption,
      keepGoing := i.main.has keepGoingOption.long,
      task := .generate }
  | some (c, m) =>
    { config := (path? m configOption).or (path? i.main configOption),
      keepGoing := i.main.has keepGoingOption.long || m.has keepGoingOption.long,
      task := if c.name == discoverCommand.name then .discover (path? m rootOption) else .generate }

/-- What the arguments ask for, or why there is nothing to do. -/
def ofArguments (arguments : List Bytes) : Except Stop Request :=
  match program.read arguments with
  | .error stop => .error stop
  | .ok i => .ok (ofInvocation i)

end Request

end TemplatePress
