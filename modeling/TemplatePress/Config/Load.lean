import TemplatePress.Config.Decode
import TemplatePress.Environment
import TemplatePress.FileSystem.Lookup

/-!
# Loading the settings

The settings of a run come from a file, if one is named, and after it from two environment
variables, which win over the file: the root of the templates, and the time limit of the tools.
-/

namespace TemplatePress

/-- Why the settings could not be loaded. -/
inductive ConfigError where
  | unreadable (path : Path) (source : IoError)
  | malformed (source : Yaml.DecodeError)
  /-- The time limit in the environment is no number of seconds. -/
  | badTimeout (source : Number.DigitsError)
  deriving DecidableEq

namespace Config

/-- The variable that replaces the root of the templates. -/
def rootVariable : String := "SERIFIAN_TEMPLATES_ROOT"

/-- The variable that replaces the time limit of the tools. -/
def timeoutVariable : String := "SERIFIAN_TOOL_TIMEOUT_SECS"

end Config

def ConfigError.message : ConfigError → String
  | .unreadable path source =>
    "Failed to read config file " ++ Text.Quoted.bytes path.bytes ++ ": " ++ source.message
  | .malformed source => "Failed to parse config YAML: " ++ source.message
  | .badTimeout source =>
    Config.timeoutVariable ++ " must be a valid integer: " ++ source.message

namespace Config

/-- Replaces the root by that of the environment. -/
def overrideRoot (env : Environment) (c : Config) : Config :=
  match env.text? rootVariable with
  | some root => { c with templatesRoot := .ofString root }
  | none => c

/-- Replaces the time limit by that of the environment. -/
def overrideTimeout (env : Environment) (c : Config) : Except ConfigError Config :=
  match env.text? timeoutVariable with
  | some text =>
    match Number.readUnsigned 10 Number.max64 text.toList with
    | .ok secs => .ok { c with tools := { c.tools with timeoutSecs := some secs } }
    | .error e => .error (.badTimeout e)
  | none => .ok c

/-- Replaces what the environment sets. -/
def override (env : Environment) (c : Config) : Except ConfigError Config :=
  overrideTimeout env (overrideRoot env c)

/-- The settings of a file alone. -/
def ofFile (fs : FileSystem) (path : Path) : Except ConfigError Config :=
  match fs.readText path with
  | .error e => .error (.unreadable path e)
  | .ok text =>
    match ofText text with
    | .error e => .error (.malformed e)
    | .ok c => .ok c

end Config

/-- The settings of a file and the environment. -/
def loadConfig (fs : FileSystem) (env : Environment) (path : Path) : Except ConfigError Config :=
  (Config.ofFile fs path).bind (Config.override env)

/-- The settings of a file, if one is named, and the environment. -/
def resolveConfig (fs : FileSystem) (env : Environment) : Option Path → Except ConfigError Config
  | some path => loadConfig fs env path
  | none => Config.override env {}

end TemplatePress
