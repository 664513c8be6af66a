import TemplatePress.Config
import TemplatePress.Machine.Basic
import TemplatePress.Toolchain

/-!
# The tools of a machine

A toolchain that runs programs of a machine. The settings name the programs and limit their time;
this file fixes the arguments that each call hands them.
-/

namespace TemplatePress

namespace ToolCall

/-- The name of the program that answers a call. -/
def tool (tools : ToolsConfig) : ToolCall → String
  | .clone _ _ => tools.git
  | .checkout _ _ => tools.git
  | .copyTree _ _ => tools.cp
  | .compile _ _ => tools.typst
  | .rasterize _ _ _ _ => tools.convert

/-- The arguments of a call. A page is chosen by its number in brackets behind the document. -/
def arguments : ToolCall → List Bytes
  | .clone url destination => [word "clone", word url, destination.bytes]
  | .checkout repository reference =>
    [word "-C", repository.bytes, word "checkout", word reference]
  | .copyTree source destination => [word "-r", source.bytes, destination.bytes]
  | .compile source output => [word "compile", source.bytes, output.bytes]
  | .rasterize document page dpi output =>
    [word "-density", word (toString dpi),
      document.bytes ++ word ("[" ++ toString page ++ "]"), output.bytes]
where
  word (s : String) : Bytes := Text.Utf8.bytes s

/-- The command that answers a call. -/
def command (tools : ToolsConfig) (call : ToolCall) : Machine.Command where
  program := Text.Utf8.bytes (call.tool tools)
  arguments := call.arguments

end ToolCall

/-- The toolchain of the programs that the settings name, which see an environment. -/
def Machine.toolchain (machine : Machine) (environment : Environment) (tools : ToolsConfig) :
    Toolchain Unit where
  run call := fun w =>
    let tool := call.tool tools
    match machine.runTool environment tool (call.command tools) tools.timeout w.files with
    | .ok () files => .ok () { w with files }
    | .error e files => .error e { w with files }

end TemplatePress
