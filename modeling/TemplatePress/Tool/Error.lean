import TemplatePress.IoError
import TemplatePress.Text.Whitespace
import TemplatePress.Tool.Status

/-!
# Tool errors

How an external tool fails: it cannot be started, it ends without success, it does not end in time,
or files stand in the way. What a tool said on its error stream is kept, read as text without the
white space around it.
-/

namespace TemplatePress

/-- Why a tool failed. -/
inductive ToolError where
  | launch (tool : String) (source : IoError)
  | failed (tool status diagnostic : String)
  | timedOut (tool : String) (after : Duration)
  | io (source : IoError)
  deriving DecidableEq

namespace ToolError

/-- A tool that ended with a status, having said something on its error stream. -/
def ofStatus (tool : String) (status : WaitStatus) (said : Bytes) : ToolError :=
  .failed tool status.display (Text.trim (Text.Utf8.lossy said))

def message : ToolError → String
  | .launch tool source => "failed to launch `" ++ tool ++ "`: " ++ source.message
  | .failed tool status diagnostic =>
    "`" ++ tool ++ "` exited with " ++ status ++ ": " ++ diagnostic
  | .timedOut tool after => "`" ++ tool ++ "` did not finish within " ++ after.display
  | .io source => "IO error: " ++ source.message

/-- The messages of the errors behind this one. -/
def sources : ToolError → List String
  | .launch _ source => [source.message]
  | .failed _ _ _ => []
  | .timedOut _ _ => []
  | .io source => [source.message]

end ToolError

/-- A message followed by the messages of the errors behind it. -/
def chain (message : String) (sources : List String) : String :=
  ": ".intercalate (message :: sources)

end TemplatePress
