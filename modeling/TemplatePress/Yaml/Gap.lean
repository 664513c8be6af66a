import TemplatePress.Yaml.Character

/-!
# White space inside a scalar

What a run of spaces and line breaks between two words of a scalar becomes. Spaces alone stay. Of a
run with line breaks only the breaks count: a single one becomes a space, and of several the first
is dropped.
-/

namespace TemplatePress.Yaml

/-- The white space read since the last word. -/
inductive Gap where
  | none
  /-- Spaces and tabs in a line. -/
  | blanks (text : List Char)
  /-- Line breaks, as the texts that they leave: the first, and those after it. -/
  | breaks (first more : List Char)
  deriving DecidableEq

namespace Gap

/-- Whether a line ends in the gap. -/
def isBroken : Gap → Bool
  | .breaks _ _ => true
  | _ => false

/-- Whether anything was read since the last word. -/
def isOpen : Gap → Bool
  | .none => false
  | _ => true

def addBlank (c : Char) : Gap → Gap
  | .none => .blanks [c]
  | .blanks text => .blanks (text ++ [c])
  | .breaks first more => .breaks first more

def addBreak (text : List Char) : Gap → Gap
  | .breaks first more => .breaks first (more ++ text)
  | _ => .breaks text []

/-- What stands in the scalar for the gap. -/
def text : Gap → List Char
  | .none => []
  | .blanks text => text
  | .breaks ['\n'] [] => [' ']
  | .breaks ['\n'] more => more
  | .breaks first more => first ++ more

end Gap

end TemplatePress.Yaml
