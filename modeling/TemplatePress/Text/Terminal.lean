import TemplatePress.Text.Utf8

/-!
# Text as a terminal shows it

A message that quotes foreign text must not steer the terminal that it is written to. This file fixes
what of a text is visible:

* control characters are not, except white space;
* a control sequence, which an escape character begins, is not, up to the character that ends it;
  white space in its midst is, and ends the sequence for this purpose.
-/

namespace TemplatePress.Text.Terminal

/-- Where in a control sequence a character stands. -/
inductive State where
  /-- In none. -/
  | ground
  /-- Behind the escape character. -/
  | escape
  /-- Behind further characters of a short sequence. -/
  | intermediate
  /-- In a sequence with parameters. -/
  | control
  /-- In front of a string for a device, with the parameters behind it that may still come. -/
  | deviceEntry
  | deviceParameter
  | deviceIntermediate
  /-- In a string for a device or an application, which a string terminator ends. -/
  | string
  /-- In a command for the system, which a bell ends. -/
  | command
  deriving DecidableEq

/-- White space that terminals act on. -/
def isSpacing (c : Char) : Bool :=
  c == '\t' || c == '\n' || c == '\x0c' || c == '\r'

/-- A control character of ASCII, or the one behind it. -/
def isControl (c : Char) : Bool :=
  c.toNat < 0x20 || c.toNat == 0x7F

/-- Whether a character lies between two others. -/
def between (low high c : Char) : Bool :=
  low ≤ c && c ≤ high

/-- Whether the bytes of a character have the string terminator among them. -/
def terminatesString (c : Char) : Bool :=
  (Utf8.bytes c.toString).contains 0x9C

/-- The state that the character behind an escape character leads to. -/
def afterEscape (c : Char) : State :=
  if c == '[' then .control
  else if c == ']' then .command
  else if c == 'P' then .deviceEntry
  else if c == 'X' || c == '^' || c == '_' then .string
  else if between ' ' '/' c then .intermediate
  else if between '0' '~' c then .ground
  else .escape

/-- The state behind a character that is not visible. -/
def next (s : State) (c : Char) : State :=
  if c == '\x1b' then .escape
  else if c == '\x18' || c == '\x1a' then .ground
  else
    match s with
    | .ground => .ground
    | .escape => afterEscape c
    | .intermediate => if between '0' '~' c then .ground else .intermediate
    | .control => if between '@' '~' c then .ground else .control
    | .deviceEntry =>
      if between ' ' '/' c then .deviceIntermediate
      else if c == ':' then .string
      else if between '0' '?' c then .deviceParameter
      else if between '@' '~' c then .string
      else .deviceEntry
    | .deviceParameter =>
      if between ' ' '/' c then .deviceIntermediate
      else if c == ':' || between '<' '?' c then .string
      else if between '@' '~' c then .string
      else .deviceParameter
    | .deviceIntermediate => if between '0' '~' c then .string else .deviceIntermediate
    | .string => if terminatesString c then .ground else .string
    | .command => if c == '\x07' then .ground else .command

/-- Whether a character is visible in a state. -/
def isVisible (s : State) (c : Char) : Bool :=
  match s with
  | .ground => !isControl c || isSpacing c
  | .escape => isSpacing c
  | .intermediate => isSpacing c
  | .control => isSpacing c
  | _ => false

/-- The visible characters of a text that is read from a state on. -/
def shown : State → List Char → List Char
  | _, [] => []
  | s, c :: rest => if isVisible s c then c :: shown .ground rest else shown (next s c) rest

/-- What is visible of a text. -/
def visible (s : String) : String :=
  String.ofList (shown .ground s.toList)

end TemplatePress.Text.Terminal
