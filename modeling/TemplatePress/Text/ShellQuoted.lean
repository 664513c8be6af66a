import TemplatePress.Text.Utf8

/-!
# File names in complaints

Utilities put a file name between quotes so that a shell would read it back as it is:

* single quotes around a name of visible characters;
* double quotes if the name holds a single quote and nothing that double quotes leave open;
* otherwise a single quote is written outside the quotes behind a backslash, and bytes that are not
  visible stand as escapes in a part of their own.
-/

namespace TemplatePress.Text.ShellQuoted

/-- A byte that is shown as itself. -/
def isVisible (b : UInt8) : Bool :=
  0x20 ≤ b && b < 0x7F

def singleQuote : UInt8 := 0x27

/-- What double quotes leave open: the double quote, the dollar, the backquote, the backslash. -/
def isOpenInDoubleQuotes (b : UInt8) : Bool :=
  b == 0x22 || b == 0x24 || b == 0x60 || b == 0x5C

/-- Three octal digits. -/
def octal (b : UInt8) : Bytes :=
  let digit := fun n => UInt8.ofNat (0x30 + n % 8)
  [digit (b.toNat / 64), digit (b.toNat / 8), digit b.toNat]

/-- The letters of the controls that have one. -/
def controlLetters : List (UInt8 × Char) :=
  [(7, 'a'), (8, 'b'), (9, 't'), (10, 'n'), (11, 'v'), (12, 'f'), (13, 'r')]

/-- A byte that is not visible, behind a backslash. -/
def escaped (b : UInt8) : Bytes :=
  0x5C ::
    match controlLetters.lookup b with
    | some letter => [letter.toUInt8]
    | none => octal b

/-- The inside of single quotes. `escaping` says whether the part for escapes is open. -/
def body (escaping : Bool) : Bytes → Bytes
  | [] => []
  | b :: rest =>
    if isVisible b then
      (if escaping then Utf8.bytes "''" else []) ++
        (if b = singleQuote then Utf8.bytes "'\\''" else [b]) ++ body false rest
    else (if escaping then [] else Utf8.bytes "'$'") ++ escaped b ++ body true rest

/-- A quoted file name. -/
def encode (name : Bytes) : Bytes :=
  if name.contains singleQuote && name.all isVisible && !name.any isOpenInDoubleQuotes then
    0x22 :: name ++ [0x22]
  else singleQuote :: body false name ++ [singleQuote]

end TemplatePress.Text.ShellQuoted
