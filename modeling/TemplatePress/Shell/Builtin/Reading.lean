import TemplatePress.Shell.Builtin.Basic
import TemplatePress.Shell.Line
import TemplatePress.Shell.Script.Source

/-!
# Reading a line

The command that reads a line and shares it among variables.
-/

namespace TemplatePress.Shell.Builtin

open Text.Utf8 (bytes)

/-- Reads a line into variables, up to the first that cannot be given a value. -/
def readInto (line : Nat) (names : List Bytes) (keepsBackslashes : Bool) : Act Nat := do
  let s ← get
  let flow := s.input
  let text := if flow.start.contains 0x0A then flow.start else flow.start ++ flow.cycle
  let (read, ended, left) := Line.take keepsBackslashes text
  set { s with input := ⟨left, flow.cycle⟩ }
  let words := Line.share s.separators names.length (read.filter (·.1 != 0))
  let refused := names.find? fun n => !Reading.isName (nameOf n) || s.fixed.contains (nameOf n)
  let given := (names.zip words).takeWhile fun g => some g.1 != refused
  given.forM fun g => Act.give (nameOf g.1) g.2
  match refused with
  | none => return if ended then 0 else 1
  | some n =>
    let reason := if Reading.isName (nameOf n) then ": is read only" else ": bad variable name"
    wrong line (n ++ bytes reason) 2

/-- Reads a line: after options, of which one keeps backslashes, come the names of variables. -/
def readLine (line : Nat) : (keepsBackslashes : Bool) → List Bytes → Act Nat
  | _, [] => wrong line (bytes "arg count") 2
  | keeps, [0x2D, 0x70] :: _ :: words => readLine line keeps words
  | _, [0x2D, 0x72] :: words => readLine line true words
  | keeps, [0x2D, 0x2D] :: words =>
    if words.isEmpty then wrong line (bytes "arg count") 2 else readInto line words keeps
  | _, (0x2D :: b :: _) :: _ => unknownOption line [b]
  | keeps, words => readInto line words keeps

/-- Reads a line into variables. -/
def read : Builtin where
  run line arguments := readLine line false arguments

end TemplatePress.Shell.Builtin
