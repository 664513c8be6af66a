import TemplatePress.Machine.Basic
import TemplatePress.Text.ShellQuoted

/-!
# Utilities

The small programs that a machine has installed. A utility takes its arguments in its surroundings
and leaves a trace. What goes wrong is said in lines that begin with the name of the utility; the
utility goes on with what is left, and ends with code one.
-/

namespace TemplatePress.Machine

/-- A program of the machine. -/
abbrev Utility := List Bytes → Surroundings → Trace

namespace Utility

open Text.Utf8 (bytes)

/-- A line of a utility. -/
def line (name : String) (text : Bytes) : Bytes :=
  bytes name ++ bytes ": " ++ text ++ [0x0A]

/-- The system's words for an error. -/
def wordsOf : IoError → Bytes
  | .os e => bytes (Errno.words e.number)
  | e => bytes e.message

/-- Ends well, having printed something. -/
def prints (s : Surroundings) (printed : Flow) : Trace :=
  { s.ended (.exited 0) with printed }

/-- Ends with code one, having said why. -/
def complains (s : Surroundings) (name : String) (text : Bytes) : Trace :=
  { s.ended (.exited 1) with said := .ofBytes (line name text) }

/-- What a utility says of arguments that it does not understand. -/
def misused (name : String) (text : Bytes) : Bytes :=
  text ++ bytes ("\nTry '" ++ name ++ " --help' for more information.")

/-- Refuses its arguments. -/
def refuses (s : Surroundings) (name : String) (text : Bytes) : Trace :=
  complains s name (misused name text)

/-! ## Options -/

/-- The letters of the options of a utility, with their long names. -/
abbrev Options := List (Char × String)

/-- The letters of a group of options; the first unknown one is an error. -/
def letters (known : Options) : Bytes → Except Bytes (List Char)
  | [] => .ok []
  | b :: rest =>
    let c := Char.ofNat b.toNat
    if (known.map Prod.fst).contains c then (letters known rest).map (c :: ·)
    else .error (bytes "invalid option -- '" ++ [b] ++ bytes "'")

/-- Tells the option letters from the operands. Options may stand anywhere before `--`. -/
def readOptions (known : Options) : List Bytes → Except Bytes (List Char × List Bytes)
  | [] => .ok ([], [])
  | argument :: rest =>
    match argument with
    | [0x2D, 0x2D] => .ok ([], rest)
    | 0x2D :: 0x2D :: name =>
      match known.find? fun o => bytes o.2 = name with
      | some o => (readOptions known rest).map fun (ls, os) => (o.1 :: ls, os)
      | none => .error (bytes "unrecognized option '" ++ argument ++ bytes "'")
    | 0x2D :: b :: more =>
      match letters known (b :: more) with
      | .error e => .error e
      | .ok found => (readOptions known rest).map fun (ls, os) => (found ++ ls, os)
    | _ => (readOptions known rest).map fun (ls, os) => (ls, argument :: os)

end Utility

end TemplatePress.Machine
