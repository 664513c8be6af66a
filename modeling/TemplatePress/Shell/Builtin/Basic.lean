import TemplatePress.Shell.Session

/-!
# A command of the shell itself

What the shell carries out without a program. Such a command gets the line it stands on and its
arguments and answers with a status. Its complaints begin with its name, which whoever runs it sees to.
-/

namespace TemplatePress.Shell

open Text.Utf8 (bytes)

/-- A command of the shell. -/
structure Builtin where
  run : (line : Nat) → List Bytes → Act Nat
  /-- Whether a failure ends the shell. -/
  endsShell : Bool := false

namespace Builtin

/-- Says what is wrong and answers with a status. -/
def wrong (line : Nat) (text : Bytes) (status : Nat) : Act Nat := do
  Act.complain line text
  return status

/-- Says that a command of the shell has no such option. -/
def unknownOption (line : Nat) (letter : Bytes) : Act Nat :=
  wrong line (bytes "Illegal option -" ++ letter) 2

/-- A number that a command of the shell is given. -/
def natural? (argument : Bytes) : Option Nat :=
  (String.ofList (Text.Latin.chars argument)).toNat?

/-- The name of a variable that a command of the shell is given. -/
def nameOf (argument : Bytes) : String :=
  String.ofList (Text.Latin.chars argument)

end Builtin

end TemplatePress.Shell
