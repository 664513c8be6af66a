import TemplatePress.Text.Utf8

/-!
# Scripts

What a shell reads out of a script. This file fixes:

* a word is a row of pieces: text, the value of a parameter, which may be shaped, or what a command
  prints, or a number that is computed; each piece knows whether it stands in quotes;
* a command is simple, or made of other commands;
* a redirection gives a stream of a command another place.
-/

namespace TemplatePress.Shell

/-- What a dollar sign may name. -/
inductive Parameter where
  | named (name : String)
  /-- An argument by its number; number zero is the name of the script. -/
  | argument (n : Nat)
  /-- All arguments, each a word of its own. -/
  | arguments
  /-- All arguments as one word. -/
  | joined
  /-- How many arguments there are. -/
  | count
  /-- The status of the last command. -/
  | status
  /-- The number of the shell's process. -/
  | process
  deriving DecidableEq

/-- What becomes of the value of a parameter. -/
inductive Shaping where
  /-- A word stands for a missing value. -/
  | orElse
  /-- A word becomes the value if there is none. -/
  | orAssign
  /-- A word stands for a value that is not missing. -/
  | andThen
  /-- A missing value ends the shell. -/
  | demand
  /-- A part that matches a pattern is cut off at the beginning or the end. -/
  | cut (atEnd longest : Bool)
  /-- How long the value is. -/
  | length
  deriving DecidableEq

/-- What a redirection does with its stream. -/
inductive Direction where
  /-- Read from a file. -/
  | input
  /-- Write to a file that is emptied first. -/
  | write
  /-- Write behind what a file holds. -/
  | append
  /-- Go where another stream goes. -/
  | duplicate
  /-- Read the text that the script gives. -/
  | given
  deriving DecidableEq

mutual

/-- A part of a word. -/
inductive Piece where
  | text (quoted : Bool) (bytes : Bytes)
  | value (quoted : Bool) (parameter : Parameter)
  /-- A value that is shaped by a word. If `orEmpty` is set an empty value is missing, too. -/
  | shaped (quoted : Bool) (parameter : Parameter) (shaping : Shaping) (orEmpty : Bool)
      (word : List Piece)
  /-- Braces behind a dollar sign that hold nothing of the kind. -/
  | senseless
  /-- What a command prints, without the ends of line behind it. -/
  | printed (quoted : Bool) (command : Command)
  /-- The value of an expression. -/
  | computed (quoted : Bool) (expression : List Piece)

/-- A stream by its number, what is done with it, and a word for the other side. -/
inductive Redirection where
  | mk (stream : Nat) (direction : Direction) (target : List Piece)

/-- A command. -/
inductive Command where
  | nothing
  /-- Assignments, words and redirections on a line of the script. -/
  | simple (line : Nat) (assignments : List (String × List Piece)) (words : List (List Piece))
      (redirections : List Redirection)
  /-- One command after another. -/
  | both (first second : Command)
  /-- The second only if the first ends well. -/
  | onSuccess (first second : Command)
  /-- The second only if the first does not end well. -/
  | onFailure (first second : Command)
  /-- The second reads what the first prints. -/
  | pipe (first second : Command)
  /-- Ends well exactly if the command does not. -/
  | negated (command : Command)
  | redirected (line : Nat) (command : Command) (redirections : List Redirection)
  /-- A command in a shell of its own. -/
  | inner (command : Command)
  | branch (test yes no : Command)
  | forEach (name : String) (words : List (List Piece)) (body : Command)
  /-- The body again and again, as long as, or until, the test ends well. -/
  | repeated (untilWell : Bool) (test body : Command)
  /-- The first arm with a pattern that matches the word. -/
  | choose (word : List Piece) (arms : List (List (List Piece) × Command))
  /-- Gives a command a name. -/
  | define (name : String) (body : Command)

end

/-- A row of pieces. -/
abbrev Word := List Piece

/-- One command after another, if there is a first one. -/
def Command.followedBy : Command → Command → Command
  | .nothing, c => c
  | c, .nothing => c
  | c, d => .both c d

/-- A script: its lines of commands, and what is wrong behind them, with its line. -/
structure Script where
  commands : List Command
  problem : Option (Nat × String) := none

end TemplatePress.Shell
