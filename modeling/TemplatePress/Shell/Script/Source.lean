import TemplatePress.Shell.Script
import TemplatePress.Text.Latin

/-!
# The text of a script

What is left of a script while it is read, and the small readings out of which the others are made.
This file fixes:

* which characters end a word, and which are more than a part of a plain text;
* what stands between words and between lines;
* how a complaint calls the next part of the script.
-/

namespace TemplatePress.Shell

/-- What is left of a script, and the number of its line. -/
structure Source where
  rest : List Char
  line : Nat := 1
  /-- How many lines were taken out behind this one. -/
  taken : Nat := 0

/-- A reading action; its error says what is wrong. -/
abbrev Reading := EStateM String Source

namespace Reading

/-- A character that ends a word. -/
def isMeta (c : Char) : Bool :=
  " \t\n;&|<>()".toList.contains c

/-- A character that is more than a part of a plain text. -/
def isSpecial (c : Char) : Bool :=
  isMeta c || "'\"\\$`".toList.contains c

def startsName (c : Char) : Bool :=
  c.isAlpha || c == '_'

def continuesName (c : Char) : Bool :=
  c.isAlphanum || c == '_'

/-- Whether a text is a name. -/
def isName (s : String) : Bool :=
  s.toList.head?.any startsName && s.toList.all continuesName

/-- The next characters. -/
def ahead : Reading (List Char) := return (← get).rest

/-- The next character. -/
def peek : Reading (Option Char) := return (← get).rest.head?

/-- Leaves out characters. -/
def skip (n : Nat) : Reading Unit :=
  modify fun s =>
    match (s.rest.take n).count '\n' with
    | 0 => { s with rest := s.rest.drop n }
    | lines => { rest := s.rest.drop n, line := s.line + lines + s.taken }

/-- The characters up to the first that fails a test. -/
def run (p : Char → Bool) : Reading (List Char) := do
  let cs := (← ahead).takeWhile p
  skip cs.length
  return cs

/-- What blanks, comments and continued lines take up at the beginning. -/
def blankLength : List Char → Nat
  | ' ' :: rest => blankLength rest + 1
  | '\t' :: rest => blankLength rest + 1
  | '\\' :: '\n' :: rest => blankLength rest + 2
  | '#' :: rest => (rest.takeWhile (· != '\n')).length + 1
  | _ => 0

def skipBlanks : Reading Unit := do
  skip (blankLength (← ahead))

/-- What blanks and line ends take up at the beginning; a comment ends with its line. -/
def emptyLength (inComment : Bool) : List Char → Nat
  | [] => 0
  | '\n' :: rest => emptyLength false rest + 1
  | '\\' :: '\n' :: rest => emptyLength false rest + 2
  | c :: rest =>
    if inComment then emptyLength true rest + 1
    else if c == '#' then emptyLength true rest + 1
    else if c == ' ' || c == '\t' then emptyLength false rest + 1
    else 0

def skipLines : Reading Unit := do
  skip (emptyLength false (← ahead))

/-- The next word if it is plain text and nothing else; empty otherwise. -/
def literal : Reading String := do
  let cs ← ahead
  let plain := cs.takeWhile (! isSpecial ·)
  match cs.drop plain.length with
  | [] => return String.ofList plain
  | c :: _ => return if isMeta c then String.ofList plain else ""

/-- The words that end or divide a command made of others. -/
def closers : List String := ["then", "else", "elif", "fi", "do", "done", "esac", "\x7d"]

/-- How the next part of the script is called in a complaint. -/
def nextName : Reading String := do
  match ← ahead with
  | [] => return "end of file"
  | '\n' :: _ => do
    skip 1
    return "newline"
  | ';' :: ';' :: _ => return "\";;\""
  | '&' :: '&' :: _ => return "\"&&\""
  | '|' :: '|' :: _ => return "\"||\""
  | c :: _ =>
    if c == '<' || c == '>' then return "redirection"
    else if isMeta c then return "\"" ++ c.toString ++ "\""
    else
      let word ← literal
      return if closers.contains word then "\"" ++ word ++ "\"" else "word"

/-- Complains of the next part of the script. -/
def unexpected {α : Type} (wanted : Option String) : Reading α := do
  let name ← nextName
  throw (name ++ " unexpected" ++
    match wanted with
    | some w => " (expecting \"" ++ w ++ "\")"
    | none => "")

/-- Complains that a word should come next. -/
def missingWord {α : Type} : Reading α := do
  let name ← nextName
  throw (name ++ " unexpected (expecting word)")

/-- Goes past a word. -/
def expectWord (word : String) : Reading Unit := do
  skipLines
  if (← literal) == word then skip word.length else unexpected (some word)

end Reading

end TemplatePress.Shell
