import TemplatePress.Yaml.Character
import TemplatePress.Yaml.Error

/-!
# The input of a reader

A text is read from left to right, and where the reader stands is kept as a `Mark`. The text arrives
in chunks of bounded size, and the characters of a chunk are checked together when it arrives: of a
text with an unreadable character only the chunks before it are ever read, and the reading fails
when it needs a character beyond them.

* `Input.ofText` cuts off what cannot be read;
* a `Scan` moves over the input or fails.
-/

namespace TemplatePress.Yaml

/-- What is left to read. -/
structure Input where
  /-- The readable characters that come next. -/
  rest : List Char
  /-- Where they stand. -/
  mark : Mark := {}
  /-- What stands behind them: the end of the text, or a chunk with an unreadable character, whose
      offset in bytes this is. -/
  unreadable : Option Nat := none

namespace Input

/-- The size of a chunk in bytes. -/
def chunkSize : Nat := 16384

/-- The first unreadable character: where its chunk begins, in characters, and its offset in bytes.
    A chunk takes as many whole characters as fit. -/
def firstUnreadable (index offset room start : Nat) : List Char → Option (Nat × Nat)
  | [] => none
  | c :: rest =>
    let (room, start) := if c.utf8Size ≤ room then (room, start) else (chunkSize, index)
    if isReadable c then
      firstUnreadable (index + 1) (offset + c.utf8Size) (room - c.utf8Size) start rest
    else some (start, offset)

/-- A text as input, up to the chunk with its first unreadable character. -/
def ofText (text : String) : Input :=
  let cs := text.toList
  match firstUnreadable 0 0 chunkSize 0 cs with
  | none => { rest := cs }
  | some (start, offset) => { rest := cs.take start, unreadable := some offset }

/-- Whether looking at the next `n` characters fails, and at which offset. -/
def lacking (unreadable : Option Nat) (n : Nat) (rest : List Char) : Option Nat :=
  unreadable.filter fun _ => (rest.take n).length < n

/-- Moves over `n` characters of the line. -/
def skip (i : Input) (n : Nat) : Input :=
  { i with rest := i.rest.drop n, mark := (i.rest.take n).foldl Mark.behind i.mark }

/-- Moves over a line break, if one comes next. -/
def skipBreak (i : Input) : Input :=
  match i.rest with
  | '\r' :: '\n' :: rest => { i with rest, mark := i.mark.newLine 2 }
  | c :: rest => if isBreak c then { i with rest, mark := i.mark.newLine c.utf8Size } else i
  | [] => i

/-- The text that the line break which comes next leaves in a scalar. -/
def breakText (i : Input) : List Char :=
  match i.rest with
  | '\r' :: '\n' :: _ => ['\n']
  | c :: _ => if isBreak c then [brokenLine c] else []
  | [] => []

/-- The characters that come next and satisfy `p`. -/
def leading (i : Input) (p : Char → Bool) : List Char :=
  i.rest.takeWhile p

end Input

/-- Reads some of the input, or fails. -/
abbrev Scan := EStateM SyntaxError Input

namespace Scan

/-- Sees to it that the next `n` characters can be looked at. -/
def need (n : Nat) : Scan Unit := fun i =>
  match Input.lacking i.unreadable n i.rest with
  | some offset => .error (.unreadable offset) i
  | none => .ok () i

/-- What comes next. -/
def peek : Scan (List Char) := fun i => .ok i.rest i

/-- Where the reader stands. -/
def place : Scan Mark := fun i => .ok i.mark i

/-- Notices a problem where the reader stands. -/
def fail {α : Type} (problem : Problem) (reading : Reading) (began : Mark) : Scan α := fun i =>
  .error (.noticed problem i.mark (some (reading, began))) i

/-- Moves over `n` characters of the line. -/
def skip (n : Nat) : Scan Unit := fun i => .ok () (i.skip n)

/-- Moves over the characters that satisfy `p`, and returns them. -/
def readWhile (p : Char → Bool) : Scan (List Char) := do
  need 1
  let i ← get
  let word := i.leading p
  set (i.skip word.length)
  need 1
  return word

/-- Moves over spaces and tabs. -/
def skipBlanks : Scan Unit :=
  readWhile isBlank >>= fun _ => pure ()

/-- Moves over a comment, if one comes next, up to the end of its line. -/
def skipComment : Scan Unit := do
  match ← peek with
  | '#' :: _ => readWhile (fun c => !isBreak c) >>= fun _ => pure ()
  | _ => pure ()

/-- Moves over a line break, if one comes next, and returns the text that it leaves in a scalar. -/
def readBreak : Scan (List Char) := do
  let i ← get
  if !i.rest.isEmpty && atBreak i.rest then need 2
  set i.skipBreak
  return i.breakText

end Scan

end TemplatePress.Yaml
