import TemplatePress.Shell.Names

/-!
# Lines that are read

How a line is shared among variables. This file fixes:

* a backslash keeps the byte behind it, so that it separates no words, and joins two lines;
* each variable gets a word, and the last one what is left, without white space around it;
* variables beyond the words get nothing.
-/

namespace TemplatePress.Shell.Line

/-- The first line of a text, whether it has an end, and what is left. Unless backslashes are kept, one
    keeps the byte behind it and joins two lines; such a byte separates no words. -/
def take (keepsBackslashes : Bool) : Bytes → Marked × Bool × Bytes
  | [] => ([], false, [])
  | b :: rest =>
    if b = 0x0A then ([], true, rest)
    else if b = 0x5C && !keepsBackslashes then
      match rest with
      | [] => ([], false, [])
      | c :: rest =>
        let (line, ended, left) := take keepsBackslashes rest
        (if c = 0x0A then line else (c, true) :: line, ended, left)
    else
      let (line, ended, left) := take keepsBackslashes rest
      ((b, false) :: line, ended, left)

/-- Whether a byte of a line separates words. -/
def divides (separators : Bytes) (b : UInt8 × Bool) : Bool :=
  !b.2 && separators.contains b.1

/-- Whether a byte of a line only parts words. -/
def isGap (separators : Bytes) (b : UInt8 × Bool) : Bool :=
  divides separators b && Marked.isBlank b.1

/-- The rest of a line as the last word. A single separator behind a single word is none of it. -/
def lastWord (separators : Bytes) (line : Marked) : Bytes :=
  let trimmed := (line.reverse.dropWhile (isGap separators)).reverse
  let word := trimmed.takeWhile (! divides separators ·)
  match (trimmed.drop word.length).dropWhile (isGap separators) with
  | [b] => Marked.bytes (if divides separators b then word else trimmed)
  | _ => Marked.bytes trimmed

/-- The words of a line for a number of variables. The last one gets what is left. -/
def share (separators : Bytes) : (values : Nat) → Marked → List Bytes
  | 0, _ => []
  | values + 1, line =>
    let line := line.dropWhile (isGap separators)
    if values = 0 then [lastWord separators line]
    else
      let word := line.takeWhile (! divides separators ·)
      let rest := (line.drop word.length).dropWhile (isGap separators)
      let rest := if rest.head?.any (divides separators) then rest.drop 1 else rest
      Marked.bytes word :: share separators values rest

end TemplatePress.Shell.Line
