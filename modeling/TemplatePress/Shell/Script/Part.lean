import TemplatePress.Shell.Script.Source

/-!
# Parts of a script

The parts of a script that hold no commands: names, assignments, what shapes a value, how a
redirection begins, and texts that stand below the line that asks for them.
-/

namespace TemplatePress.Shell.Reading

/-! ## 1. Words -/

/-- The assignment that a word is: a name and an equals sign at its beginning. -/
def assignment? : Word → Option (String × Word)
  | .text false bs :: rest =>
    let cs := Text.Latin.chars bs
    let name := cs.takeWhile continuesName
    match name.head?, cs.drop name.length with
    | some c, '=' :: more =>
      if startsName c then
        some (String.ofList name,
          if more.isEmpty then rest else .text false (Text.Latin.bytes more) :: rest)
      else none
    | _, _ => none
  | _ => none

/-- The text up to a closing quote. -/
def singleQuoted : Reading Bytes := do
  let cs ← run (· != '\'')
  match ← peek with
  | none => throw "Unterminated quoted string"
  | some _ =>
    skip 1
    return Text.Latin.bytes cs

/-- The parameter that a name in braces stands for. -/
def parameterOf (cs : List Char) : Option Parameter :=
  match cs with
  | ['@'] => some .arguments
  | ['*'] => some .joined
  | ['#'] => some .count
  | ['?'] => some .status
  | ['$'] => some .process
  | [] => none
  | c :: _ =>
    if cs.all Char.isDigit then some (.argument (cs.foldl (fun v d => v * 10 + (d.toNat - 48)) 0))
    else if startsName c && cs.all continuesName then some (.named (String.ofList cs))
    else none

/-- The parameter behind a dollar sign without braces; none if the sign stands for itself. -/
def parameter : Reading (Option Parameter) := do
  match ← ahead with
  | c :: _ =>
    if startsName c then
      let name ← run continuesName
      return some (.named (String.ofList name))
    else
      match parameterOf [c] with
      | some p =>
        skip 1
        return some p
      | none => return none
  | [] => return none

/-- How long the name of a parameter in braces is. -/
def parameterLength (cs : List Char) : Nat :=
  match cs with
  | [] => 0
  | c :: _ =>
    if c.isDigit then (cs.takeWhile Char.isDigit).length
    else if startsName c then (cs.takeWhile continuesName).length
    else if c == '\x7d' then 0
    else 1

/-- What shapes a value, whether an empty value is missing, and how long that is. -/
def shaping? : List Char → Option (Shaping × Bool × Nat)
  | '-' :: _ => some (.orElse, false, 1)
  | '=' :: _ => some (.orAssign, false, 1)
  | '+' :: _ => some (.andThen, false, 1)
  | '?' :: _ => some (.demand, false, 1)
  | ':' :: '-' :: _ => some (.orElse, true, 2)
  | ':' :: '=' :: _ => some (.orAssign, true, 2)
  | ':' :: '+' :: _ => some (.andThen, true, 2)
  | ':' :: '?' :: _ => some (.demand, true, 2)
  | '#' :: '#' :: _ => some (.cut false true, false, 2)
  | '#' :: _ => some (.cut false false, false, 1)
  | '%' :: '%' :: _ => some (.cut true true, false, 2)
  | '%' :: _ => some (.cut true false, false, 1)
  | _ => none

/-- Whether the word of a shaping is read as in double quotes where the value is. A pattern is
    not. -/
def keepsQuotes : Shaping → Bool
  | .cut _ _ => false
  | _ => true

/-- The inside of backquotes up to the closing one: a backslash there keeps a backquote, a backslash
    or a dollar sign. -/
def backquotedText : List Char → Option (List Char × Nat)
  | [] => none
  | '`' :: _ => some ([], 1)
  | '\\' :: c :: rest =>
    if c == '`' || c == '\\' || c == '$' then
      (backquotedText rest).map fun (cs, n) => (c :: cs, n + 2)
    else (backquotedText rest).map fun (cs, n) => ('\\' :: c :: cs, n + 2)
  | c :: rest => (backquotedText rest).map fun (cs, n) => (c :: cs, n + 1)

/-- How a redirection begins: its stream if given, what it does, and how long that is. -/
def redirection? (cs : List Char) : Option (Nat × Direction × Nat) :=
  let (stream, cs, used) := match cs with
    | d :: c :: rest =>
      if d.isDigit && (c == '<' || c == '>') then (some (d.toNat - 48), c :: rest, 1)
      else (none, cs, 0)
    | _ => (none, cs, 0)
  match cs with
  | '>' :: '>' :: _ => some (stream.getD 1, .append, used + 2)
  | '>' :: '&' :: _ => some (stream.getD 1, .duplicate, used + 2)
  | '>' :: '|' :: _ => some (stream.getD 1, .write, used + 2)
  | '>' :: _ => some (stream.getD 1, .write, used + 1)
  | '<' :: '<' :: '-' :: _ => some (stream.getD 0, .given, used + 3)
  | '<' :: '<' :: _ => some (stream.getD 0, .given, used + 2)
  | '<' :: '&' :: _ => some (stream.getD 0, .duplicate, used + 2)
  | '<' :: _ => some (stream.getD 0, .input, used + 1)
  | _ => none

/-! ## 2. Texts below a line -/

/-- The lines up to one that is the delimiter, what follows that line, and how many lines these are. The
    current line and the lines before it stand in reverse. Tabs at the beginning of lines may be left
    out. -/
def linesTo (dropsTabs : Bool) (delimiter : List Char) :
    List Char → (line seen : List Char) → (lines : Nat) → List Char × List Char × Nat
  | [], line, seen, lines =>
    (if line.reverse = delimiter then seen.reverse else (line ++ seen).reverse, [], lines + 1)
  | '\n' :: rest, line, seen, lines =>
    if line.reverse = delimiter then (seen.reverse, rest, lines + 1)
    else linesTo dropsTabs delimiter rest [] ('\n' :: (line ++ seen)) (lines + 1)
  | c :: rest, line, seen, lines =>
    if dropsTabs && line.isEmpty && c == '\t' then linesTo dropsTabs delimiter rest [] seen lines
    else linesTo dropsTabs delimiter rest (c :: line) seen lines

/-- Takes the text out that begins below the current line. -/
def takeBelow (dropsTabs : Bool) (delimiter : List Char) : Reading (List Char) := do
  let s ← get
  let here := s.rest.takeWhile (· != '\n')
  match s.rest.drop here.length with
  | [] => return []
  | _ :: below =>
    let (text, rest, lines) := linesTo dropsTabs delimiter below [] [] 0
    set { s with rest := here ++ '\n' :: rest, taken := s.taken + lines }
    return text

/-- The text of a word that is not expanded. -/
def literalText (w : Word) : Bytes :=
  w.flatMap fun
    | .text _ bs => bs
    | _ => []

/-- Whether a part of a word stands in quotes. -/
def holdsQuotes (w : Word) : Bool :=
  w.any fun
    | .text quoted _ => quoted
    | _ => false

end TemplatePress.Shell.Reading
