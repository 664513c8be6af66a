import TemplatePress.Shell.Script.Part

/-!
# Reading scripts

A script is read from left to right, a line of commands at a time: what is wrong in a later line does
not keep the lines before it from being run. The reading functions call each other along the nesting
of the script, which is never deeper than the script is long; the length bounds their depth.
-/

namespace TemplatePress.Shell

namespace Reading

/-- How a simple command is read so far, each part in reverse. -/
structure Simple where
  line : Nat
  assignments : List (String × Word) := []
  words : List Word := []
  redirections : List Redirection := []

def Simple.finish (s : Simple) : Command :=
  .simple s.line s.assignments.reverse s.words.reverse s.redirections.reverse

def tooDeep {α : Type} : Reading α := throw "nested too deeply"

/-- How long a name and the two parentheses behind it are, with which the definition of a command
    begins. -/
def definedLength (name : String) (cs : List Char) : Option Nat :=
  let blanks := fun cs : List Char => (cs.takeWhile fun c => c == ' ' || c == '\t').length
  if !isName name then none
  else
    let before := blanks (cs.drop name.length)
    match cs.drop (name.length + before) with
    | '(' :: rest =>
      let inside := blanks rest
      if (rest.drop inside).head? == some ')' then some (name.length + before + inside + 2)
      else none
    | _ => none

mutual

/-- The pieces of a word; the pieces so far stand in reverse. -/
def word : (depth : Nat) → Word → Reading Word
  | 0, _ => tooDeep
  | depth + 1, seen => do
    match ← ahead with
    | [] => return seen.reverse
    | '\'' :: _ =>
      skip 1
      word depth (.text true (← singleQuoted) :: seen)
    | '"' :: _ =>
      skip 1
      word depth (← doubleQuoted depth true (.text true [] :: seen))
    | '\\' :: '\n' :: _ =>
      skip 2
      word depth seen
    | '\\' :: c :: _ =>
      skip 2
      word depth (.text true (Text.Latin.bytes [c]) :: seen)
    | '\\' :: [] =>
      skip 1
      return (Piece.text true [0x5C] :: seen).reverse
    | '$' :: _ =>
      skip 1
      word depth ((← dollar depth false) :: seen)
    | '`' :: _ =>
      skip 1
      word depth ((← backquoted depth false) :: seen)
    | c :: _ =>
      if isMeta c then return seen.reverse
      else
        let cs ← run (! isSpecial ·)
        word depth (.text false (Text.Latin.bytes cs) :: seen)

/-- The pieces up to a closing double quote, in reverse. Where no quote closes them they go on to the
    end, and a double quote stands for itself. -/
def doubleQuoted : (depth : Nat) → (closes : Bool) → Word → Reading Word
  | 0, _, _ => tooDeep
  | depth + 1, closes, seen => do
    match ← ahead with
    | [] => if closes then throw "Unterminated quoted string" else return seen
    | '\\' :: '\n' :: _ =>
      skip 2
      doubleQuoted depth closes seen
    | '\\' :: c :: _ =>
      skip 2
      let kept := if "$`\\".toList.contains c || (closes && c == '"') then [c] else ['\\', c]
      doubleQuoted depth closes (.text true (Text.Latin.bytes kept) :: seen)
    | '$' :: _ =>
      skip 1
      doubleQuoted depth closes ((← dollar depth true) :: seen)
    | '`' :: _ =>
      skip 1
      doubleQuoted depth closes ((← backquoted depth true) :: seen)
    | c :: _ =>
      skip 1
      if closes && c == '"' then return seen
      else
        let cs ← run (! "\"\\$`".toList.contains ·)
        doubleQuoted depth closes (.text true (Text.Latin.bytes (c :: cs)) :: seen)

/-- The pieces up to a closing brace, in reverse. -/
def braceWord : (depth : Nat) → (quoted : Bool) → Word → Reading Word
  | 0, _, _ => tooDeep
  | depth + 1, quoted, seen => do
    match ← ahead with
    | [] => throw (if quoted then "Unterminated quoted string" else "Missing '\x7d'")
    | '\x7d' :: _ =>
      skip 1
      return seen
    | '"' :: _ =>
      skip 1
      braceWord depth quoted (← doubleQuoted depth true (.text true [] :: seen))
    | '\\' :: '\n' :: _ =>
      skip 2
      braceWord depth quoted seen
    | '\\' :: c :: _ =>
      skip 2
      let kept := if quoted && !("$`\"\\\x7d".toList.contains c) then ['\\', c] else [c]
      braceWord depth quoted (.text true (Text.Latin.bytes kept) :: seen)
    | '$' :: _ =>
      skip 1
      braceWord depth quoted ((← dollar depth quoted) :: seen)
    | '`' :: _ =>
      skip 1
      braceWord depth quoted ((← backquoted depth quoted) :: seen)
    | c :: _ =>
      skip 1
      if c == '\'' && !quoted then braceWord depth quoted (.text true (← singleQuoted) :: seen)
      else
        let cs ← run (! "\x7d'\"\\$`".toList.contains ·)
        braceWord depth quoted (.text quoted (Text.Latin.bytes (c :: cs)) :: seen)

/-- What stands in braces behind a dollar sign. -/
def braced : (depth : Nat) → (quoted : Bool) → Reading Piece
  | 0, _ => tooDeep
  | depth + 1, quoted => do
    let cs ← ahead
    let isLength := cs.head? == some '#' && (cs.drop 1).head?.any (· != '\x7d')
    if isLength then skip 1
    let n := parameterLength (← ahead)
    let parameter := parameterOf ((← ahead).take n)
    skip n
    match parameter, ← ahead with
    | some p, '\x7d' :: _ =>
      skip 1
      return if isLength then .shaped quoted p .length false [] else .value quoted p
    | some p, rest =>
      match shaping? rest with
      | some (shaping, orEmpty, n) =>
        skip n
        let w ← braceWord depth (quoted && keepsQuotes shaping) []
        return if isLength then .senseless else .shaped quoted p shaping orEmpty w.reverse
      | none =>
        let _ ← braceWord depth quoted []
        return .senseless
    | none, _ =>
      let _ ← braceWord depth quoted []
      return .senseless

/-- The pieces of an expression up to two closing parentheses, in reverse, within open parentheses. -/
def expression : (depth : Nat) → (opened : Nat) → Word → Reading Word
  | 0, _, _ => tooDeep
  | depth + 1, opened, seen => do
    match ← ahead with
    | [] => throw "Missing '))'"
    | '$' :: _ =>
      skip 1
      expression depth opened ((← dollar depth true) :: seen)
    | '`' :: _ =>
      skip 1
      expression depth opened ((← backquoted depth true) :: seen)
    | c :: rest =>
      skip 1
      let piece := Piece.text true (Text.Latin.bytes [c])
      if c == '(' then expression depth (opened + 1) (piece :: seen)
      else if c == ')' then
        match opened with
        | opened + 1 => expression depth opened (piece :: seen)
        | 0 =>
          if rest.head? == some ')' then
            skip 1
            return seen
          else throw "Missing '))'"
      else if c == '"' || c == '\\' then expression depth opened seen
      else expression depth opened (piece :: seen)

/-- What stands behind a dollar sign. -/
def dollar : (depth : Nat) → (quoted : Bool) → Reading Piece
  | 0, _ => tooDeep
  | depth + 1, quoted => do
    match ← ahead with
    | '(' :: '(' :: _ =>
      skip 2
      return .computed quoted (← expression depth 0 []).reverse
    | '(' :: _ =>
      skip 1
      let c ← list depth
      skipLines
      if (← peek) == some ')' then
        skip 1
        return .printed quoted c
      else unexpected (some ")")
    | '\x7b' :: _ =>
      skip 1
      braced depth quoted
    | _ =>
      match ← parameter with
      | some p => return .value quoted p
      | none => return .text quoted [0x24]

/-- A command in backquotes. -/
def backquoted : (depth : Nat) → (quoted : Bool) → Reading Piece
  | 0, _ => tooDeep
  | depth + 1, quoted => do
    match backquotedText (← ahead) with
    | none => throw "EOF in backquote substitution"
    | some (cs, length) =>
      skip length
      let outer ← get
      set { outer with rest := cs }
      let c ← list depth
      match ← peek with
      | some _ => unexpected none
      | none =>
        set outer
        return .printed quoted c

/-- A redirection whose beginning has been read. -/
def redirection : (depth : Nat) → Nat × Direction × Nat → Reading Redirection
  | 0, _ => tooDeep
  | depth + 1, (stream, direction, length) => do
    let dropsTabs := ((← ahead).take length).getLast? == some '-'
    skip length
    skipBlanks
    match ← word depth [] with
    | [] => unexpected none
    | target =>
      if direction = .given then
        return .mk stream direction (← textBelow depth dropsTabs target)
      else return .mk stream direction target

/-- The text below the line up to a delimiter. It is expanded unless the delimiter is quoted. -/
def textBelow : (depth : Nat) → (dropsTabs : Bool) → Word → Reading Word
  | 0, _, _ => tooDeep
  | depth + 1, dropsTabs, delimiter => do
    let text ← takeBelow dropsTabs (Text.Latin.chars (literalText delimiter))
    if holdsQuotes delimiter then return [.text true (Text.Latin.bytes text)]
    else
      let outer ← get
      set { outer with rest := text, taken := 0 }
      let w ← doubleQuoted depth false []
      set outer
      return w.reverse

/-- The redirections that follow. -/
def redirections : (depth : Nat) → Reading (List Redirection)
  | 0 => tooDeep
  | depth + 1 => do
    skipBlanks
    match redirection? (← ahead) with
    | none => return []
    | some start =>
      let r ← redirection depth start
      return r :: (← redirections depth)

/-- The words up to the end of a command. -/
def words : (depth : Nat) → Reading (List Word)
  | 0 => tooDeep
  | depth + 1 => do
    skipBlanks
    match ← word depth [] with
    | [] => return []
    | w => return w :: (← words depth)

/-- The rest of a simple command. -/
def simple : (depth : Nat) → Simple → Reading Command
  | 0, _ => tooDeep
  | depth + 1, s => do
    skipBlanks
    match redirection? (← ahead) with
    | some start =>
      let r ← redirection depth start
      simple depth { s with redirections := r :: s.redirections }
    | none =>
      match ← word depth [] with
      | [] =>
        let isBare := s.assignments.isEmpty && s.redirections.isEmpty
        if isBare && s.words.isEmpty then unexpected none
        else if (← peek) == some '(' then
          if isBare && s.words.length = 1 then
            skip 1
            skipBlanks
            if (← peek) == some ')' then throw "Bad function name"
            unexpected (some ")")
          else unexpected none
        else return s.finish
      | w =>
        match s.words, assignment? w with
        | [], some a => simple depth { s with assignments := a :: s.assignments }
        | _, _ => simple depth { s with words := w :: s.words }

/-- At least one command, unless the script ends. -/
def body : (depth : Nat) → Reading Command
  | 0 => tooDeep
  | depth + 1 => do
    match ← list depth with
    | .nothing => if (← ahead).isEmpty then return .nothing else unexpected none
    | c => return c

/-- The body of a loop. -/
def loopBody : (depth : Nat) → Reading Command
  | 0 => tooDeep
  | depth + 1 => do
    expectWord "do"
    let c ← body depth
    expectWord "done"
    return c

/-- What follows `if` or `elif`. -/
def conditional : (depth : Nat) → Reading Command
  | 0 => tooDeep
  | depth + 1 => do
    let test ← body depth
    expectWord "then"
    let yes ← body depth
    skipLines
    match ← literal with
    | "elif" =>
      skip 4
      return .branch test yes (← conditional depth)
    | "else" =>
      skip 4
      let no ← body depth
      expectWord "fi"
      return .branch test yes no
    | _ =>
      expectWord "fi"
      return .branch test yes .nothing

/-- The patterns of an arm up to the closing parenthesis. -/
def patterns : (depth : Nat) → Reading (List Word)
  | 0 => tooDeep
  | depth + 1 => do
    skipBlanks
    match ← word depth [] with
    | [] => unexpected (some ")")
    | w =>
      skipBlanks
      match ← peek with
      | some ')' =>
        skip 1
        return [w]
      | some '|' =>
        skip 1
        return w :: (← patterns depth)
      | _ => unexpected (some ")")

/-- The arms up to `esac`. -/
def arms : (depth : Nat) → Reading (List (List Word × Command))
  | 0 => tooDeep
  | depth + 1 => do
    skipLines
    if (← literal) == "esac" then
      skip 4
      return []
    else
      if (← peek) == some '(' then skip 1
      let ps ← patterns depth
      let body ← list depth
      skipLines
      match ← ahead with
      | ';' :: ';' :: _ =>
        skip 2
        return (ps, body) :: (← arms depth)
      | _ =>
        if (← literal) == "esac" then
          skip 4
          return [(ps, body)]
        else unexpected (some ";;")

/-- A command that is not a pipeline. -/
def command : (depth : Nat) → Reading Command
  | 0 => tooDeep
  | depth + 1 => do
    skipBlanks
    let line := (← get).line
    let finish (c : Command) : Reading Command := do
      match ← redirections depth with
      | [] => return c
      | rs => return .redirected line c rs
    if (← peek) == some '(' then
      skip 1
      let c ← body depth
      skipLines
      if (← peek) == some ')' then
        skip 1
        finish (.inner c)
      else unexpected (some ")")
    else
      let key ← literal
      if key == "\x7b" then
        skip 1
        let c ← body depth
        expectWord "\x7d"
        finish c
      else if key == "if" then
        skip 2
        finish (← conditional depth)
      else if key == "for" then
        skip 3
        skipBlanks
        let name ← literal
        if !isName name then throw "Bad for loop variable"
        skip name.length
        skipLines
        let ws ← if (← literal) == "in" then do
            skip 2
            let ws ← words depth
            skipBlanks
            if (← peek) != some ';' && (← peek) != some '\n' then unexpected none
            pure ws
          else pure [[Piece.value true .arguments]]
        skipBlanks
        if (← peek) == some ';' then skip 1
        finish (.forEach name ws (← loopBody depth))
      else if key == "while" || key == "until" then
        skip 5
        let test ← body depth
        finish (.repeated (key == "until") test (← loopBody depth))
      else if key == "case" then
        skip 4
        skipBlanks
        let w ← word depth []
        if w.isEmpty then missingWord
        expectWord "in"
        finish (.choose w (← arms depth))
      else if closers.contains key then unexpected none
      else
        match definedLength key (← ahead) with
        | some n =>
          skip n
          skipLines
          return .define key (← command depth)
        | none => simple depth { line }

/-- Commands joined by bars. -/
def pipeline : (depth : Nat) → Reading Command
  | 0 => tooDeep
  | depth + 1 => do
    skipBlanks
    if (← literal) == "!" then
      skip 1
      return .negated (← pipeline depth)
    else
      let c ← command depth
      skipBlanks
      match ← ahead with
      | '|' :: '|' :: _ => return c
      | '|' :: _ =>
        skip 1
        skipLines
        return .pipe c (← pipeline depth)
      | _ => return c

/-- What is joined to a pipeline by `&&` and `||`, from the left. -/
def joined : (depth : Nat) → Command → Reading Command
  | 0, _ => tooDeep
  | depth + 1, left => do
    skipBlanks
    match ← ahead with
    | '&' :: '&' :: _ =>
      skip 2
      skipLines
      joined depth (.onSuccess left (← pipeline depth))
    | '|' :: '|' :: _ =>
      skip 2
      skipLines
      joined depth (.onFailure left (← pipeline depth))
    | _ => return left

/-- Commands one after the other, up to what closes them. -/
def list : (depth : Nat) → Reading Command
  | 0 => tooDeep
  | depth + 1 => do
    skipLines
    match ← ahead with
    | [] => return .nothing
    | ')' :: _ => return .nothing
    | ';' :: ';' :: _ => return .nothing
    | _ =>
      if closers.contains (← literal) then return .nothing
      else
        let c ← joined depth (← pipeline depth)
        skipBlanks
        match ← ahead with
        | ';' :: ';' :: _ => return c
        | ';' :: _ =>
          skip 1
          return c.followedBy (← list depth)
        | '&' :: _ =>
          skip 1
          return c.followedBy (← list depth)
        | '\n' :: _ => return c.followedBy (← list depth)
        | _ => return c

end

/-- The commands of one line, which goes on where a command does. -/
def commandLine : (depth : Nat) → Reading Command
  | 0 => tooDeep
  | depth + 1 => do
    let c ← joined depth (← pipeline depth)
    skipBlanks
    match ← ahead with
    | [] => return c
    | '\n' :: _ =>
      skip 1
      return c
    | ';' :: ';' :: _ => unexpected none
    | s :: _ =>
      if s == ';' || s == '&' then
        skip 1
        skipBlanks
        match ← peek with
        | none => return c
        | some '\n' =>
          skip 1
          return c
        | some _ => return c.followedBy (← commandLine depth)
      else unexpected none

end Reading

/-- Reads the lines of a script up to the first that is wrong; there are at most `lines`. -/
def Script.readLines (depth : Nat) : (lines : Nat) → Source → Script
  | 0, _ => ⟨[], none⟩
  | lines + 1, source =>
    match (Reading.skipLines *> Reading.ahead) source with
    | .error _ _ => ⟨[], none⟩
    | .ok [] _ => ⟨[], none⟩
    | .ok (_ :: _) begun =>
      match Reading.commandLine depth begun with
      | .error e stopped => ⟨[], some (stopped.line, e)⟩
      | .ok c rest =>
        let script := readLines depth lines rest
        { script with commands := c :: script.commands }

/-- Reads a script. Each nesting takes a few calls and at least one character. -/
def Script.ofBytes (bs : Bytes) : Script :=
  readLines (8 * (bs.length + 2)) (bs.length + 1) { rest := Text.Latin.chars bs }

end TemplatePress.Shell
