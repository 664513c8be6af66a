import TemplatePress.Yaml.Input

/-!
# Block scalars

A bar or an angle bracket is followed by indented lines. A header may fix the indentation and says
what becomes of the line breaks at the end. Behind a bar lines stay as they are; behind an angle
bracket two lines that begin with a word are joined by a space.
-/

namespace TemplatePress.Yaml.Block

/-- What becomes of the line breaks at the end. -/
inductive Chomping where
  /-- One stays. -/
  | clip
  /-- None stays. -/
  | strip
  /-- All stay. -/
  | keep
  deriving DecidableEq

/-- The header of a block scalar. -/
structure Header where
  chomping : Chomping := .clip
  /-- By how many columns the lines are indented, when the header says so. -/
  increment : Option Nat := none

/-- The line breaks between two lines with content, and the space before the second. -/
structure Breaks where
  text : List Char
  /-- The deepest column that was reached. -/
  deepest : Nat
  rest : List Char
  mark : Mark
  /-- Where the last line break ends. -/
  stop : Mark

/-- A chomping indicator. -/
def chomping? : Char → Option Chomping
  | '+' => some .keep
  | '-' => some .strip
  | _ => none

/-- Reads a chomping indicator, if one comes next. -/
def readChomping : Scan (Option Chomping) := do
  match ← Scan.peek with
  | c :: _ =>
    match chomping? c with
    | some k => do
      Scan.skip 1
      return some k
    | none => return none
  | [] => return none

/-- Reads an indentation indicator, if one comes next. -/
def readIncrement (start : Mark) : Scan (Option Nat) := do
  match ← Scan.peek with
  | '0' :: _ => Scan.fail .zeroIndentation .blockScalar start
  | c :: _ =>
    if c.isDigit then
      Scan.skip 1
      return some (c.toNat - '0'.toNat)
    else return none
  | [] => return none

/-- Reads the two indicators in either order. -/
def readHeader (start : Mark) : Scan Header := do
  Scan.need 1
  match ← readChomping with
  | some chomping =>
    Scan.need 1
    let increment ← readIncrement start
    return { chomping, increment }
  | none =>
    match ← readIncrement start with
    | some increment =>
      Scan.need 1
      let chomping ← readChomping
      return { chomping := chomping.getD .clip, increment := some increment }
    | none => return {}

/-- Whether a space or tab in this column belongs to the indentation. -/
def inIndentation (indentation : Option Nat) (column : Nat) : Bool :=
  indentation.all fun n => column < n

/-- Reads indentation and empty lines. -/
def scanBreaks (indentation : Option Nat) (start : Mark) (unreadable : Option Nat) :
    (rest : List Char) → Mark → (deepest : Nat) → (seen : List Char) → (stop : Mark) →
    Except SyntaxError Breaks
  | [], mark, deepest, seen, stop =>
    match unreadable with
    | some offset => .error (.unreadable offset)
    | none => .ok ⟨seen.reverse, max deepest mark.column, [], mark, stop⟩
  | '\r' :: '\n' :: rest, mark, deepest, seen, _ =>
    scanBreaks indentation start unreadable rest (mark.newLine 2) (max deepest mark.column)
      ('\n' :: seen) (mark.newLine 2)
  | c :: rest, mark, deepest, seen, stop =>
    if c == ' ' && inIndentation indentation mark.column then
      scanBreaks indentation start unreadable rest (mark.behind c) deepest seen stop
    else if c == '\t' && inIndentation indentation mark.column then
      .error (.noticed .tabAsIndentation mark (some (.blockScalar, start)))
    else if isBreak c then
      scanBreaks indentation start unreadable rest (mark.newLine c.utf8Size) (max deepest mark.column)
        (brokenLine c :: seen) (mark.newLine c.utf8Size)
    else .ok ⟨seen.reverse, max deepest mark.column, c :: rest, mark, stop⟩

/-- Reads indentation and empty lines, and where they end. -/
def readBreaks (indentation : Option Nat) (start : Mark) : Scan Breaks := fun i =>
  match scanBreaks indentation start i.unreadable i.rest i.mark 0 [] i.mark with
  | .error e => .error e i
  | .ok b => .ok b { i with rest := b.rest, mark := b.mark }

/-- Whether a block scalar is folded, and the column of its lines. -/
structure Shape where
  folded : Bool
  column : Nat
  start : Mark

/-- What was read of the content: the lines so far, the break of the last line, whether that line
    begins with a space, the breaks after it, and where they end. -/
structure Content where
  text : List Char
  lineBreak : List Char
  blankLine : Bool
  breaks : List Char
  stop : Mark

/-- What stands between the content so far and a line that begins with a space or not. -/
def Content.joint (c : Content) (folded blankLine : Bool) : List Char :=
  if folded && c.lineBreak.head? == some '\n' && !c.blankLine && !blankLine then
    if c.breaks.isEmpty then [' '] else c.breaks
  else c.lineBreak ++ c.breaks

/-- Whether a space or tab comes next. -/
def atBlank : List Char → Bool
  | [] => false
  | c :: _ => isBlank c

/-- Reads lines as long as they stand in the column of the scalar. Each takes a character, so as
    many rounds as there are characters are enough. -/
def readLines (shape : Shape) : (rounds : Nat) → Content → Scan Content
  | 0, content => return content
  | rounds + 1, content => do
    let i ← get
    if i.rest.isEmpty || i.mark.column != shape.column then return content
    let blankLine := atBlank i.rest
    let line ← Scan.readWhile fun c => !isBreak c
    let lineBreak ← Scan.readBreak
    let b ← readBreaks (some shape.column) shape.start
    readLines shape rounds
      { text := content.text ++ content.joint shape.folded blankLine ++ line,
        lineBreak, blankLine, breaks := b.text, stop := b.stop }

/-- The text that the content leaves. -/
def Content.chomped (c : Content) : Chomping → List Char
  | .strip => c.text
  | .clip => c.text ++ c.lineBreak
  | .keep => c.text ++ c.lineBreak ++ c.breaks

/-- Reads a block scalar in a block whose column is `outer`. The indicator comes next. -/
def read (folded : Bool) (outer : Option Nat) : Scan (String × Mark) := do
  let start ← Scan.place
  Scan.skip 1
  let header ← readHeader start
  Scan.skipBlanks
  Scan.skipComment
  if !atBreak (← Scan.peek) then Scan.fail .noCommentOrBreak .blockScalar start
  let _ ← Scan.readBreak
  let fixed := header.increment.map fun n => outer.elim n (· + n)
  let b ← readBreaks fixed start
  let column := fixed.getD (max b.deepest (outer.elim 1 (· + 1)))
  let i ← get
  let content ← readLines ⟨folded, column, start⟩ i.rest.length
    { text := [], lineBreak := [], blankLine := false, breaks := b.text, stop := b.stop }
  return (String.ofList (content.chomped header.chomping), content.stop)

end TemplatePress.Yaml.Block
