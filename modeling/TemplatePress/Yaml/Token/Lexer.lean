import TemplatePress.Yaml.Token
import TemplatePress.Yaml.Token.Block
import TemplatePress.Yaml.Token.Directive
import TemplatePress.Yaml.Token.Plain
import TemplatePress.Yaml.Token.Quoted

/-!
# Tokens of an input

Tokens are read on demand and wait in a queue until they are taken.

* **Indentation.** The columns of the open blocks form a stack. A deeper column opens a block, a
  shallower one closes blocks. In brackets indentation means nothing.
* **Keys.** That a token begins a key shows only at the colon after it. Until then its place is
  remembered as a `PossibleKey`, and no token from there on may be taken. A key stands in one line
  and has at most 1024 bytes; in a block, what begins at the column of the block has to be a
  key.
-/

namespace TemplatePress.Yaml

/-- A token that begins a key if a colon follows. -/
structure PossibleKey where
  /-- Whether it must be a key. -/
  required : Bool
  /-- How many tokens come before it. -/
  number : Nat
  mark : Mark

/-- Whether the reader has gone too far from a possible key. -/
def PossibleKey.isStale (k : PossibleKey) (here : Mark) : Bool :=
  k.mark.line < here.line || k.mark.index + 1024 < here.index

/-- The state of reading tokens. -/
structure Lexer where
  /-- How many characters the text has. -/
  size : Nat
  input : Input
  started : Bool := false
  ended : Bool := false
  /-- Tokens that were read and not taken, the next one first. -/
  queue : List Token := []
  /-- How many tokens were taken. -/
  taken : Nat := 0
  /-- The possible key in the innermost brackets. -/
  key : Option PossibleKey := none
  /-- The possible keys around each pair of open brackets, the innermost first. -/
  outerKeys : List (Option PossibleKey) := []
  /-- The columns of the open blocks, the innermost first. -/
  columns : List Nat := []
  /-- Whether the next token may begin a key. -/
  keyAllowed : Bool := true

/-- Reads tokens, or fails. -/
abbrev Lex := EStateM SyntaxError Lexer

namespace Lexer

/-- The tokens of a text. -/
def ofText (text : String) : Lexer :=
  let input := Input.ofText text
  { size := input.rest.length, input }

/-- Whether brackets are open. -/
def inFlow (l : Lexer) : Bool :=
  !l.outerKeys.isEmpty

/-- Reads some of the input. -/
def scan {α : Type} (s : Scan α) : Lex α := fun l =>
  match s l.input with
  | .ok a input => .ok a { l with input }
  | .error e input => .error e { l with input }

/-- Puts a token at the end of the queue. -/
def emit (kind : TokenKind) (start stop : Mark) : Lex Unit :=
  modify fun l => { l with queue := l.queue ++ [⟨kind, start, stop⟩] }

/-- Puts a token of no width before the token with a number. -/
def insert (kind : TokenKind) (number : Nat) (mark : Mark) : Lex Unit :=
  modify fun l =>
    let (before, after) := l.queue.splitAt (number - l.taken)
    { l with queue := before ++ ⟨kind, mark, mark⟩ :: after }

/-! ## 1. Keys -/

/-- Notices that a key has no colon. -/
def failKey {α : Type} (k : PossibleKey) : Lex α := fun l =>
  .error (.noticed .missingColon l.input.mark (some (.simpleKey, k.mark))) l

/-- Forgets possible keys that the reader has gone too far from. One that must be a key is an
    error; of several, the outermost. -/
def dropStaleKeys : Lex Unit := do
  let l ← get
  let here := l.input.mark
  let stale (k? : Option PossibleKey) : Option PossibleKey := k?.filter fun k => k.isStale here
  match ((l.key :: l.outerKeys).filterMap stale).reverse.find? PossibleKey.required with
  | some k => failKey k
  | none =>
    let fresh (k? : Option PossibleKey) : Option PossibleKey :=
      k?.filter fun k => !k.isStale here
    set { l with key := fresh l.key, outerKeys := l.outerKeys.map fresh }

/-- Forgets the possible key in the innermost brackets. -/
def dropKey : Lex Unit := do
  let l ← get
  match l.key with
  | some k => do
    if k.required then failKey k
    set { l with key := none }
  | none => pure ()

/-- Remembers that the next token may begin a key. -/
def saveKey : Lex Unit := do
  let l ← get
  if l.keyAllowed then
    dropKey
    modify fun l' => { l' with
      key := some {
        required := !l.inFlow && l.columns.head? == some l.input.mark.column,
        number := l.taken + l.queue.length,
        mark := l.input.mark } }

def allowKey (allowed : Bool) : Lex Unit :=
  modify fun l => { l with keyAllowed := allowed }

/-! ## 2. Blocks -/

/-- Whether a column is deeper than the open blocks. -/
def isDeeper (l : Lexer) (column : Nat) : Bool :=
  match l.columns with
  | [] => true
  | innermost :: _ => innermost < column

/-- Opens a block at a column that is deeper than the open ones. Its token goes before the token
    with a number, or to the end of the queue. -/
def openBlock (kind : TokenKind) (number : Option Nat) (mark : Mark) : Lex Unit := do
  let l ← get
  if !l.inFlow && l.isDeeper mark.column then
    set { l with columns := mark.column :: l.columns }
    match number with
    | some n => insert kind n mark
    | none => emit kind mark mark

/-- The blocks that remain at a column, or at none, and how many are closed. -/
def remaining (column : Option Nat) (columns : List Nat) : List Nat × Nat :=
  let closed := columns.takeWhile fun c => column.all (· < c)
  (columns.drop closed.length, closed.length)

/-- Closes the blocks that are deeper than a column, or all. -/
def closeBlocks (column : Option Nat) : Lex Unit := do
  let l ← get
  if !l.inFlow then
    let (columns, closed) := remaining column l.columns
    let blockEnd : Token := ⟨.blockEnd, l.input.mark, l.input.mark⟩
    set { l with columns, queue := l.queue ++ List.replicate closed blockEnd }

/-! ## 3. The gap before a token -/

/-- Passes over spaces, comments and line breaks, and over a byte order mark that begins a line. A
    line break in a block allows a key, and where a key may begin a tab is no indentation. -/
def gap (inFlow comment keyAllowed : Bool) : List Char → Mark → List Char × Mark × Bool
  | [], mark => ([], mark, keyAllowed)
  | '\r' :: '\n' :: rest, mark => gap inFlow false (keyAllowed || !inFlow) rest (mark.newLine 2)
  | c :: rest, mark =>
    if isBreak c then gap inFlow false (keyAllowed || !inFlow) rest (mark.newLine c.utf8Size)
    else if comment then gap inFlow true keyAllowed rest (mark.behind c)
    else if c == '\ufeff' && mark.column == 0 then
      gap inFlow false keyAllowed rest (mark.behind c)
    else if c == ' ' || (c == '\t' && (inFlow || !keyAllowed)) then
      gap inFlow false keyAllowed rest (mark.advance 1)
    else if c == '#' then gap inFlow true keyAllowed rest (mark.advance 1)
    else (c :: rest, mark, keyAllowed)

/-- Moves to the next token. -/
def skipGap : Lex Unit := do
  let l ← get
  let (rest, mark, keyAllowed) := gap l.inFlow false l.keyAllowed l.input.rest l.input.mark
  set { l with input := { l.input with rest, mark }, keyAllowed }
  scan (Scan.need 1)

/-! ## 4. Tokens -/

/-- Reads `n` characters as a token. -/
def readMark (kind : TokenKind) (n : Nat) : Lex Unit := do
  let start ← scan Scan.place
  scan (Scan.skip n)
  let stop ← scan Scan.place
  emit kind start stop

/-- Notices a problem where the reader stands. -/
def fail {α : Type} (problem : Problem) : Lex α := fun l =>
  .error (.noticed problem l.input.mark none) l

def readStreamStart : Lex Unit := do
  let mark ← scan Scan.place
  modify fun l => { l with started := true }
  emit .streamStart mark mark

/-- The end stands at the beginning of a line. -/
def readStreamEnd : Lex Unit := do
  modify fun l =>
    if l.input.mark.column == 0 then l
    else { l with input := { l.input with mark := l.input.mark.newLine 0 } }
  closeBlocks none
  dropKey
  let mark ← scan Scan.place
  modify fun l => { l with keyAllowed := false, ended := true }
  emit .streamEnd mark mark

def readDirective : Lex Unit := do
  closeBlocks none
  dropKey
  allowKey false
  let token ← scan Scan.readDirective
  emit token.kind token.start token.stop

def readDocumentMark (kind : TokenKind) : Lex Unit := do
  closeBlocks none
  dropKey
  allowKey false
  readMark kind 3

def readFlowStart (kind : TokenKind) : Lex Unit := do
  saveKey
  modify fun l => { l with key := none, outerKeys := l.key :: l.outerKeys, keyAllowed := true }
  readMark kind 1

def readFlowEnd (kind : TokenKind) : Lex Unit := do
  dropKey
  modify fun l =>
    match l.outerKeys with
    | [] => { l with keyAllowed := false }
    | key :: outerKeys => { l with key, outerKeys, keyAllowed := false }
  readMark kind 1

def readFlowEntry : Lex Unit := do
  dropKey
  allowKey true
  readMark .flowEntry 1

def readBlockEntry : Lex Unit := do
  let l ← get
  if !l.inFlow then
    if !l.keyAllowed then fail .misplacedEntry
    openBlock .blockSequenceStart none l.input.mark
  dropKey
  allowKey true
  readMark .blockEntry 1

def readKey : Lex Unit := do
  let l ← get
  if !l.inFlow then
    if !l.keyAllowed then fail .misplacedKey
    openBlock .blockMappingStart none l.input.mark
  dropKey
  allowKey (!l.inFlow)
  readMark .key 1

/-- At a colon the possible key becomes one. Without one the key is empty or was marked. -/
def readValue : Lex Unit := do
  let l ← get
  match l.key with
  | some k => do
    insert .key k.number k.mark
    openBlock .blockMappingStart (some k.number) k.mark
    modify fun l => { l with key := none, keyAllowed := false }
  | none => do
    if !l.inFlow then
      if !l.keyAllowed then fail .misplacedValue
      openBlock .blockMappingStart none l.input.mark
    allowKey (!l.inFlow)
  readMark .value 1

/-- Reads a token that may begin a key and that no key follows in its line. -/
def readContent (s : Scan TokenKind) : Lex Unit := do
  saveKey
  allowKey false
  let start ← scan Scan.place
  let kind ← scan s
  let stop ← scan Scan.place
  emit kind start stop

def readAlias : Lex Unit :=
  readContent (TokenKind.alias <$> Scan.readAnchor .alias)

def readAnchor : Lex Unit :=
  readContent (TokenKind.anchor <$> Scan.readAnchor .anchor)

def readTag : Lex Unit := do
  let l ← get
  readContent do
    let (handle, suffix) ← Scan.readTag l.inFlow
    return .tag handle suffix

def readBlockScalar (folded : Bool) : Lex Unit := do
  dropKey
  allowKey true
  let start ← scan Scan.place
  let l ← get
  let (text, stop) ← scan (Block.read folded l.columns.head?)
  emit (.scalar text (if folded then .folded else .literal)) start stop

def readQuoted (single : Bool) : Lex Unit :=
  readContent fun i =>
    match Quoted.scan ⟨single, i.mark, i.unreadable⟩ (i.rest.drop 1) (i.mark.advance 1) .none [] with
    | .error e => .error e i
    | .ok found =>
      .ok (.scalar (String.ofList found.text) (if single then .singleQuoted else .doubleQuoted))
        { i with rest := found.rest, mark := found.mark }

def readPlain : Lex Unit := do
  saveKey
  allowKey false
  let l ← get
  let i := l.input
  let context : Plain.Context :=
    ⟨l.inFlow, l.columns.head?.elim 0 (· + 1), i.mark, i.unreadable⟩
  match Plain.scan context i.rest i.mark .none [] i.mark with
  | .error e => throw e
  | .ok found => do
    set { l with
      input := { i with rest := found.rest, mark := found.mark },
      keyAllowed := found.broken }
    emit (.scalar (String.ofList found.text) .plain) i.mark found.stop

/-- The characters that begin no plain scalar. -/
def isIndicator (c : Char) : Bool :=
  "-?:,[]#&*!|>'\"%@\x60".toList.contains c || c == '\x7b' || c == '\x7d'

/-- Whether a plain scalar begins here. -/
def startsPlain (inFlow : Bool) : List Char → Bool
  | [] => false
  | c :: rest =>
    !(isSpace c || isIndicator c)
      || (c == '-' && !(rest.head?.any isBlank))
      || (!inFlow && (c == '?' || c == ':') && !atSpace rest)

/-- Reads the token that begins with `c` and goes on in `rest`. -/
def readToken (inFlow atLineStart : Bool) (c : Char) (rest : List Char) : Lex Unit :=
  let separate := inFlow || atSpace rest
  if atLineStart && c == '%' then readDirective
  else if atLineStart && c == '-' && atDocumentMark (c :: rest) then
    readDocumentMark .documentStart
  else if atLineStart && c == '.' && atDocumentMark (c :: rest) then readDocumentMark .documentEnd
  else if c == '[' then readFlowStart .flowSequenceStart
  else if c == '\x7b' then readFlowStart .flowMappingStart
  else if c == ']' then readFlowEnd .flowSequenceEnd
  else if c == '\x7d' then readFlowEnd .flowMappingEnd
  else if c == ',' then readFlowEntry
  else if c == '-' && atSpace rest then readBlockEntry
  else if c == '?' && separate then readKey
  else if c == ':' && separate then readValue
  else if c == '*' then readAlias
  else if c == '&' then readAnchor
  else if c == '!' then readTag
  else if c == '|' && !inFlow then readBlockScalar false
  else if c == '>' && !inFlow then readBlockScalar true
  else if c == '\'' then readQuoted true
  else if c == '"' then readQuoted false
  else if startsPlain inFlow (c :: rest) then readPlain
  else do
    let mark ← scan Scan.place
    scan (Scan.fail .noToken .nextToken mark)

/-- Reads the next token, with the blocks that begin or end there. -/
def readNext : Lex Unit := do
  scan (Scan.need 1)
  let l ← get
  if !l.started then readStreamStart
  else do
    skipGap
    dropStaleKeys
    let l ← get
    closeBlocks (some l.input.mark.column)
    scan (Scan.need 4)
    match l.input.rest with
    | [] => readStreamEnd
    | c :: rest => readToken l.inFlow (l.input.mark.column == 0) c rest

/-! ## 5. Taking tokens -/

/-- Whether the first token in the queue may turn out to begin a key. -/
def isUndecided (l : Lexer) : Bool :=
  (l.key :: l.outerKeys).any fun k? => k?.any fun k => k.number == l.taken

/-- Reads until the first token in the queue is certain. -/
def fill : (rounds : Nat) → Lex Unit
  | 0 => pure ()
  | rounds + 1 => do
    let l ← get
    if l.queue.isEmpty then
      readNext
      fill rounds
    else do
      dropStaleKeys
      let l ← get
      if l.isUndecided && !l.ended then
        readNext
        fill rounds

/-- The next token, which stays. Each round reads a character or the beginning or the end. -/
def peek : Lex Token := do
  let l ← get
  fill (l.size + 3)
  let l ← get
  match l.queue with
  | token :: _ => return token
  | [] => return ⟨.streamEnd, l.input.mark, l.input.mark⟩

/-- Takes the next token from the queue. -/
def take : Lex Unit :=
  modify fun l => { l with queue := l.queue.drop 1, taken := l.taken + 1 }

end Lexer

end TemplatePress.Yaml
