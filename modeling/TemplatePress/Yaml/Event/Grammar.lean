import TemplatePress.Yaml.Event
import TemplatePress.Yaml.Token.Lexer

/-!
# From tokens to events

A stack says what is expected next. Each step looks at the next token, yields one event, and puts
what has to follow onto the stack; the document is complete when the stack is empty.

* A node that is missing where one may be missing is an empty scalar.
* A sequence that is the value of a key in a block needs no deeper column.
* In brackets a pair alone is a mapping with one entry.
-/

namespace TemplatePress.Yaml

/-- What is expected next. -/
inductive Expected where
  /-- The node of a document. -/
  | root
  /-- The node of a document after its mark, or nothing. -/
  | content
  /-- An entry of a block sequence, or its end. The place is where the sequence began, here and
      below. -/
  | blockEntry (began : Mark)
  /-- An entry of a sequence in the column of the mapping around it, or its end. -/
  | indentlessEntry
  | blockKey (began : Mark)
  | blockValue (began : Mark)
  | flowEntry (began : Mark) (first : Bool)
  | flowKey (began : Mark) (first : Bool)
  | flowValue (began : Mark)
  /-- The value of a key in brackets that has none. -/
  | noFlowValue (began : Mark)
  /-- The key of a pair in a bracketed sequence. -/
  | pairKey
  | pairValue
  | pairEnd
  deriving DecidableEq

/-- The state of reading events. -/
structure Grammar where
  lexer : Lexer
  /-- What tag handles stand for in this document. -/
  handles : List (String × Bytes) := []
  /-- What is expected, next first. -/
  stack : List Expected := []

/-- Reads events, or fails. -/
abbrev Parse := EStateM SyntaxError Grammar

namespace Grammar

/-- Uses the tokens. -/
def lex {α : Type} (act : Lex α) : Parse α := fun g =>
  match act g.lexer with
  | .ok a lexer => .ok a { g with lexer }
  | .error e lexer => .error e { g with lexer }

def peek : Parse Token := lex Lexer.peek

def take : Parse Unit := lex Lexer.take

/-- Takes a token and looks at the one after it. -/
def takePeek : Parse Token := do
  take
  peek

/-- Puts what has to follow onto the stack. -/
def push (expected : List Expected) : Parse Unit :=
  modify fun g => { g with stack := expected ++ g.stack }

/-- Notices a problem at a token. -/
def fail {α : Type} (problem : Problem) (token : Token) (reading : Option (Reading × Mark)) :
    Parse α := fun g => .error (.noticed problem token.start reading) g

/-! ## 1. Directives -/

/-- What tag handles stand for without a directive. -/
def defaultHandles : List (String × Bytes) :=
  [("!", Text.Utf8.bytes "!"), ("!!", Text.Utf8.bytes "tag:yaml.org,2002:")]

/-- Adds the handles that no directive has set. -/
def withDefaults (handles : List (String × Bytes)) : List (String × Bytes) :=
  defaultHandles.foldl (fun known h =>
    if known.any (·.1 == h.1) then known else known ++ [h]) handles

def isDirective : TokenKind → Bool
  | .versionDirective _ _ => true
  | .tagDirective _ _ => true
  | _ => false

/-- Takes directives, one in each round. At most one gives the version, which is 1.1 or 1.2. -/
def readDirectives : (rounds : Nat) → (versioned : Bool) → List (String × Bytes) →
    Parse (List (String × Bytes))
  | 0, _, handles => return handles
  | rounds + 1, versioned, handles => do
    let token ← peek
    match token.kind with
    | .versionDirective major minor => do
      if versioned then fail .repeatedVersion token none
      if !(major == 1 && (minor == 1 || minor == 2)) then fail .incompatibleVersion token none
      take
      readDirectives rounds true handles
    | .tagDirective handle start => do
      if handles.any (·.1 == handle) then fail .repeatedHandle token none
      take
      readDirectives rounds versioned (handles ++ [(handle, start)])
    | _ => return handles

/-! ## 2. Nodes -/

/-- The name and the tag in front of a node. -/
structure Properties where
  anchor : Option String := none
  /-- A handle, a suffix, and where the tag stands. -/
  tag : Option (String × Bytes × Mark) := none

/-- Reads a name and a tag in either order, at most one of each, and returns the token after
    them. -/
def readProperties : Parse (Properties × Token) := do
  let first ← peek
  match first.kind with
  | .anchor name => do
    let second ← takePeek
    match second.kind with
    | .tag handle suffix => do
      let third ← takePeek
      return (⟨some name, some (handle, suffix, second.start)⟩, third)
    | _ => return (⟨some name, none⟩, second)
  | .tag handle suffix => do
    let second ← takePeek
    match second.kind with
    | .anchor name => do
      let third ← takePeek
      return (⟨some name, some (handle, suffix, first.start)⟩, third)
    | _ => return (⟨none, some (handle, suffix, first.start)⟩, second)
  | _ => return ({}, first)

/-- The whole tag: what its handle stands for, and its suffix. -/
def readTag (start : Mark) : Option (String × Bytes × Mark) → Parse (Option Bytes)
  | none => return none
  | some ("", suffix, _) => return some suffix
  | some (handle, suffix, place) => do
    let g ← get
    match g.handles.find? (·.1 == handle) with
    | some (_, stands) => return some (stands ++ suffix)
    | none => fun g => .error (.noticed .undefinedHandle place (some (.node, start))) g

/-- Yields the event of a node, with its name and tag. `block` allows block structure, and
    `indentless` a sequence in the column of the mapping around it. -/
def readNode (block indentless : Bool) : Parse (Event String) := do
  let first ← peek
  match first.kind with
  | .alias name => do
    take
    return ⟨.alias name, first.start⟩
  | _ => do
    let (properties, token) ← readProperties
    let start := first.start
    let anchor := properties.anchor
    let tag ← readTag start properties.tag
    match token.kind with
    | .scalar text style => do
      take
      return ⟨.scalar anchor tag text style, start⟩
    | .flowSequenceStart => do
      take
      push [.flowEntry token.start true]
      return ⟨.sequenceStart anchor, start⟩
    | .flowMappingStart => do
      take
      push [.flowKey token.start true]
      return ⟨.mappingStart anchor, start⟩
    | kind => do
      if indentless && kind = .blockEntry then
        push [.indentlessEntry]
        return ⟨.sequenceStart anchor, start⟩
      else if block && kind = .blockSequenceStart then
        take
        push [.blockEntry token.start]
        return ⟨.sequenceStart anchor, start⟩
      else if block && kind = .blockMappingStart then
        take
        push [.blockKey token.start]
        return ⟨.mappingStart anchor, start⟩
      else if anchor.isSome || tag.isSome then return ⟨.scalar anchor tag "" .plain, start⟩
      else fail .noContent token (some (if block then .blockNode else .flowNode, start))

/-! ## 3. Steps -/

/-- Whether a token ends a document without a node. -/
def endsContent (k : TokenKind) : Bool :=
  isDirective k || k = .documentStart || k = .documentEnd || k = .streamEnd

/-- Whether a token goes on with a block mapping or ends it. -/
def continuesMapping : TokenKind → Bool
  | .key => true
  | .value => true
  | .blockEnd => true
  | _ => false

/-- Takes the mark of an entry of a block and yields its node, or an empty scalar if one of `empty`
    follows. -/
def readAfterMark (mark : Token) (empty : TokenKind → Bool) (indentless : Bool)
    (next : Expected) : Parse (Event String) := do
  let token ← takePeek
  push [next]
  if empty token.kind then return Event.missing mark.stop
  else readNode true indentless

def stepBlockEntry (began : Mark) : Parse (Event String) := do
  let token ← peek
  match token.kind with
  | .blockEntry =>
    readAfterMark token (fun k => k = .blockEntry || k = .blockEnd) false (.blockEntry began)
  | .blockEnd => do
    take
    return ⟨.sequenceEnd, token.start⟩
  | _ => fail .noHyphen token (some (.blockCollection, began))

def stepIndentlessEntry : Parse (Event String) := do
  let token ← peek
  match token.kind with
  | .blockEntry =>
    readAfterMark token (fun k => k = .blockEntry || continuesMapping k) false .indentlessEntry
  | _ => return ⟨.sequenceEnd, token.start⟩

def stepBlockKey (began : Mark) : Parse (Event String) := do
  let token ← peek
  match token.kind with
  | .key => readAfterMark token continuesMapping true (.blockValue began)
  | .blockEnd => do
    take
    return ⟨.mappingEnd, token.start⟩
  | _ => fail .noKey token (some (.blockMapping, began))

def stepBlockValue (began : Mark) : Parse (Event String) := do
  let token ← peek
  match token.kind with
  | .value => readAfterMark token continuesMapping true (.blockKey began)
  | _ => do
    push [.blockKey began]
    return Event.missing token.start

/-- Ends a bracketed collection. -/
def endFlow (kind : EventKind String) (token : Token) : Parse (Event String) := do
  take
  return ⟨kind, token.start⟩

/-- Takes the comma before an entry that is not the first. -/
def readComma (first : Bool) (token : Token) (problem : Problem) (reading : Reading)
    (began : Mark) : Parse Token := do
  if first then return token
  else if token.kind = .flowEntry then takePeek
  else fail problem token (some (reading, began))

def stepFlowEntry (began : Mark) (first : Bool) : Parse (Event String) := do
  let token ← peek
  if token.kind = .flowSequenceEnd then endFlow .sequenceEnd token
  else do
    let token ← readComma first token .noCommaOrBracket .flowSequence began
    if token.kind = .key then
      take
      push [.pairKey, .flowEntry began false]
      return ⟨.mappingStart none, token.start⟩
    else if token.kind = .flowSequenceEnd then endFlow .sequenceEnd token
    else do
      push [.flowEntry began false]
      readNode false false

/-- Whether a token ends an entry of a bracketed sequence. -/
def endsFlowEntry (k : TokenKind) : Bool :=
  k = .flowEntry || k = .flowSequenceEnd

/-- Whether a token ends an entry of a bracketed mapping. -/
def endsFlowPair (k : TokenKind) : Bool :=
  k = .flowEntry || k = .flowMappingEnd

/-- A pair without a key takes the token behind the question mark for it. -/
def stepPairKey : Parse (Event String) := do
  let token ← peek
  push [.pairValue]
  if token.kind = .value || endsFlowEntry token.kind then
    take
    return Event.missing token.stop
  else readNode false false

/-- Yields the value behind a colon, or an empty scalar. -/
def readFlowValue (ends : TokenKind → Bool) : Parse (Event String) := do
  let token ← peek
  if token.kind = .value then
    let token ← takePeek
    if ends token.kind then return Event.missing token.start
    else readNode false false
  else return Event.missing token.start

def stepPairEnd : Parse (Event String) := do
  let token ← peek
  return ⟨.mappingEnd, token.start⟩

def stepFlowKey (began : Mark) (first : Bool) : Parse (Event String) := do
  let token ← peek
  if token.kind = .flowMappingEnd then endFlow .mappingEnd token
  else do
    let token ← readComma first token .noCommaOrBrace .flowMapping began
    if token.kind = .key then
      let token ← takePeek
      push [.flowValue began]
      if token.kind = .value || endsFlowPair token.kind then return Event.missing token.start
      else readNode false false
    else if token.kind = .flowMappingEnd then endFlow .mappingEnd token
    else do
      push [.noFlowValue began]
      readNode false false

/-- Yields the next event of what is expected. -/
def step : Expected → Parse (Event String)
  | .root => readNode true false
  | .content => do
    let token ← peek
    if endsContent token.kind then return Event.missing token.start
    else readNode true false
  | .blockEntry began => stepBlockEntry began
  | .indentlessEntry => stepIndentlessEntry
  | .blockKey began => stepBlockKey began
  | .blockValue began => stepBlockValue began
  | .flowEntry began first => stepFlowEntry began first
  | .pairKey => stepPairKey
  | .pairValue => do
    push [.pairEnd]
    readFlowValue endsFlowEntry
  | .pairEnd => stepPairEnd
  | .flowKey began first => stepFlowKey began first
  | .flowValue began => do
    push [.flowKey began false]
    readFlowValue endsFlowPair
  | .noFlowValue began => do
    let token ← peek
    push [.flowKey began false]
    return Event.missing token.start

/-! ## 4. Documents -/

/-- Begins the first document. Yields nothing, or the place where the input ends without one. -/
def beginDocument : Parse (Option Mark) := do
  let _ ← peek
  let token ← takePeek
  if token.kind = .streamEnd then return some token.start
  else do
    let l := (← get).lexer
    let handles ← readDirectives (l.size + 1) false []
    modify fun g => { g with handles := withDefaults handles }
    let next ← peek
    if next.kind = .documentStart then
      take
      push [.content]
    else if isDirective token.kind then fail .noDocumentStart next none
    else push [.root]
    return none

/-- The events of a document, after those in `seen`, which stand in reverse, and the error that ended
    them. Each token makes four events at most, and a character four tokens. -/
def readEvents (g : Grammar) (rounds : Nat) (seen : List (Event String)) :
    List (Event String) × Option SyntaxError × Grammar :=
  match rounds, g.stack with
  | 0, _ => (seen.reverse, none, g)
  | _, [] => (seen.reverse, none, g)
  | rounds + 1, expected :: stack =>
    match step expected { g with stack } with
    | .ok event g' => readEvents g' rounds (event :: seen)
    | .error e g' => (seen.reverse, some e, g')

/-- Takes the mark at the end of a document, if there is one. -/
def endDocument : Parse Unit := do
  let token ← peek
  if token.kind = .documentEnd then take

/-- Whether the input ends here, up to marks at the end of documents, one in each round. -/
def isAtEnd (g : Grammar) : (rounds : Nat) → Bool
  | 0 => false
  | rounds + 1 =>
    match peek g with
    | .error _ _ => false
    | .ok token g' =>
      if token.kind = .documentEnd then
        match take g' with
        | .ok () g'' => isAtEnd g'' rounds
        | .error _ _ => false
      else token.kind = .streamEnd

end Grammar

end TemplatePress.Yaml
