/-!
# Errors of syntax

Where something stands in a document, and what can be wrong with its syntax. An error names its
problem and the place where it was noticed and, where that helps, what was being read and where that
began.
-/

namespace TemplatePress.Yaml

/-- A place in a document: how many bytes and lines come before it, and how many characters before
    it in its line. -/
structure Mark where
  index : Nat := 0
  line : Nat := 0
  column : Nat := 0
  deriving DecidableEq

namespace Mark

/-- The place behind a character of the same line. -/
def behind (m : Mark) (c : Char) : Mark :=
  ⟨m.index + c.utf8Size, m.line, m.column + 1⟩

/-- The place `n` ASCII characters later in the same line. -/
def advance (m : Mark) (n : Nat) : Mark :=
  ⟨m.index + n, m.line, m.column + n⟩

/-- The beginning of the next line, after a line break of `n` bytes. -/
def newLine (m : Mark) (n : Nat) : Mark :=
  ⟨m.index + n, m.line + 1, 0⟩

/-- The very beginning, which messages do not name. -/
def isOrigin (m : Mark) : Bool :=
  m.line == 0 && m.column == 0

/-- A place as messages name it. -/
def text (m : Mark) : String :=
  "line " ++ toString (m.line + 1) ++ " column " ++ toString (m.column + 1)

/-- ` at` and the place, or nothing for the beginning. -/
def suffix (m : Mark) : String :=
  if m.isOrigin then "" else " at " ++ m.text

/-- Whether two places are in one line and column. -/
def samePlace (a b : Mark) : Bool :=
  a.line == b.line && a.column == b.column

end Mark

/-- What was being read when a problem was noticed. -/
inductive Reading where
  | simpleKey
  | nextToken
  | directive
  | versionDirective
  | tagDirective
  | tagDirectiveHandle
  | tagDirectiveHandleEnd
  | tagDirectiveUri
  | tag
  | tagUri
  | anchor
  | alias
  | blockScalar
  | quotedScalar
  | escape
  | plainScalar
  | node
  | blockNode
  | flowNode
  | blockCollection
  | blockMapping
  | flowSequence
  | flowMapping
  deriving DecidableEq

def Reading.text : Reading → String
  | .simpleKey => "while scanning a simple key"
  | .nextToken => "while scanning for the next token"
  | .directive => "while scanning a directive"
  | .versionDirective => "while scanning a %YAML directive"
  | .tagDirective => "while scanning a %TAG directive"
  | .tagDirectiveHandle => "while scanning a tag directive"
  | .tagDirectiveHandleEnd => "while parsing a tag directive"
  | .tagDirectiveUri => "while parsing a %TAG directive"
  | .tag => "while scanning a tag"
  | .tagUri => "while parsing a tag"
  | .anchor => "while scanning an anchor"
  | .alias => "while scanning an alias"
  | .blockScalar => "while scanning a block scalar"
  | .quotedScalar => "while scanning a quoted scalar"
  | .escape => "while parsing a quoted scalar"
  | .plainScalar => "while scanning a plain scalar"
  | .node => "while parsing a node"
  | .blockNode => "while parsing a block node"
  | .flowNode => "while parsing a flow node"
  | .blockCollection => "while parsing a block collection"
  | .blockMapping => "while parsing a block mapping"
  | .flowSequence => "while parsing a flow sequence"
  | .flowMapping => "while parsing a flow mapping"

/-- What is wrong. -/
inductive Problem where
  | missingColon
  | noToken
  | misplacedEntry
  | misplacedKey
  | misplacedValue
  | unknownDirective
  | noDirectiveName
  | badDirectiveName
  | noVersion
  | noVersionDot
  | longVersion
  | noCommentOrBreak
  | noWhitespace
  | noWhitespaceOrBreak
  | noExclamation
  | noTagUri
  | noTagEnd
  | badUriEscape
  | badLeadingOctet
  | badTrailingOctet
  | noAnchorName
  | zeroIndentation
  | tabAsIndentation
  | documentMarkInScalar
  | endInScalar
  | unknownEscape
  | noHexDigits
  | badCodePoint
  | colonInFlow
  | tabBreaksIndentation
  | noDocumentStart
  | undefinedHandle
  | noContent
  | noHyphen
  | noKey
  | noCommaOrBracket
  | noCommaOrBrace
  | repeatedVersion
  | incompatibleVersion
  | repeatedHandle
  deriving DecidableEq

def Problem.text : Problem → String
  | .missingColon => "could not find expected ':'"
  | .noToken => "found character that cannot start any token"
  | .misplacedEntry => "block sequence entries are not allowed in this context"
  | .misplacedKey => "mapping keys are not allowed in this context"
  | .misplacedValue => "mapping values are not allowed in this context"
  | .unknownDirective => "found unknown directive name"
  | .noDirectiveName => "could not find expected directive name"
  | .badDirectiveName => "found unexpected non-alphabetical character"
  | .noVersion => "did not find expected version number"
  | .noVersionDot => "did not find expected digit or '.' character"
  | .longVersion => "found extremely long version number"
  | .noCommentOrBreak => "did not find expected comment or line break"
  | .noWhitespace => "did not find expected whitespace"
  | .noWhitespaceOrBreak => "did not find expected whitespace or line break"
  | .noExclamation => "did not find expected '!'"
  | .noTagUri => "did not find expected tag URI"
  | .noTagEnd => "did not find the expected '>'"
  | .badUriEscape => "did not find URI escaped octet"
  | .badLeadingOctet => "found an incorrect leading UTF-8 octet"
  | .badTrailingOctet => "found an incorrect trailing UTF-8 octet"
  | .noAnchorName => "did not find expected alphabetic or numeric character"
  | .zeroIndentation => "found an indentation indicator equal to 0"
  | .tabAsIndentation => "found a tab character where an indentation space is expected"
  | .documentMarkInScalar => "found unexpected document indicator"
  | .endInScalar => "found unexpected end of stream"
  | .unknownEscape => "found unknown escape character"
  | .noHexDigits => "did not find expected hexdecimal number"
  | .badCodePoint => "found invalid Unicode character escape code"
  | .colonInFlow => "found unexpected ':'"
  | .tabBreaksIndentation => "found a tab character that violates indentation"
  | .noDocumentStart => "did not find expected <document start>"
  | .undefinedHandle => "found undefined tag handle"
  | .noContent => "did not find expected node content"
  | .noHyphen => "did not find expected '-' indicator"
  | .noKey => "did not find expected key"
  | .noCommaOrBracket => "did not find expected ',' or ']'"
  | .noCommaOrBrace => "did not find expected ',' or '\x7d'"
  | .repeatedVersion => "found duplicate %YAML directive"
  | .incompatibleVersion => "found incompatible YAML document"
  | .repeatedHandle => "found duplicate %TAG directive"

/-- Why the syntax of a document could not be read. -/
inductive SyntaxError where
  /-- A character that no document may hold stands `offset` bytes into it. -/
  | unreadable (offset : Nat)
  /-- A problem, where it was noticed, and what was being read since when. -/
  | noticed (problem : Problem) (place : Mark) (reading : Option (Reading × Mark))
  deriving DecidableEq

/-- Where the reading of something began, unless that is the beginning or where the problem is. -/
def Reading.beginning (began noticed : Mark) : String :=
  if began.samePlace noticed then "" else began.suffix

def SyntaxError.message : SyntaxError → String
  | .unreadable 0 => "control characters are not allowed"
  | .unreadable offset => "control characters are not allowed at position " ++ toString offset
  | .noticed problem place none => problem.text ++ place.suffix
  | .noticed problem place (some (reading, began)) =>
    problem.text ++ place.suffix ++ ", " ++ reading.text ++ Reading.beginning began place

end TemplatePress.Yaml
