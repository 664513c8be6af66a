import TemplatePress.Yaml.Token
import TemplatePress.Yaml.Token.Tag

/-!
# Directives

A line that begins with a percent sign: the version of the language, or a handle for tags.
-/

namespace TemplatePress.Yaml.Scan

/-- Reads the name of a directive. -/
def readDirectiveName (start : Mark) : Scan String := do
  let name ← readWhile isWordChar
  if name.isEmpty then fail .noDirectiveName .directive start
  if !atSpace (← peek) then fail .badDirectiveName .directive start
  return String.ofList name

/-- Reads the numbers of a version. -/
def readVersion (start : Mark) : Scan TokenKind := do
  skipBlanks
  let major ← readVersionNumber start
  match ← peek with
  | '.' :: _ => do
    skip 1
    let minor ← readVersionNumber start
    return .versionDirective major minor
  | _ => fail .noVersionDot .versionDirective start

/-- Whether a space or tab comes next. -/
def atTagSeparator : List Char → Bool
  | [] => false
  | c :: _ => isBlank c

/-- Reads a handle and what it stands for. -/
def readTagDirective (start : Mark) : Scan TokenKind := do
  skipBlanks
  let handle ← readTagHandle .directive start
  need 1
  if !atTagSeparator (← peek) then fail .noWhitespace .tagDirective start
  skipBlanks
  let uri ← readTagUri true .directive [] start
  need 1
  if !atSpace (← peek) then fail .noWhitespaceOrBreak .tagDirective start
  return .tagDirective (String.ofList handle) uri

/-- Reads the directive that comes next, with the rest of its line. -/
def readDirective : Scan Token := do
  let start ← place
  skip 1
  let name ← readDirectiveName start
  let kind ←
    if name = "YAML" then readVersion start
    else if name = "TAG" then readTagDirective start
    else fail .unknownDirective .directive start
  let stop ← place
  skipBlanks
  skipComment
  if !atBreak (← peek) then fail .noCommentOrBreak .directive start
  let _ ← readBreak
  return ⟨kind, start, stop⟩

end TemplatePress.Yaml.Scan
