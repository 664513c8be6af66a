import TemplatePress.Text.Utf8
import TemplatePress.Yaml.Input

/-!
# Tags, anchors and directives

The words that begin with `!`, `&`, `*` and, at the beginning of a line, `%`. A tag is a handle and a
suffix, in which a percent sign gives a byte by two digits; a zero byte ends it.
-/

namespace TemplatePress.Yaml

/-- Whether a tag is read for a node or in a `%TAG` directive. -/
inductive TagUse where
  | node
  | directive
  deriving DecidableEq

namespace TagUse

def handle : TagUse → Reading
  | .node => .tag
  | .directive => .tagDirectiveHandle

def uri : TagUse → Reading
  | .node => .tagUri
  | .directive => .tagDirectiveUri

end TagUse

/-- The byte that a percent sign and two digits give. -/
def escapedByte? : List Char → Option UInt8
  | '%' :: a :: b :: _ =>
    match hexValue? a, hexValue? b with
    | some x, some y => some (UInt8.ofNat (x * 16 + y))
    | _, _ => none
  | _ => none

/-- How many bytes the character begun by a byte has, as far as its lead tells. -/
def announcedBytes? (lead : UInt8) : Option Nat :=
  if lead < 0x80 then some 1
  else if lead < 0xC0 then none
  else if lead < 0xE0 then some 2
  else if lead < 0xF0 then some 3
  else if lead < 0xF8 then some 4
  else none

namespace Scan

/-- Reads one byte that a percent sign gives. -/
def readEscapedByte (use : TagUse) (start : Mark) : Scan UInt8 := do
  need 3
  match escapedByte? (← peek) with
  | none => fail .badUriEscape use.uri start
  | some b => return b

/-- Reads the further bytes of a character. -/
def readTrailingBytes (use : TagUse) (start : Mark) : Nat → Scan Bytes
  | 0 => return []
  | n + 1 => do
    let b ← readEscapedByte use start
    if b &&& 0xC0 != 0x80 then fail .badTrailingOctet use.uri start
    skip 3
    let more ← readTrailingBytes use start n
    return b :: more

/-- Reads a character whose bytes percent signs give. -/
def readEscapedChar (use : TagUse) (start : Mark) : Scan Bytes := do
  let lead ← readEscapedByte use start
  match announcedBytes? lead with
  | none => fail .badLeadingOctet use.uri start
  | some n => do
    skip 3
    let more ← readTrailingBytes use start (n - 1)
    return lead :: more

/-- Reads the characters of a tag. Each round takes one at least. -/
def readTagChars (bracketed : Bool) (use : TagUse) (start : Mark) : (rounds : Nat) → Scan Bytes
  | 0 => return []
  | rounds + 1 => do
    match ← peek with
    | [] => return []
    | c :: _ =>
      if !isTagChar bracketed c then return []
      let bytes ←
        if c == '%' then readEscapedChar use start
        else do
          skip 1
          pure (Text.Utf8.bytes c.toString)
      need 1
      let more ← readTagChars bracketed use start rounds
      return bytes ++ more

/-- Reads the rest of a tag whose first part is `head`; an empty tag is none. -/
def readTagUri (bracketed : Bool) (use : TagUse) (head : List Char) (start : Mark) :
    Scan Bytes := do
  need 1
  let i ← get
  let bytes ← readTagChars bracketed use start i.rest.length
  if head.isEmpty && bytes.isEmpty then fail .noTagUri use.uri start
  return (Text.Utf8.bytes (String.ofList (head.drop 1)) ++ bytes).takeWhile (· != 0)

/-- Reads an exclamation mark, the word behind it and a second mark, as far as they are there. -/
def readTagHandle (use : TagUse) (start : Mark) : Scan (List Char) := do
  need 1
  match ← peek with
  | '!' :: _ => do
    skip 1
    let word ← readWhile isWordChar
    match ← peek with
    | '!' :: _ => do
      skip 1
      return '!' :: (word ++ ['!'])
    | _ => do
      if use = .directive && !word.isEmpty then fail .noExclamation .tagDirectiveHandleEnd start
      return '!' :: word
  | _ => fail .noExclamation use.handle start

/-- Reads a tag between angle brackets. -/
def readBracketedTag (start : Mark) : Scan (String × Bytes) := do
  skip 2
  let suffix ← readTagUri true .node [] start
  match ← peek with
  | '>' :: _ => do
    skip 1
    return ("", suffix)
  | _ => fail .noTagEnd .tag start

/-- Reads a handle and a suffix. What is no handle belongs to the suffix. -/
def readShortTag (start : Mark) : Scan (String × Bytes) := do
  let handle ← readTagHandle .node start
  if 1 < handle.length && handle.getLast? == some '!' then
    let suffix ← readTagUri false .node [] start
    return (String.ofList handle, suffix)
  else
    let suffix ← readTagUri false .node handle start
    if suffix.isEmpty then return ("", Text.Utf8.bytes "!")
    else return ("!", suffix)

/-- Reads the tag that comes next: its handle and its suffix. -/
def readTag (inFlow : Bool) : Scan (String × Bytes) := do
  let start ← place
  need 2
  let tag ←
    match ← peek with
    | _ :: '<' :: _ => readBracketedTag start
    | _ => readShortTag start
  need 1
  let rest ← peek
  if !atSpace rest && !(inFlow && rest.head? == some ',') then
    fail .noWhitespaceOrBreak .tag start
  return tag

/-- Whether the name of an anchor may end before what comes next. -/
def endsAnchor : List Char → Bool
  | [] => true
  | c :: _ => isSpace c || "?:,]%@\x60".toList.contains c || c == '\x7d'

/-- Reads the name behind an ampersand or an asterisk. -/
def readAnchor (reading : Reading) : Scan String := do
  let start ← place
  skip 1
  let name ← readWhile isWordChar
  if name.isEmpty || !endsAnchor (← peek) then fail .noAnchorName reading start
  return String.ofList name

/-- Reads a number of a version, of nine digits at most. -/
def readVersionNumber (start : Mark) : Scan Nat := do
  need 1
  let i ← get
  let digits := i.leading Char.isDigit
  if 9 < digits.length then
    skip 9
    fail .longVersion .versionDirective start
  let word ← readWhile Char.isDigit
  if word.isEmpty then fail .noVersion .versionDirective start
  return word.foldl (fun n c => n * 10 + (c.toNat - '0'.toNat)) 0

end Scan

end TemplatePress.Yaml
