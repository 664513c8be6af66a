import TemplatePress.Yaml.Gap
import TemplatePress.Yaml.Input

/-!
# Plain scalars

A scalar without quotes goes on until something that cannot be part of it: a colon before a space, a
comment, a mark between documents, in a block a line that is not indented, in brackets a bracket or
a comma. White space at its end is read, but does not belong to it.
-/

namespace TemplatePress.Yaml.Plain

/-- What surrounds a plain scalar. -/
structure Context where
  /-- Whether it stands in brackets. -/
  flow : Bool
  /-- Outside brackets, the column that its further lines must reach. -/
  indentation : Nat
  /-- Where it begins. -/
  start : Mark
  /-- See `Input.unreadable`. -/
  unreadable : Option Nat

/-- A plain scalar and what stands behind it. -/
structure Found where
  text : List Char
  /-- Where its last word ends. -/
  stop : Mark
  rest : List Char
  mark : Mark
  /-- Whether a line ends in the white space after it. -/
  broken : Bool

/-- A character that ends a plain scalar in brackets. -/
def isFlowIndicator (c : Char) : Bool :=
  c == ',' || c == '[' || c == ']' || c == '{' || c == '}'

/-- Whether a plain scalar ends before what comes next, which is no white space. -/
def endsBefore (flow : Bool) : List Char → Bool
  | [] => true
  | c :: rest => (c == ':' && atSpace rest) || (flow && isFlowIndicator c)

/-- A colon in brackets, with a bracket, a comma or a question mark right behind it. -/
def isBadColon (flow : Bool) : List Char → Bool
  | ':' :: c :: _ => flow && (isFlowIndicator c || c == '?')
  | _ => false

/-- Whether a plain scalar ends at white space and what comes after it. -/
def endsAtGap (c : Context) (rest : List Char) (mark : Mark) : Bool :=
  (!c.flow && mark.column < c.indentation) || (mark.column == 0 && atDocumentMark rest)
    || rest.head? == some '#'

/-- Reads on in a plain scalar, after the words and gaps in `seen`, which stand in reverse, and then
    a gap. -/
def scan (c : Context) :
    (rest : List Char) → Mark → Gap → (seen : List Char) → (stop : Mark) →
    Except SyntaxError Found
  | [], mark, gap, seen, stop =>
    match c.unreadable with
    | some offset => .error (.unreadable offset)
    | none => .ok ⟨seen.reverse, stop, [], mark, gap.isBroken⟩
  | '\r' :: '\n' :: rest, mark, gap, seen, stop =>
    scan c rest (mark.newLine 2) (gap.addBreak ['\n']) seen stop
  | x :: rest, mark, gap, seen, stop =>
    if isBreak x then scan c rest (mark.newLine x.utf8Size) (gap.addBreak [brokenLine x]) seen stop
    else if isBlank x then
      if x == '\t' && gap.isBroken && mark.column < c.indentation then
        .error (.noticed .tabBreaksIndentation mark (some (.plainScalar, c.start)))
      else scan c rest (mark.behind x) (gap.addBlank x) seen stop
    else if gap.isOpen && endsAtGap c (x :: rest) mark then
      .ok ⟨seen.reverse, stop, x :: rest, mark, gap.isBroken⟩
    else if isBadColon c.flow (x :: rest) then
      .error (.noticed .colonInFlow mark (some (.plainScalar, c.start)))
    else if endsBefore c.flow (x :: rest) then
      .ok ⟨seen.reverse, stop, x :: rest, mark, gap.isBroken⟩
    else
      match Input.lacking c.unreadable 2 rest with
      | some offset => .error (.unreadable offset)
      | none =>
        scan c rest (mark.behind x) .none (x :: (gap.text.reverse ++ seen)) (mark.behind x)

end TemplatePress.Yaml.Plain
