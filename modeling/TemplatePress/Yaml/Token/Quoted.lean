import TemplatePress.Yaml.Gap
import TemplatePress.Yaml.Input

/-!
# Quoted scalars

Between single quotes only the quote is special: two of them stand for one. Between double quotes a
backslash begins an escape, and before a line break it joins two lines without a space.
-/

namespace TemplatePress.Yaml.Quoted

/-- What an escape stands for. -/
inductive Escape where
  | char (c : Char)
  /-- The character whose number the next digits give in base sixteen. -/
  | number (digits : Nat)

/-- The escape that the character behind the backslash chooses. -/
def escape? : Char → Option Escape
  | '0' => some (.char '\x00')
  | 'a' => some (.char '\x07')
  | 'b' => some (.char '\x08')
  | 't' => some (.char '\t')
  | '\t' => some (.char '\t')
  | 'n' => some (.char '\n')
  | 'v' => some (.char '\x0b')
  | 'f' => some (.char '\x0c')
  | 'r' => some (.char '\r')
  | 'e' => some (.char '\x1b')
  | ' ' => some (.char ' ')
  | '"' => some (.char '"')
  | '/' => some (.char '/')
  | '\\' => some (.char '\\')
  | 'N' => some (.char '\u0085')
  | '_' => some (.char '\u00a0')
  | 'L' => some (.char '\u2028')
  | 'P' => some (.char '\u2029')
  | 'x' => some (.number 2)
  | 'u' => some (.number 4)
  | 'U' => some (.number 8)
  | _ => none

/-- The number that exactly `n` digits in base sixteen give. -/
def number? (n : Nat) (digits : List Char) : Option Nat :=
  if digits.length = n then
    digits.foldl (fun v? c =>
      match v?, hexValue? c with
      | some v, some d => some (v * 16 + d)
      | _, _ => none) (some 0)
  else none

/-- The character with a number. -/
def char? (n : Nat) : Option Char :=
  if n.isValidChar then some (Char.ofNat n) else none

/-- What surrounds a quoted scalar. -/
structure Context where
  /-- Whether its quotes are single. -/
  single : Bool
  /-- Where it begins. -/
  start : Mark
  /-- See `Input.unreadable`. -/
  unreadable : Option Nat

def Context.quote (c : Context) : Char :=
  if c.single then '\'' else '"'

/-- A quoted scalar and what stands behind it. -/
structure Found where
  text : List Char
  rest : List Char
  mark : Mark

/-- The character that an escape stands for, and the number of characters after the backslash. -/
def readEscape (c : Context) (mark : Mark) (e : Char) (rest : List Char) :
    Except SyntaxError (Char × Nat) :=
  match escape? e with
  | none => .error (.noticed .unknownEscape mark (some (.escape, c.start)))
  | some (.char x) => .ok (x, 0)
  | some (.number n) =>
    match Input.lacking c.unreadable n rest with
    | some offset => .error (.unreadable offset)
    | none =>
      match number? n (rest.take n) with
      | none => .error (.noticed .noHexDigits (mark.advance 2) (some (.escape, c.start)))
      | some v =>
        match char? v with
        | none => .error (.noticed .badCodePoint (mark.advance 2) (some (.escape, c.start)))
        | some x => .ok (x, n)

/-- Reads on in a quoted scalar, after what is in `seen`, which stands in reverse, and then a
    gap. -/
def scan (c : Context) (rest : List Char) (mark : Mark) (gap : Gap) (seen : List Char) :
    Except SyntaxError Found :=
  match rest with
  | [] =>
    match c.unreadable with
    | some offset => .error (.unreadable offset)
    | none => .error (.noticed .endInScalar mark (some (.quotedScalar, c.start)))
  | '\r' :: '\n' :: rest => scan c rest (mark.newLine 2) (gap.addBreak ['\n']) seen
  | x :: rest =>
    if isBreak x then scan c rest (mark.newLine x.utf8Size) (gap.addBreak [brokenLine x]) seen
    else if isBlank x then scan c rest (mark.behind x) (gap.addBlank x) seen
    else if mark.column == 0 && atDocumentMark (x :: rest) then
      .error (.noticed .documentMarkInScalar mark (some (.quotedScalar, c.start)))
    else
      let seen := gap.text.reverse ++ seen
      if x == c.quote then
        if c.single && rest.head? == some '\'' then
          scan c (rest.drop 1) (mark.advance 2) .none ('\'' :: seen)
        else .ok ⟨seen.reverse, rest, mark.advance 1⟩
      else if x == '\\' && !c.single then
        match Input.lacking c.unreadable 1 rest, rest with
        | some offset, _ => .error (.unreadable offset)
        | none, [] => .error (.noticed .unknownEscape mark (some (.escape, c.start)))
        | none, '\r' :: '\n' :: rest =>
          scan c rest ((mark.advance 1).newLine 2) (.breaks [] []) seen
        | none, e :: rest =>
          if isBreak e then
            scan c rest ((mark.advance 1).newLine e.utf8Size) (.breaks [] []) seen
          else
            match readEscape c mark e rest with
            | .error err => .error err
            | .ok (y, n) => scan c (rest.drop n) (mark.advance (2 + n)) .none (y :: seen)
      else scan c rest (mark.behind x) .none (x :: seen)
  termination_by rest.length
  decreasing_by all_goals simp +arith

end TemplatePress.Yaml.Quoted
