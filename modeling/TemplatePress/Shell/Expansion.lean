import TemplatePress.Shell.Arithmetic
import TemplatePress.Shell.Names
import TemplatePress.Shell.Session

/-!
# Expansion

From words to what a command is given. This file fixes:

* each piece of a word becomes a fragment: text that holds together, text that is split at
  separators, or a gap between two words;
* separators that are white space only part words; any other one ends a word, which may be empty;
* the fragments make up words; a word of nothing but unquoted empty values is none at all;
* a word of a command may stand for the names of several files;
* a pattern keeps apart which bytes were quoted.
-/

namespace TemplatePress.Shell

/-- A part of a word once its value is known. -/
inductive Fragment where
  | quoted (bytes : Bytes)
  | plain (bytes : Bytes)
  /-- A value that is split at separators. -/
  | loose (bytes : Bytes)
  /-- One word ends and another begins. -/
  | gap
  /-- The quoted arguments when there are none. -/
  | vanished
  deriving DecidableEq

namespace Fragment

/-- Words read so far, in reverse, and the one that is being read. -/
structure Fields where
  done : List Marked := []
  current : Option Marked := none

namespace Fields

/-- Ends the word that is being read. -/
def close (f : Fields) : Fields :=
  match f.current with
  | some w => ⟨w :: f.done, none⟩
  | none => f

def append (f : Fields) (quoted : Bool) (bs : Bytes) : Fields :=
  { f with current := some (f.current.getD [] ++ bs.map fun b => (b, quoted)) }

/-- Ends the word that is being read, which may be empty. -/
def finish (f : Fields) : Fields :=
  ⟨f.current.getD [] :: f.done, none⟩

/-- Adds bytes that are split at separators. Behind a separator white space belongs to it, and if it is
    white space itself so does one separator that is not: `behind` says which of the two it is. -/
def appendSplit (separators : Bytes) (behind : Option Bool) (f : Fields) : Bytes → Fields
  | [] => f
  | b :: rest =>
    if !separators.contains b then appendSplit separators none (f.append false [b]) rest
    else if Marked.isBlank b then
      if behind.isSome || f.current.isNone then appendSplit separators behind f rest
      else appendSplit separators (some true) f.finish rest
    else if behind = some true then appendSplit separators (some false) f rest
    else appendSplit separators (some false) f.finish rest

end Fields

/-- The words that fragments make up. -/
def fields (separators : Bytes) (fragments : List Fragment) : List Marked :=
  let kept := if fragments.contains .vanished then fragments.filter (· ≠ .quoted []) else fragments
  let read := kept.foldl (fun f fragment =>
    match fragment with
    | .quoted bs => f.append true bs
    | .plain bs => f.append false bs
    | .loose bs => f.appendSplit separators none bs
    | .gap => f.close
    | .vanished => f) ({} : Fields)
  read.close.done.reverse

/-- The bytes of fragments that are not split. -/
def joined (joint : Bytes) (fragments : List Fragment) : Bytes :=
  fragments.flatMap fun
    | .quoted bs => bs
    | .plain bs => bs
    | .loose bs => bs
    | .gap => joint
    | .vanished => []

/-- The pattern that fragments make up. -/
def pattern (joint : Bytes) (fragments : List Fragment) : Pattern :=
  Pattern.ofBytes <| fragments.flatMap fun
    | .quoted bs => bs.map fun b => (b, true)
    | .plain bs => bs.map fun b => (b, false)
    | .loose bs => bs.map fun b => (b, false)
    | .gap => joint.map fun b => (b, false)
    | .vanished => []

end Fragment

namespace Parameter

/-- The fragments of the value of a parameter. -/
def fragments (quoted : Bool) (s : Session) : Parameter → List Fragment
  | .named name => [one (s.value name)]
  | .argument 0 => [one s.name]
  | .argument (n + 1) => [one (s.arguments.getD n [])]
  | .count => [one (Text.Utf8.bytes (toString s.arguments.length))]
  | .status => [one (Text.Utf8.bytes (toString s.status))]
  | .process => [one (Text.Utf8.bytes (toString Session.processNumber))]
  | .joined =>
    if quoted then [.quoted (List.intercalate s.joint s.arguments)]
    else ((s.arguments.map Fragment.loose).intersperse .gap)
  | .arguments =>
    if quoted && s.arguments.isEmpty then [.vanished]
    else (s.arguments.map one).intersperse .gap
where
  /-- One value. -/
  one (bs : Bytes) : Fragment := if quoted then .quoted bs else .loose bs

/-- The value of a parameter; none if it is not set. -/
def value? (s : Session) : Parameter → Option Bytes
  | .named name => s.bindings.get? name
  | .argument 0 => some s.name
  | .argument (n + 1) => s.arguments[n]?
  | .count => some (Text.Utf8.bytes (toString s.arguments.length))
  | .status => some (Text.Utf8.bytes (toString s.status))
  | .process => some (Text.Utf8.bytes (toString Session.processNumber))
  | .joined | .arguments =>
    if s.arguments.isEmpty then none else some (List.intercalate s.joint s.arguments)

/-- Whether a shell that asks for values asks for this one. -/
def isAskedFor : Parameter → Bool
  | .named _ => true
  | .argument _ => true
  | _ => false

/-- The name of a parameter as complaints show it. -/
def shown : Parameter → Bytes
  | .named name => Text.Utf8.bytes name
  | .argument n => Text.Utf8.bytes (toString n)
  | .arguments => [0x40]
  | .joined => [0x2A]
  | .count => [0x23]
  | .status => [0x3F]
  | .process => [0x24]

end Parameter

namespace Shaping

/-- Cuts off what matches a pattern: as little or as much as possible, at the beginning or at the
    end. -/
def cutOff (atEnd longest : Bool) (pattern : Pattern) (bs : Bytes) : Bytes :=
  let lengths := List.range (bs.length + 1)
  let lengths := if longest then lengths.reverse else lengths
  let kept := lengths.findSome? fun n =>
    if atEnd then
      if pattern.accepts (bs.drop (bs.length - n)) then some (bs.take (bs.length - n)) else none
    else if pattern.accepts (bs.take n) then some (bs.drop n)
    else none
  kept.getD bs

end Shaping

namespace Act

/-- What a command printed, as a value: without zero bytes and the ends of line behind it. -/
def valueOf (flow : Flow) : Act Bytes :=
  if flow.isEndless then throw .unfinished
  else
    let kept := flow.start.filter (· != 0)
    return (kept.reverse.dropWhile (· = 0x0A)).reverse

/-- The fragment of a single value. -/
def single (quoted : Bool) (bs : Bytes) : Fragment :=
  if quoted then .quoted bs else .loose bs

/-- The fragments of a word that stands for a value. -/
def standIn (quoted : Bool) (fragments : List Fragment) : List Fragment :=
  if quoted then .quoted [] :: fragments
  else
    fragments.map fun
      | .plain bs => .loose bs
      | fragment => fragment

/-- Complains of a parameter without a value and ends the shell. -/
def demand {α : Type} (p : Parameter) (orEmpty : Bool) (text : Bytes) : Act α :=
  let reason :=
    if text.isEmpty then
      Text.Utf8.bytes ("parameter not set" ++ if orEmpty then " or null" else "")
    else text
  abandon (p.shown ++ Text.Utf8.bytes ": " ++ reason)

/-- The fragments of the value of a parameter. -/
def valueFragments (quoted : Bool) (p : Parameter) : Act (List Fragment) := do
  let s ← get
  if s.isExact && p.isAskedFor && (p.value? s).isNone then demand p false []
  return p.fragments quoted s

mutual

/-- The fragments of a piece; `run` runs commands. -/
def expandPiece (run : Command → Act Unit) : Piece → Act (List Fragment)
  | .text quoted bs => return [if quoted then .quoted bs else .plain bs]
  | .value quoted p => valueFragments quoted p
  | .senseless => abandon (Text.Utf8.bytes "Bad substitution")
  | .printed quoted c => do
    let bs ← valueOf (← capture (run c))
    return [single quoted bs]
  | .computed quoted expression => do
    let text ← expandWhole run expression
    match Arithmetic.value (← get).bindings text with
    | .error complaint => abandon complaint
    | .ok (n, bindings) => do
      let s ← get
      match s.fixed.find? fun name => bindings.get? name != s.bindings.get? name with
      | some name => give name []
      | none => set { s with bindings }
      return [single quoted (Text.Utf8.bytes (toString n))]
  | .shaped quoted p shaping orEmpty w => do
    let value? := p.value? (← get)
    let isMissing := value?.all fun bs => orEmpty && bs.isEmpty
    match shaping with
    | .orElse =>
      if isMissing then return standIn quoted (← expand run w)
      else return p.fragments quoted (← get)
    | .orAssign =>
      if isMissing then do
        let bs ← expandWhole run w
        match p with
        | .named name => give name bs
        | _ => abandon (p.shown ++ Text.Utf8.bytes ": bad variable name")
        return [single quoted bs]
      else return p.fragments quoted (← get)
    | .andThen =>
      if isMissing then return standIn quoted [] else return standIn quoted (← expand run w)
    | .demand =>
      if isMissing then do
        let text ← expandWhole run w
        demand p orEmpty text
      else return p.fragments quoted (← get)
    | .cut atEnd longest => do
      let pattern ← expandPattern run w
      return [single quoted (Shaping.cutOff atEnd longest pattern (value?.getD []))]
    | .length =>
      return [single quoted (Text.Utf8.bytes (toString (value?.getD []).length))]

/-- The fragments of a word. -/
def expand (run : Command → Act Unit) : Word → Act (List Fragment)
  | [] => return []
  | piece :: rest => do
    let fragments ← expandPiece run piece
    return fragments ++ (← expand run rest)

/-- A word that is not split. -/
def expandWhole (run : Command → Act Unit) (w : Word) : Act Bytes := do
  let fragments ← expand run w
  return Fragment.joined (← get).joint fragments

/-- A word as a pattern. -/
def expandPattern (run : Command → Act Unit) (w : Word) : Act Pattern := do
  let fragments ← expand run w
  return Fragment.pattern (← get).joint fragments

end

/-- What a row of words makes up, with the names of files that they stand for. -/
def expandWords (run : Command → Act Unit) : List Word → Act (List Bytes)
  | [] => return []
  | w :: rest => do
    let fragments ← expand run w
    let s ← get
    let fields := Fragment.fields s.separators fragments
    let words := if s.isLiteral then fields.map (·.bytes) else fields.flatMap (·.words s.files)
    return words ++ (← expandWords run rest)

/-- Carries out redirections up to the first that fails, and says why it does. -/
def redirectAll (run : Command → Act Unit) (line : Nat) : List Redirection → Act Bool
  | [] => return true
  | .mk stream direction target :: rest => do
    match ← redirect stream direction (← expandWhole run target) with
    | some complaint =>
      complain line complaint
      return false
    | none => redirectAll run line rest

/-- Carries out assignments, and answers with the values. -/
def assignAll (run : Command → Act Unit) : List (String × Word) → Act (List (String × Bytes))
  | [] => return []
  | (name, w) :: rest => do
    let value ← expandWhole run w
    give name value
    return (name, value) :: (← assignAll run rest)

end Act

end TemplatePress.Shell
