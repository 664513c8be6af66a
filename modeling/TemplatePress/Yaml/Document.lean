import TemplatePress.Yaml.Event.Grammar
import TemplatePress.Yaml.Node

/-!
# Documents

A text is read as far as it goes: the nodes of its first document, the references among them, and
the error that ended the reading, if there was one. A document that is broken off is still a
`Document`, so that an error in what was read comes before the error that broke it off.
-/

namespace TemplatePress.Yaml

/-- Why a document could not be read to its end. -/
inductive DocumentError where
  | malformed (source : SyntaxError)
  /-- A reference to a name that no node before it has. -/
  | unknownName (mark : Mark)
  deriving DecidableEq

def DocumentError.message : DocumentError → String
  | .malformed source => source.message
  | .unknownName mark => "unknown anchor" ++ mark.suffix

/-- The names of nodes. A name has a number, and a number stands for the last node that has it. -/
structure Names where
  numbers : List (String × Nat) := []
  /-- The position of a node among the events, by number, last first. -/
  positions : List (Nat × Nat) := []

namespace Names

/-- Gives a name to the node at a position. Its number is how many names were known before, also if
    the name is not new. -/
def define (names : Names) (name : String) (position : Nat) : Names :=
  let number := names.numbers.length
  { numbers :=
      if names.numbers.any (·.1 == name) then
        names.numbers.map fun n => if n.1 == name then (name, number) else n
      else names.numbers ++ [(name, number)],
    positions := (number, position) :: names.positions }

def number? (names : Names) (name : String) : Option Nat :=
  (names.numbers.find? (·.1 == name)).map (·.2)

def position? (names : Names) (number : Nat) : Option Nat :=
  (names.positions.find? (·.1 == number)).map (·.2)

/-- The names after an event at a position. -/
def after (names : Names) (e : Event String) (position : Nat) : Names :=
  match e.anchor? with
  | some name => names.define name position
  | none => names

end Names

/-- An event with a number for the name that it refers to. -/
def Event.numbered (names : Names) (e : Event String) : Except DocumentError (Event Nat) :=
  match e.kind with
  | .alias name =>
    match names.number? name with
    | some n => .ok ⟨.alias n, e.mark⟩
    | none => .error (.unknownName e.mark)
  | .scalar anchor tag text style => .ok ⟨.scalar anchor tag text style, e.mark⟩
  | .sequenceStart anchor => .ok ⟨.sequenceStart anchor, e.mark⟩
  | .sequenceEnd => .ok ⟨.sequenceEnd, e.mark⟩
  | .mappingStart anchor => .ok ⟨.mappingStart anchor, e.mark⟩
  | .mappingEnd => .ok ⟨.mappingEnd, e.mark⟩

/-- The events of a document with their names, up to an unknown one. -/
structure Linked where
  events : List (Event Nat)
  names : Names
  failure : Option DocumentError

/-- Numbers the names of events after those in `seen`, which stand in reverse. -/
def Linked.ofEvents (names : Names) (seen : List (Event Nat)) : (position : Nat) →
    List (Event String) → Linked
  | _, [] => ⟨seen.reverse, names, none⟩
  | position, e :: rest =>
    match e.numbered names with
    | .error failure => ⟨seen.reverse, names, some failure⟩
    | .ok e' => ofEvents (names.after e position) (e' :: seen) (position + 1) rest

/-- The first document of a text. -/
structure Document where
  /-- Its node; none for a text without a document. -/
  root : Option Node
  /-- Its events, as far as they were read. -/
  events : List (Event Nat) := []
  names : Names := {}
  /-- What ended the reading before the end of the document. -/
  failure : Option DocumentError := none
  /-- Whether the text goes on after the document. -/
  isFollowed : Bool := false

namespace Document

/-- The node with a number. -/
def node (d : Document) (number : Nat) : Node :=
  match d.names.position? number with
  | some position => .ofEvents (d.events.drop position)
  | none => .broken

/-- The document of events that were read from a text, and what follows it there. -/
def ofReading (events : List (Event String)) (failure : Option SyntaxError) (after : Grammar) :
    Document :=
  let linked := Linked.ofEvents {} [] 0 events
  let d : Document :=
    { root := some (.ofEvents linked.events), events := linked.events, names := linked.names }
  match linked.failure, failure with
  | some e, _ => { d with failure := some e }
  | none, some e => { d with failure := some (.malformed e) }
  | none, none =>
    match Grammar.endDocument after with
    | .error e _ => { d with failure := some (.malformed e) }
    | .ok () after' => { d with isFollowed := !after'.isAtEnd (after'.lexer.size + 3) }

/-- The first document of a text. -/
def ofText (text : String) : Document :=
  match Grammar.beginDocument { lexer := .ofText text } with
  | .error e _ => { root := some .broken, failure := some (.malformed e) }
  | .ok (some _) _ => { root := none }
  | .ok none g =>
    let (events, failure, after) := g.readEvents (16 * g.lexer.size + 64) []
    ofReading events failure after

end Document

end TemplatePress.Yaml
