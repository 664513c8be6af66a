import TemplatePress.Yaml.Event

/-!
# Nodes

A document as a tree. A tree may be read only up to a point: then `broken` stands where the reading
stopped, and nothing comes after it. `Node.ofEvents` builds the tree that events begin.
-/

namespace TemplatePress.Yaml

/-- A node and where it begins. -/
inductive Node where
  | scalar (mark : Mark) (tag : Option Bytes) (text : String) (style : ScalarStyle)
  /-- A reference to the node with a number. -/
  | alias (mark : Mark) (target : Nat)
  | sequence (mark : Mark) (items : List Node)
  | mapping (mark : Mark) (entries : List (Node × Node))
  /-- What could not be read. -/
  | broken

namespace Node

/-- A collection whose end has not been reached, with what it holds so far, last first. -/
inductive Open where
  | sequence (mark : Mark) (items : List Node)
  /-- A mapping that waits for a key. -/
  | mapping (mark : Mark) (entries : List (Node × Node))
  /-- A mapping that waits for the value of a key. -/
  | entry (mark : Mark) (entries : List (Node × Node)) (key : Node)

namespace Open

/-- Puts a node into a collection. -/
def add (node : Node) : Open → Open
  | .sequence mark items => .sequence mark (node :: items)
  | .mapping mark entries => .entry mark entries node
  | .entry mark entries key => .mapping mark ((key, node) :: entries)

/-- The collection with what it holds. -/
def close : Open → Node
  | .sequence mark items => .sequence mark items.reverse
  | .mapping mark entries => .mapping mark entries.reverse
  | .entry mark entries key => .mapping mark ((key, .broken) :: entries).reverse

/-- The collection as far as it was read. -/
def breakOff (node : Node) (c : Open) : Node :=
  (c.add node).close

end Open

/-- The outermost node, when a row of open collections, the innermost first, is broken off. -/
def breakAll : Node → List Open → Node
  | node, [] => node
  | node, c :: outer => breakAll (c.breakOff node) outer

/-- Goes on after a node is complete: puts it where it belongs, or ends with it. -/
def settle (node : Node) (outer : List Open) (go : List Open → Node) : Node :=
  match outer with
  | [] => node
  | c :: outer => go (c.add node :: outer)

/-- The node that events complete, within open collections. -/
def build : List Open → List (Event Nat) → Node
  | outer, [] => breakAll .broken outer
  | outer, e :: rest =>
    match e.kind with
    | .scalar _ tag text style =>
      settle (.scalar e.mark tag text style) outer fun outer => build outer rest
    | .alias target => settle (.alias e.mark target) outer fun outer => build outer rest
    | .sequenceStart _ => build (.sequence e.mark [] :: outer) rest
    | .mappingStart _ => build (.mapping e.mark [] :: outer) rest
    | .sequenceEnd | .mappingEnd =>
      match outer with
      | [] => .broken
      | c :: outer => settle c.close outer fun outer => build outer rest

/-- The node with which a row of events begins. -/
def ofEvents (events : List (Event Nat)) : Node :=
  build [] events

mutual

/-- Whether all of a node was read. -/
def isWhole : Node → Bool
  | .scalar _ _ _ _ => true
  | .alias _ _ => true
  | .sequence _ items => areWhole items
  | .mapping _ entries => entriesAreWhole entries
  | .broken => false

def areWhole : List Node → Bool
  | [] => true
  | n :: rest => n.isWhole && areWhole rest

def entriesAreWhole : List (Node × Node) → Bool
  | [] => true
  | (k, v) :: rest => k.isWhole && v.isWhole && entriesAreWhole rest

end

end Node

end TemplatePress.Yaml
