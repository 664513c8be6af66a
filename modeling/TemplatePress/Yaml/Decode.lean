import TemplatePress.Yaml.Document
import TemplatePress.Yaml.Scalar

/-!
# Values of a document

Reading nodes as values of wanted types. An error names the field and the place of the innermost
node that it concerns.

* A reference is followed to its node. References that are followed count, and a document may follow
  at most a hundred for each of its events.
* A node that an empty plain scalar stands for is also an empty sequence and an empty mapping.
* An ignored value is not looked into, but it must have been read to its end.
-/

namespace TemplatePress.Yaml

/-- The way to a node from the root. -/
inductive Route where
  | root
  | item (parent : Route) (index : Nat)
  | field (parent : Route) (key : String)
  /-- The value of a key that is a reference. -/
  | unnamed (parent : Route)
  deriving DecidableEq

namespace Route

mutual

/-- The way as messages show it. -/
def text : Route → String
  | .root => "."
  | .item parent index => parent.text ++ "[" ++ toString index ++ "]"
  | .field parent key => parent.dotted ++ key
  | .unnamed parent => parent.dotted ++ "?"

/-- The way with a point behind it, and nothing for the root. -/
def dotted : Route → String
  | .root => ""
  | .item parent index => parent.text ++ "[" ++ toString index ++ "]."
  | .field parent key => parent.dotted ++ key ++ "."
  | .unnamed parent => parent.dotted ++ "?."

end

end Route

/-- What is wrong with a value. -/
inductive Mismatch where
  | wrongType (found : Meaning) (wanted : String)
  | wrongValue (found : Meaning) (wanted : String)
  | missingField (name : String)
  | repeatedField (name : String)
  deriving DecidableEq

def Mismatch.message : Mismatch → String
  | .wrongType found wanted => "invalid type: " ++ found.shown ++ ", expected " ++ wanted
  | .wrongValue found wanted => "invalid value: " ++ found.shown ++ ", expected " ++ wanted
  | .missingField name => "missing field `" ++ name ++ "`"
  | .repeatedField name => "duplicate field `" ++ name ++ "`"

/-- Why a text could not be read as a value. -/
inductive DecodeError where
  /-- A value does not fit, at a place and on a way from the root. -/
  | mismatch (problem : Mismatch) (site : Option (Mark × Route))
  /-- Too many references were followed. -/
  | repetition
  /-- The document could not be read to its end. -/
  | broken (source : DocumentError)
  /-- The document ends before the value. -/
  | unfinished
  /-- More follows after the document. -/
  | severalDocuments
  deriving DecidableEq

namespace DecodeError

def message : DecodeError → String
  | .mismatch problem none => problem.message
  | .mismatch problem (some (mark, route)) =>
    (if route = .root then "" else route.text ++ ": ") ++ problem.message ++ mark.suffix
  | .repetition => "repetition limit exceeded"
  | .broken source => source.message
  | .unfinished => "EOF while parsing a value"
  | .severalDocuments => "deserializing from YAML containing more than one document is not supported"

/-- Says where an error is, unless that is known. -/
def locate (mark : Mark) (route : Route) : DecodeError → DecodeError
  | .mismatch problem none => .mismatch problem (some (mark, route))
  | e => e

end DecodeError

/-- Reads values; the state is the number of references that were followed. -/
abbrev Decode := EStateM DecodeError Nat

namespace Decode

def fail {α : Type} (e : DecodeError) : Decode α := throw e

/-- The error of a value that was not read to its end. -/
def brokenError (d : Document) : DecodeError :=
  match d.failure with
  | some e => .broken e
  | none => .unfinished

/-- Runs a reading of the node at a place, on a way from the root. -/
def located {α : Type} (mark : Mark) (route : Route) (act : Decode α) : Decode α := fun followed =>
  match act followed with
  | .ok a followed' => .ok a followed'
  | .error e followed' => .error (e.locate mark route) followed'

/-- The node itself, after following a reference. -/
def resolve (d : Document) : Node → Decode Node
  | .alias _ target => do
    let followed ← get
    if d.events.length * 100 < followed + 1 then fail .repetition
    set (followed + 1)
    return d.node target
  | n => return n

/-- Notices that a node has the wrong type. -/
def wrongType {α : Type} (d : Document) (wanted : String) : Node → Decode α
  | .scalar _ tag text style =>
    match Scalar.meaning tag text style with
    | .ok found => fail (.mismatch (.wrongType found wanted) none)
    | .error misfit => fail (.mismatch (.wrongValue (.text misfit.text) misfit.wanted) none)
  | .sequence _ _ => fail (.mismatch (.wrongType .sequence wanted) none)
  | .mapping _ _ => fail (.mismatch (.wrongType .mapping wanted) none)
  | .alias _ _ => fail (brokenError d)
  | .broken => fail (brokenError d)

/-- Reads a value of a scalar's own; `read` may decline, and then the type is wrong. -/
def scalar {α : Type} (d : Document) (route : Route) (wanted : String)
    (read : Option Bytes → String → ScalarStyle → Option (Except Mismatch α)) (n : Node) :
    Decode α := do
  match ← resolve d n with
  | .scalar mark tag text style =>
    located mark route do
      match read tag text style with
      | some (.ok a) => return a
      | some (.error problem) => fail (.mismatch problem none)
      | none => wrongType d wanted (.scalar mark tag text style)
  | .sequence mark items => located mark route (wrongType d wanted (.sequence mark items))
  | .mapping mark entries => located mark route (wrongType d wanted (.mapping mark entries))
  | n => wrongType d wanted n

/-- Reads the text of a scalar of any kind. -/
def text (wanted : String) (d : Document) (route : Route) : Node → Decode String :=
  scalar d route wanted fun _ text _ => some (.ok text)

/-- Reads a truth value. -/
def boolean (d : Document) (route : Route) : Node → Decode Bool :=
  scalar d route "a boolean" fun tag text style =>
    if Scalar.readsAs "bool" tag style then (Scalar.boolean? text).map .ok else none

/-- Reads a whole number up to a limit of at most 64 bits. -/
def unsigned (limit : Nat) (wanted : String) (d : Document) (route : Route) : Node → Decode Nat :=
  scalar d route wanted fun tag text style =>
    if Scalar.readsAs "int" tag style then
      (Scalar.unsigned? Number.max64 text.toList).map fun n =>
        if n ≤ limit then .ok n else .error (.wrongValue (.integer n) wanted)
    else none

/-- Whether an empty plain scalar stands for a node. -/
def isEmptyPlain (text : String) (style : ScalarStyle) : Bool :=
  text.isEmpty && style = .plain

/-- Reads a value that may be absent. -/
def optional {α : Type} (read : Node → Decode α) (d : Document) (n : Node) : Decode (Option α) := do
  match ← resolve d n with
  | .scalar mark tag text style =>
    let absent ←
      if style ≠ .plain then pure false
      else
        match tag with
        | none => pure (text.isEmpty || Scalar.isNull text)
        | some tag =>
          if tag = Scalar.coreTag "null" then
            if Scalar.isNull text then pure true
            else fail (.mismatch (.wrongValue (.text text) "null") none)
          else pure false
    if absent then return none
    else some <$> read (.scalar mark tag text style)
  | .broken => fail (brokenError d)
  | n => some <$> read n

/-- Reads the items of a sequence in turn, from an index on. -/
def items {α : Type} (read : Route → Node → Decode α) (route : Route) :
    (index : Nat) → List Node → Decode (List α)
  | _, [] => return []
  | index, n :: rest => do
    let a ← read (.item route index) n
    let more ← items read route (index + 1) rest
    return a :: more

/-- Reads a sequence. -/
def sequence {α : Type} (read : Route → Node → Decode α) (d : Document) (route : Route) (n : Node) :
    Decode (List α) := do
  match ← resolve d n with
  | .sequence mark ns => located mark route (items read route 0 ns)
  | .scalar mark tag text style =>
    if isEmptyPlain text style then return []
    else located mark route (wrongType d "a sequence" (.scalar mark tag text style))
  | .mapping mark entries => located mark route (wrongType d "a sequence" (.mapping mark entries))
  | n => wrongType d "a sequence" n

/-- Passes over a value. -/
def ignore (d : Document) (n : Node) : Decode Unit :=
  if n.isWhole then pure () else fail (brokenError d)

/-- The way to the value of a key, which is known by its name if the key itself is a scalar. -/
def valueRoute (route : Route) (key : Node) : Route :=
  match key with
  | .scalar _ _ text _ => .field route text
  | _ => .unnamed route

/-- Reads the entries of a mapping in turn. Each known field may be given once; `set` reads its value
    into what was read so far. Other keys mean nothing. -/
def entries {σ : Type} (d : Document) (known : List String)
    (set : String → Route → Node → σ → Decode σ) (route : Route) :
    (given : List String) → List (Node × Node) → σ → Decode σ
  | _, [], s => return s
  | given, (key, value) :: rest, s => do
    let name ← text "field identifier" d route key
    if known.contains name then
      if given.contains name then fail (.mismatch (.repeatedField name) none)
      let s' ← set name (valueRoute route key) value s
      entries d known set route (name :: given) rest s'
    else
      ignore d value
      entries d known set route given rest s

/-- Reads a mapping with known fields; `finish` makes a value of them. -/
def record {σ α : Type} (wanted : String) (known : List String)
    (set : String → Route → Node → σ → Decode σ) (start : σ) (finish : σ → Decode α)
    (d : Document) (route : Route) (n : Node) : Decode α := do
  match ← resolve d n with
  | .mapping mark es => located mark route (entries d known set route [] es start >>= finish)
  | .scalar mark tag text style =>
    if isEmptyPlain text style then located mark route (finish start)
    else located mark route (wrongType d wanted (.scalar mark tag text style))
  | .sequence mark ns => located mark route (wrongType d wanted (.sequence mark ns))
  | n => wrongType d wanted n

/-- Reads a text as a value; `absent` is the value of a text without a document. A document that was
    not read to its end has no value, and nothing may follow it. -/
def ofText {α : Type} (read : Document → Route → Node → Decode α) (absent : α) (text : String) :
    Except DecodeError α :=
  let d := Document.ofText text
  match d.root with
  | none => .ok absent
  | some root =>
    match read d .root root 0 with
    | .error e _ => .error e
    | .ok a _ =>
      match d.failure with
      | some e => .error (.broken e)
      | none => if d.isFollowed then .error .severalDocuments else .ok a

end Decode

end TemplatePress.Yaml
