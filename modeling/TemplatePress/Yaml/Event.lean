import TemplatePress.Yaml.Token

/-!
# Events

The nodes of a document in the order in which they begin: a scalar and a reference to another node
are one event, a sequence or mapping is one event at its beginning and one at its end. The keys and
values of a mapping follow one another. References to nodes are names at first; `ρ` is the type of
what they are.
-/

namespace TemplatePress.Yaml

/-- What an event says. -/
inductive EventKind (ρ : Type) where
  /-- A reference to another node. -/
  | alias (target : ρ)
  | scalar (anchor : Option String) (tag : Option Bytes) (text : String) (style : ScalarStyle)
  | sequenceStart (anchor : Option String)
  | sequenceEnd
  | mappingStart (anchor : Option String)
  | mappingEnd
  deriving DecidableEq

/-- An event and where it begins. -/
structure Event (ρ : Type) where
  kind : EventKind ρ
  mark : Mark
  deriving DecidableEq

namespace Event

variable {ρ : Type}

/-- The name that a node is given. -/
def anchor? (e : Event ρ) : Option String :=
  match e.kind with
  | .scalar anchor _ _ _ => anchor
  | .sequenceStart anchor => anchor
  | .mappingStart anchor => anchor
  | _ => none

/-- An empty plain scalar, which stands where a node is missing. -/
def missing (mark : Mark) : Event ρ :=
  ⟨.scalar none none "" .plain, mark⟩

end Event

end TemplatePress.Yaml
