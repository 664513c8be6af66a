import TemplatePress.Text.Utf8

/-!
# Paths

A path is written as bytes and read as components. This file fixes both views:

* `Path.join` puts one path after another: an absolute path on the right replaces the left one, and
  nothing is normalised;
* `Path.components` reads a path: repeated and trailing separators and inner `.` parts do not count;
* paths are ordered, and called the same, by their components;
* `Path.steps` is what a look-up walks along, where `.` parts still count.
-/

namespace TemplatePress

/-- A path as it is written. -/
structure Path where
  bytes : Bytes
  deriving DecidableEq

/-- The name of an entry in a directory. -/
abbrev Name := Bytes

namespace Path

/-- The byte between two parts of a path. -/
def separator : UInt8 := 0x2F

/-- The path that a text writes. -/
def ofString (s : String) : Path :=
  ⟨Text.Utf8.bytes s⟩

/-- A path as it is shown in messages and listings. -/
def display (p : Path) : String :=
  Text.Utf8.lossy p.bytes

def isEmpty (p : Path) : Bool :=
  p.bytes.isEmpty

/-- A path that starts at the root of the file system. -/
def isAbsolute (p : Path) : Bool :=
  p.bytes.head? = some separator

/-- Whether the last byte is a separator. -/
def endsInSeparator (p : Path) : Bool :=
  p.bytes.getLast? = some separator

/-- The path `q` read from `p`: an absolute `q` stands for itself, and one separator goes in
    between unless `p` is empty or already ends in one. -/
def join (p q : Path) : Path :=
  if q.isAbsolute then q
  else if p.isEmpty || p.endsInSeparator then ⟨p.bytes ++ q.bytes⟩
  else ⟨p.bytes ++ separator :: q.bytes⟩

/-! ## 1. Parts and components -/

/-- The runs of bytes between separators, empty runs included: there is always at least one. -/
def split : Bytes → List Bytes
  | [] => [[]]
  | b :: rest =>
    if b = separator then [] :: split rest
    else match split rest with
      | [] => [[b]]
      | part :: parts => (b :: part) :: parts

/-- The part that stays where it is. -/
def here : Bytes := [0x2E]

/-- The part that goes up. -/
def above : Bytes := [0x2E, 0x2E]

/-- The parts of a path that are not empty. -/
def parts (p : Path) : List Bytes :=
  (split p.bytes).filter (! ·.isEmpty)

/-- One component of a path. -/
inductive Component where
  /-- The separator that begins an absolute path. -/
  | root
  /-- A `.` that begins a relative path. -/
  | current
  /-- A `..` part. -/
  | parent
  /-- An ordinary name. -/
  | normal (name : Name)
  deriving DecidableEq

/-- How a part other than an inner `.` reads. -/
def Component.ofPart (part : Bytes) : Component :=
  if part = above then .parent else .normal part

/-- The components of the parts of a path, once the beginning is read. -/
def inner (parts : List Bytes) : List Component :=
  (parts.filter (· ≠ here)).map Component.ofPart

/-- A path read component by component. -/
def components (p : Path) : List Component :=
  if p.isAbsolute then .root :: inner p.parts
  else if p.parts.head? = some here then .current :: inner p.parts
  else inner p.parts

/-- The last component, if it is an ordinary name. -/
def fileName (p : Path) : Option Name :=
  match p.components.getLast? with
  | some (.normal name) => some name
  | _ => none

/-! ## 2. Order -/

/-- Bytes in dictionary order. -/
def compareBytes : Bytes → Bytes → Ordering
  | [], [] => .eq
  | [], _ :: _ => .lt
  | _ :: _, [] => .gt
  | a :: as, b :: bs => (compare a b).then (compareBytes as bs)

/-- The place of a kind of component in the order. -/
def Component.rank : Component → Nat
  | .root => 0
  | .current => 1
  | .parent => 2
  | .normal _ => 3

/-- Components in order: the root, `.`, `..`, then names by their bytes. -/
def Component.compare : Component → Component → Ordering
  | .normal a, .normal b => compareBytes a b
  | a, b => Ord.compare a.rank b.rank

/-- Lists of components in dictionary order. -/
def compareComponents : List Component → List Component → Ordering
  | [], [] => .eq
  | [], _ :: _ => .lt
  | _ :: _, [] => .gt
  | a :: as, b :: bs => (a.compare b).then (compareComponents as bs)

/-- Paths in order, component by component. -/
def compare (p q : Path) : Ordering :=
  compareComponents p.components q.components

/-- Two spellings of one path. -/
def same (p q : Path) : Bool :=
  p.components = q.components

/-! ## 3. Going up -/

/-- How a component is written after a separator. -/
def Component.bytes : Component → Bytes
  | .root => []
  | .current => here
  | .parent => above
  | .normal name => name

/-- A path written from its components, with single separators. -/
def ofComponents : List Component → Path
  | [] => ⟨[]⟩
  | [.root] => ⟨[separator]⟩
  | [c] => ⟨c.bytes⟩
  | c :: rest => ⟨c.bytes ++ separator :: (ofComponents rest).bytes⟩

/-- The path without its last component; the root and the empty path have none. -/
def parent? (p : Path) : Option Path :=
  match p.components with
  | [] => none
  | [.root] => none
  | c :: rest => some (ofComponents (c :: rest).dropLast)

/-! ## 4. What a look-up walks along -/

/-- One step of a look-up. -/
inductive Step where
  /-- A `.` part: stay. -/
  | stay
  /-- A `..` part: go to the directory above. -/
  | up
  /-- An ordinary name: go to the entry of that name. -/
  | enter (name : Name)
  deriving DecidableEq

/-- The step that a part asks for. -/
def Step.ofPart (part : Bytes) : Step :=
  if part = here then .stay else if part = above then .up else .enter part

/-- The steps of a path, from the left. -/
def steps (p : Path) : List Step :=
  p.parts.map Step.ofPart

end Path

end TemplatePress
