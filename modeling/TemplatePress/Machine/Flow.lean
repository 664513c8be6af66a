import TemplatePress.Text.Utf8

/-!
# Flows of bytes

What one program prints for another to read: a row of bytes that ends, or one that goes on for ever
by repeating a part. A reader takes as much as it needs, so that also of an endless flow a part can
be read.
-/

namespace TemplatePress

/-- Bytes, followed by the endless repetition of `cycle` unless that is empty. -/
structure Flow where
  start : Bytes := []
  cycle : Bytes := []
  deriving DecidableEq

namespace Flow

/-- The flow of no bytes. -/
def nothing : Flow := {}

/-- The flow of some bytes. -/
def ofBytes (bs : Bytes) : Flow := ⟨bs, []⟩

/-- The flow of a text. -/
def ofString (s : String) : Flow := ofBytes (Text.Utf8.bytes s)

/-- Whether a flow goes on for ever. -/
def isEndless (f : Flow) : Bool :=
  !f.cycle.isEmpty

/-- One flow after another. After an endless flow nothing comes. -/
def append (f g : Flow) : Flow :=
  if f.isEndless then f else ⟨f.start ++ g.start, g.cycle⟩

instance : Append Flow := ⟨append⟩

/-- The first `n` bytes of the repetition of `cycle`, beginning with `here`. -/
def repetition (cycle : Bytes) : (n : Nat) → (here : Bytes) → Bytes
  | 0, _ => []
  | n + 1, b :: rest => b :: repetition cycle n rest
  | n + 1, [] =>
    match cycle with
    | [] => []
    | b :: rest => b :: repetition cycle n rest

/-- The first `n` bytes, or all if there are fewer. -/
def take (n : Nat) (f : Flow) : Bytes :=
  f.start.take n ++ repetition f.cycle (n - f.start.length) []

end Flow

end TemplatePress
