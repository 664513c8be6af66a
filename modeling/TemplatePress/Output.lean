import TemplatePress.IoError
import TemplatePress.Text.Utf8

/-!
# Output

Progress is written to a stream that may take any number of the bytes it is offered, be interrupted,
refuse with an error, or fail to flush. This file fixes:

* an `Output` remembers the bytes its writer accepted;
* an interrupted write is offered again, and no stream interrupts for ever (`Writer.offer`);
* `writeAll` offers what is left until all is taken; a writer that takes nothing of what is left is
  an error;
* a line is written in pieces, one after the other.
-/

namespace TemplatePress

/-- How a stream behaves: how many of the offered bytes it takes, and whether it flushes. -/
structure Writer (ω : Type) where
  write : Bytes → ω → Except IoError Nat × ω
  flush : ω → Except IoError Unit × ω
  /-- How many writes in a row may be interrupted from here on. -/
  interruptions : ω → Nat := fun _ => 0
  interruptions_lt : ∀ bytes s e, (write bytes s).1 = .error e → e.isInterrupted = true →
      interruptions (write bytes s).2 < interruptions s := by
    grind [IoError.isInterrupted, Errno.interrupted, Errno.noSpace, Errno.brokenPipe]

/-- The state of a writer and the bytes it has accepted. -/
structure Output (ω : Type) where
  state : ω
  accepted : Bytes

namespace Writer

/-- A writer that takes everything. -/
def accepting : Writer Unit where
  write bytes s := (.ok bytes.length, s)
  flush s := (.ok (), s)

/-- A writer that refuses every write. -/
def refusing (e : IoError) (_ : e.isInterrupted = false := by decide) : Writer Unit where
  write _ s := (.error e, s)
  flush s := (.ok (), s)

/-- Offers bytes until the writer is not interrupted. -/
def offer {ω : Type} (writer : Writer ω) (bytes : Bytes) (s : ω) : Except IoError Nat × ω :=
  match _h : writer.write bytes s with
  | (.ok n, s') => (.ok n, s')
  | (.error e, s') => if _he : e.isInterrupted then writer.offer bytes s' else (.error e, s')
  termination_by writer.interruptions s
  decreasing_by
    have hlt := writer.interruptions_lt bytes s e (by rw [_h]) _he
    rwa [_h] at hlt

/-- Writes all the bytes, offering what is left as long as some of it is taken. -/
def writeAll {ω : Type} (writer : Writer ω) (bytes : Bytes) : EStateM IoError (Output ω) Unit :=
  fun out =>
    match bytes with
    | [] => .ok () out
    | b :: rest =>
      match writer.offer (b :: rest) out.state with
      | (.error e, s) => .error e { out with state := s }
      | (.ok 0, s) => .error .writeZero { out with state := s }
      | (.ok (n + 1), s) =>
        writeAll writer (rest.drop n) ⟨s, out.accepted ++ b :: rest.take n⟩
  termination_by bytes.length
  decreasing_by simp only [List.length_drop, List.length_cons]; omega

/-- Writes pieces in turn, up to the first failure. -/
def writePieces {ω : Type} (writer : Writer ω) :
    List Bytes → EStateM IoError (Output ω) Unit
  | [] => pure ()
  | piece :: rest => fun out =>
    match writer.writeAll piece out with
    | .error e out' => .error e out'
    | .ok () out' => writePieces writer rest out'

/-- Flushes the stream. -/
def flushAll {ω : Type} (writer : Writer ω) : EStateM IoError (Output ω) Unit := fun out =>
  match writer.flush out.state with
  | (.error e, s) => .error e { out with state := s }
  | (.ok (), s) => .ok () { out with state := s }

end Writer

end TemplatePress
