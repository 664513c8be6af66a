import TemplatePress.Toolchain

/-!
# Faults

A toolchain some of whose calls fail. The calls of each kind are counted from one; a fault names a
kind, an error, and which call of that kind it meets, or none for every call. A call that meets a
fault does not reach the toolchain.
-/

namespace TemplatePress

/-- An error that calls of one kind meet. -/
structure Fault where
  kind : ToolCall.Kind
  /-- Which call of the kind fails; none for all of them. -/
  nth : Option Nat := none
  error : ToolError

/-- The state of a toolchain with the kinds of the calls so far. -/
structure Counted (σ : Type) where
  inner : σ
  seen : List ToolCall.Kind

namespace Fault

/-- The first fault that the `count`th call of a kind meets. -/
def meets? (faults : List Fault) (kind : ToolCall.Kind) (count : Nat) : Option Fault :=
  faults.find? fun f => f.kind = kind && (f.nth = none || f.nth = some count)

end Fault

/-- A toolchain whose calls meet faults first. -/
def Toolchain.withFaults {σ : Type} (t : Toolchain σ) (faults : List Fault) :
    Toolchain (Counted σ) where
  run call := fun w =>
    let seen := call.kind :: w.tools.seen
    match Fault.meets? faults call.kind (seen.count call.kind) with
    | some fault => .error fault.error ⟨w.files, w.tools.inner, seen⟩
    | none =>
      match t.run call ⟨w.files, w.tools.inner⟩ with
      | .ok () w' => .ok () ⟨w'.files, w'.tools, seen⟩
      | .error e w' => .error e ⟨w'.files, w'.tools, seen⟩

end TemplatePress
