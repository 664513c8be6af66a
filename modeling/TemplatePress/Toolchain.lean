import TemplatePress.FileSystem.Change
import TemplatePress.Tool.Error

/-!
# Toolchains

Fetching and packaging reach four outside programs: a version control client, a copier, a compiler
and an image converter. What they are asked is a `ToolCall`; a `Toolchain` answers calls, and may
change files and a state of its own while it does. Nothing else is known of it, so whatever is
proved of fetching and packaging for all toolchains holds for every behaviour of the programs.
-/

namespace TemplatePress

/-- What an outside program is asked to do. -/
inductive ToolCall where
  /-- Clone the repository at `url` into `destination`, which does not exist yet. -/
  | clone (url : String) (destination : Path)
  /-- Check out a branch, tag or commit. -/
  | checkout (repository : Path) (reference : String)
  /-- Copy a directory with all that is in it to `destination`, which does not exist yet. -/
  | copyTree (source destination : Path)
  /-- Compile a document. -/
  | compile (source output : Path)
  /-- Draw one page of a compiled document. -/
  | rasterize (document : Path) (page dpi : Nat) (output : Path)
  deriving DecidableEq

namespace ToolCall

/-- Which capability a call asks for. -/
inductive Kind where
  | clone
  | checkout
  | copyTree
  | compile
  | rasterize
  deriving DecidableEq

def kind : ToolCall → Kind
  | .clone _ _ => .clone
  | .checkout _ _ => .checkout
  | .copyTree _ _ => .copyTree
  | .compile _ _ => .compile
  | .rasterize _ _ _ _ => .rasterize

end ToolCall

/-- The files and the state of the toolchain. -/
structure World (σ : Type) where
  files : FileSystem
  tools : σ

/-- Acts on the files of a world. -/
def World.onFiles {σ ε α : Type} (wrap : IoError → ε) (act : Disk α) : EStateM ε (World σ) α :=
  fun w =>
    match act w.files with
    | .ok a files => .ok a { w with files }
    | .error e files => .error (wrap e) { w with files }

/-- Answers to tool calls. -/
structure Toolchain (σ : Type) where
  run : ToolCall → EStateM ToolError (World σ) Unit

/-- A call with the error that it failed with, if it failed. -/
structure AnsweredCall where
  call : ToolCall
  error : Option ToolError
  deriving DecidableEq

/-- The state of a toolchain with the calls it was asked and the answer to each. -/
structure Logged (σ : Type) where
  inner : σ
  log : List AnsweredCall

/-- A toolchain that also keeps a log of its calls, oldest first. -/
def Toolchain.logged {σ : Type} (t : Toolchain σ) : Toolchain (Logged σ) where
  run call := fun w =>
    match t.run call ⟨w.files, w.tools.inner⟩ with
    | .ok () w' => .ok () ⟨w'.files, w'.tools, w.tools.log ++ [⟨call, none⟩]⟩
    | .error e w' => .error e ⟨w'.files, w'.tools, w.tools.log ++ [⟨call, some e⟩]⟩

end TemplatePress
