import TemplatePress.Config
import TemplatePress.Text.Whitespace
import TemplatePress.Yaml.Decode

/-!
# Settings in a document

A settings document is a mapping. Each setting keeps its default when its key is missing, keys that
name no setting mean nothing, and no setting may be given twice. A repository needs its author and its
name.
-/

namespace TemplatePress

open Yaml (Decode DecodeError Document Node Route)

namespace RepositoryRef

/-- The fields of a repository, as far as they were read. -/
structure Fields where
  author : Option String := none
  repo : Option String := none
  reference : Option String := none

def fieldNames : List String := ["author", "repo", "reference"]

/-- Reads one field. -/
def setField (d : Document) (name : String) (route : Route) (n : Node) (f : Fields) :
    Decode Fields :=
  match name with
  | "author" => do return { f with author := some (← Decode.text "a string" d route n) }
  | "repo" => do return { f with repo := some (← Decode.text "a string" d route n) }
  | "reference" => do
    return { f with reference := ← Decode.optional (Decode.text "a string" d route) d n }
  | _ => return f

/-- The repository of its fields; the author is missed first. -/
def ofFields : Fields → Decode RepositoryRef
  | { author := some author, repo := some repo, reference } => return { author, repo, reference }
  | { author := none, .. } => Decode.fail (.mismatch (.missingField "author") none)
  | _ => Decode.fail (.mismatch (.missingField "repo") none)

def decode (d : Document) : Route → Node → Decode RepositoryRef :=
  Decode.record "struct RepositoryRef" fieldNames (setField d) {} ofFields d

end RepositoryRef

namespace ToolsConfig

def fieldNames : List String := ["git", "cp", "typst", "convert", "timeout_secs"]

/-- Reads one setting. -/
def setField (d : Document) (name : String) (route : Route) (n : Node) (t : ToolsConfig) :
    Decode ToolsConfig :=
  match name with
  | "git" => do return { t with git := ← Decode.text "a string" d route n }
  | "cp" => do return { t with cp := ← Decode.text "a string" d route n }
  | "typst" => do return { t with typst := ← Decode.text "a string" d route n }
  | "convert" => do return { t with convert := ← Decode.text "a string" d route n }
  | "timeout_secs" => do
    let read := Decode.unsigned Number.max64 "u64" d route
    return { t with timeoutSecs := ← Decode.optional read d n }
  | _ => return t

def decode (d : Document) : Route → Node → Decode ToolsConfig :=
  Decode.record "struct ToolsConfig" fieldNames (setField d) {} pure d

end ToolsConfig

namespace Config

def fieldNames : List String :=
  ["templates_root", "host", "repositories", "entry_point", "preview_dpi", "preview_page",
    "keep_going", "tools"]

/-- Reads one setting. -/
def setField (d : Document) (name : String) (route : Route) (n : Node) (c : Config) :
    Decode Config :=
  match name with
  | "templates_root" => do
    return { c with templatesRoot := .ofString (← Decode.text "path string" d route n) }
  | "host" => do return { c with host := ← Decode.text "a string" d route n }
  | "repositories" => do
    return { c with repositories := ← Decode.sequence (RepositoryRef.decode d) d route n }
  | "entry_point" => do return { c with entryPoint := ← Decode.text "a string" d route n }
  | "preview_dpi" => do
    return { c with previewDpi := ← Decode.unsigned Number.max32 "u32" d route n }
  | "preview_page" => do
    return { c with previewPage := ← Decode.unsigned Number.max32 "u32" d route n }
  | "keep_going" => do return { c with keepGoing := ← Decode.boolean d route n }
  | "tools" => do return { c with tools := ← ToolsConfig.decode d route n }
  | _ => return c

def decode (d : Document) : Route → Node → Decode Config :=
  Decode.record "struct Config" fieldNames (setField d) {} pure d

/-- The settings that a text gives. A text of white space alone gives none. -/
def ofText (text : String) : Except DecodeError Config :=
  if Text.isBlank text then .ok {} else Decode.ofText decode {} text

end Config

end TemplatePress
