import TemplatePress.Toolchain

/-!
# Rehearsal

A toolchain that needs no outside program. Cloning copies a fixture, copying copies, compiling
writes a document that begins with a mark and goes on with the source, and drawing writes the
number of the page and the resolution. Every call is recorded before it is carried out.

* A source with `// fail-compile` in it does not compile.
* A page cannot be drawn of a document that does not exist.
-/

namespace TemplatePress

/-- What a rehearsal clones. -/
structure Rehearsal where
  /-- The directory that stands for every repository; without one a clone is an empty directory. -/
  fixture : Option Path := none
  /-- Whether every clone fails. -/
  failClone : Bool := false

namespace Rehearsal

/-- Whether a row of characters occurs in another. -/
def occursIn (needle : List Char) : List Char → Bool
  | [] => needle.isEmpty
  | c :: rest => needle.isPrefixOf (c :: rest) || occursIn needle rest

/-- A source that contains this does not compile. -/
def failMarker : String := "// fail-compile"

/-- A tool that ends with code one. -/
def failure (tool diagnostic : String) : ToolError :=
  .failed tool "exit status: 1" diagnostic

/-- What a compiled document says. -/
def compiled (text : String) : Bytes :=
  Text.Utf8.bytes ("%PDF-fake\n" ++ text)

/-- What a drawn page says. -/
def drawn (page dpi : Nat) : Bytes :=
  Text.Utf8.bytes ("JPEG page=" ++ toString page ++ " dpi=" ++ toString dpi)

/-- Carries out a call. -/
def perform (r : Rehearsal) : ToolCall → EStateM ToolError FileSystem Unit
  | .clone url destination => fun fs =>
    if r.failClone then .error (failure "git" ("fatal: repository '" ++ url ++ "' not found")) fs
    else
      let copy := match r.fixture with
        | some fixture => FileSystem.copyTree fixture destination
        | none => FileSystem.makeDirectories destination
      match copy fs with
      | .ok () fs' => .ok () fs'
      | .error e fs' => .error (.io e) fs'
  | .checkout _ _ => pure ()
  | .copyTree source destination => fun fs =>
    match FileSystem.copyTree source destination fs with
    | .ok () fs' => .ok () fs'
    | .error e fs' => .error (.io e) fs'
  | .compile source output => fun fs =>
    match fs.readText source with
    | .error e => .error (.io e) fs
    | .ok text =>
      if occursIn failMarker.toList text.toList then
        .error (failure "typst" ("error: failed to compile " ++ source.display)) fs
      else
        match fs.writeFile output (compiled text) with
        | .ok fs' => .ok () fs'
        | .error e => .error (.io e) fs
  | .rasterize document page dpi output => fun fs =>
    if fs.pathExists document then
      match fs.writeFile output (drawn page dpi) with
      | .ok fs' => .ok () fs'
      | .error e => .error (.io e) fs
    else .error (failure "convert" ("unable to open image '" ++ document.display ++ "'")) fs

/-- The rehearsal as a toolchain that records its calls, oldest first. -/
def toolchain (r : Rehearsal) : Toolchain (List ToolCall) where
  run call := fun w =>
    let calls := w.tools ++ [call]
    match r.perform call w.files with
    | .ok () files => .ok () ⟨files, calls⟩
    | .error e files => .error e ⟨files, calls⟩

end Rehearsal

end TemplatePress
