import TemplatePress.Machine.Utility.Basic
import TemplatePress.Text.Latin

/-!
# Utilities on files and names

* `cat` prints files, or what it can read if it is given none or `-`; `head` prints their beginning;
* `mkdir` makes directories, with `-p` also those above that are missing; `touch` makes empty files;
* `basename` and `dirname` take a path apart as a text.
-/

namespace TemplatePress.Machine.Utility

open Text.Utf8 (bytes)
open Text.ShellQuoted (encode)

/-! ## 1. Printing files -/

/-- A file name in a complaint that needs quotes only for what a shell would not read as one word. -/
def bareName (name : Bytes) : Bytes :=
  let plain := fun b : UInt8 => Text.ShellQuoted.isVisible b && !(bytes " \"'$`\\*?[;&|<>()").contains b
  if name.all plain && !name.isEmpty then name else encode name

/-- The content of a file, or what can be read if the name is `-`. -/
def contentOf (s : Surroundings) (name : Bytes) : Except IoError Flow :=
  if name = bytes "-" then .ok s.input
  else if name = bytes "/dev/null" then .ok .nothing
  else (s.files.readFile ⟨name⟩).map Flow.ofBytes

/-- Prints files one after the other. -/
def catAll (names : List Bytes) (s : Surroundings) : Trace :=
  names.foldl (fun t name =>
    match contentOf { s with input := t.input } name with
    | .ok flow =>
      { t with
        printed := t.printed ++ flow,
        input := if name = bytes "-" then .nothing else t.input }
    | .error e =>
      { t with
        ending := .exited 1,
        said := t.said ++ .ofBytes (line "cat" (bareName name ++ bytes ": " ++ wordsOf e)) })
    (s.ended (.exited 0))

/-- Prints files. -/
def cat : Utility := fun arguments s =>
  match readOptions [('u', "unbuffered")] arguments with
  | .error e => refuses s "cat" e
  | .ok (_, []) => catAll [bytes "-"] s
  | .ok (_, names) => catAll names s

/-- How much of a file is printed. -/
inductive Measure where
  | bytes (n : Nat)
  | lines (n : Nat)

/-- The first lines of a row of bytes, with their ends. -/
def firstLines : Nat → Bytes → Bytes
  | 0, _ => []
  | _ + 1, [] => []
  | n + 1, b :: rest => if b = 0x0A then b :: firstLines n rest else b :: firstLines (n + 1) rest

/-- The beginning of a flow. Of an endless flow its repeated part is read once for every line. -/
def Measure.of (m : Measure) (flow : Flow) : Bytes :=
  match m with
  | .bytes n => flow.take n
  | .lines n => firstLines n (flow.take (flow.start.length + n * flow.cycle.length))

def decimal? (bs : Bytes) : Option Nat :=
  (String.ofList (Text.Latin.chars bs)).toNat?

/-- Reads a measure: `-c` and `-n` with a number that follows or is attached, or a number alone. -/
def readMeasure : List Bytes → Except Bytes (Measure × List Bytes)
  | [] => .ok (.lines 10, [])
  | argument :: rest =>
    let counted := fun (letter : UInt8) (what : String) (value : Bytes) (rest : List Bytes) =>
      match decimal? value with
      | some n => .ok (if letter = 0x63 then .bytes n else .lines n, rest)
      | none => .error (bytes ("invalid number of " ++ what ++ ": ") ++ encode value)
    match argument with
    | [0x2D, 0x63] => match rest with
      | value :: rest => counted 0x63 "bytes" value rest
      | [] => .error (misused "head" (bytes "option requires an argument -- 'c'"))
    | [0x2D, 0x6E] => match rest with
      | value :: rest => counted 0x6E "lines" value rest
      | [] => .error (misused "head" (bytes "option requires an argument -- 'n'"))
    | 0x2D :: 0x63 :: value => counted 0x63 "bytes" value rest
    | 0x2D :: 0x6E :: value => counted 0x6E "lines" value rest
    | 0x2D :: b :: value =>
      match decimal? (b :: value) with
      | some n => .ok (.lines n, rest)
      | none => .error (misused "head" (bytes "invalid option -- '" ++ [b] ++ bytes "'"))
    | _ => .ok (.lines 10, argument :: rest)

/-- Prints the beginning of one file, or of what it can read. -/
def head : Utility := fun arguments s =>
  match readMeasure arguments with
  | .error e => complains s "head" e
  | .ok (measure, names) =>
    let name := names.headD (bytes "-")
    match contentOf s name with
    | .ok flow => prints s (.ofBytes (measure.of flow))
    | .error e =>
      if e = .os .isDirectory then
        complains s "head" (bytes "error reading " ++ encode name ++ bytes ": " ++ wordsOf e)
      else
        complains s "head" (bytes "cannot open " ++ encode name ++ bytes " for reading: " ++
          wordsOf e)

/-! ## 2. Making directories and files -/

/-- A path and the paths above it, the topmost first. -/
def downTo (p : Path) : List Path :=
  (FileSystem.ancestorsFrom p.components.length p).reverse.filter (! ·.isEmpty)

/-- Makes the missing ones of a row of directories, each below the one before it. -/
def makeMissing (fs : FileSystem) : List Path → Except (Path × IoError) FileSystem
  | [] => .ok fs
  | p :: rest =>
    match fs.makeDirectory p with
    | .ok fs' => makeMissing fs' rest
    | .error e =>
      if fs.leadsToDirectory p then makeMissing fs rest
      else if !rest.isEmpty && fs.pathExists p then .error (p, .os .notDirectory)
      else .error (p, e)

/-- Makes one directory, with those above it if asked to. -/
def makeOne (parents : Bool) (fs : FileSystem) (name : Bytes) :
    Except (Path × IoError) FileSystem :=
  if parents && !name.isEmpty then makeMissing fs (downTo ⟨name⟩)
  else (fs.makeDirectory ⟨name⟩).mapError fun e => (⟨name⟩, e)

/-- Makes directories. -/
def mkdir : Utility := fun arguments s =>
  match readOptions [('p', "parents")] arguments with
  | .error e => refuses s "mkdir" e
  | .ok (_, []) => refuses s "mkdir" (bytes "missing operand")
  | .ok (options, names) =>
    names.foldl (fun t name =>
      match makeOne (options.contains 'p') t.files name with
      | .ok files => { t with files }
      | .error (p, e) =>
        { t with
          ending := .exited 1,
          said := t.said ++ .ofBytes (line "mkdir" (bytes "cannot create directory " ++
            encode p.bytes ++ bytes ": " ++ wordsOf e)) })
      (s.ended (.exited 0))

/-- Makes empty files where nothing stands. -/
def touch : Utility := fun arguments s =>
  match readOptions [] arguments with
  | .error e => refuses s "touch" e
  | .ok (_, []) => refuses s "touch" (bytes "missing file operand")
  | .ok (_, names) =>
    names.foldl (fun t name =>
      if t.files.pathExists ⟨name⟩ then t
      else
        match t.files.writeFile ⟨name⟩ [] with
        | .ok files => { t with files }
        | .error e =>
          { t with
            ending := .exited 1,
            said := t.said ++ .ofBytes (line "touch" (bytes "cannot touch " ++ encode name ++
              bytes ": " ++ wordsOf e)) })
      (s.ended (.exited 0))

/-! ## 3. Taking paths apart -/

/-- A text without the separators at its end. -/
def dropSeparators (bs : Bytes) : Bytes :=
  (bs.reverse.dropWhile (· = Path.separator)).reverse

/-- The last part of a path as a text. -/
def lastOf (path : Bytes) : Bytes :=
  let trimmed := dropSeparators path
  if trimmed.isEmpty && !path.isEmpty then [Path.separator]
  else (trimmed.reverse.takeWhile (· ≠ Path.separator)).reverse

/-- A name without an ending, unless it is all of the name. -/
def withoutSuffix (ending name : Bytes) : Bytes :=
  if ending.isSuffixOf name && ending ≠ name then name.take (name.length - ending.length) else name

/-- What a path names. -/
def basename : Utility := fun arguments s =>
  match readOptions [] arguments with
  | .error e => refuses s "basename" e
  | .ok (_, []) => refuses s "basename" (bytes "missing operand")
  | .ok (_, [path]) => prints s (.ofBytes (lastOf path ++ [0x0A]))
  | .ok (_, [path, ending]) => prints s (.ofBytes (withoutSuffix ending (lastOf path) ++ [0x0A]))
  | .ok (_, _ :: _ :: extra :: _) => refuses s "basename" (bytes "extra operand " ++ encode extra)

/-- The path above. -/
def aboveOf (path : Bytes) : Bytes :=
  let trimmed := dropSeparators path
  if trimmed.isEmpty then (if path.isEmpty then Path.here else [Path.separator])
  else if trimmed.contains Path.separator then
    let rest := trimmed.take (trimmed.length - (lastOf trimmed).length)
    if (dropSeparators rest).isEmpty then [Path.separator] else dropSeparators rest
  else Path.here

/-- The directories of paths. -/
def dirname : Utility := fun arguments s =>
  match readOptions [] arguments with
  | .error e => refuses s "dirname" e
  | .ok (_, []) => refuses s "dirname" (bytes "missing operand")
  | .ok (_, paths) => prints s (.ofBytes (paths.flatMap fun p => aboveOf p ++ [0x0A]))

end TemplatePress.Machine.Utility
