import TemplatePress.Environment
import TemplatePress.FileSystem.Lookup
import TemplatePress.Text.Alphanumeric
import TemplatePress.Text.Whitespace

/-!
# Environment files

A file `.env` in the working directory, or else in the nearest directory above it, sets variables that
are not set yet. Each line is empty, a comment, or a name, an equals sign and a value; `export` may
stand before the name.

* In a value, single quotes keep everything; double quotes keep spaces and comment signs; a backslash
  keeps one of a few characters. A space ends a value, and only a comment may follow.
* Outside single quotes a dollar sign and a name, which braces may enclose, stand for the variable, or
  else for a value given earlier in the file.
* The first line that is none of this ends the reading; the lines before it count.
-/

namespace TemplatePress.Environment

/-! ## 1. Values -/

/-- Where the reading of a value stands. -/
inductive ValueMode where
  | text
  /-- Between single quotes. -/
  | quoted
  /-- Behind a backslash. -/
  | escaped
  /-- In a name behind a dollar sign, which stands in reverse. -/
  | name (seen : List Char)
  /-- In a name between braces, which stands in reverse. -/
  | braced (seen : List Char)
  /-- Behind the value. -/
  | ended

/-- The character that a backslash keeps, or the line break that it stands for. -/
def unescape? (c : Char) : Option Char :=
  if c == '\\' || c == '\'' || c == '"' || c == '$' || c == ' ' then some c
  else if c == 'n' then some '\n'
  else none

/-- What a name that was read in reverse stands for, in reverse. -/
def substituted (lookup : String → String) (seen : List Char) : List Char :=
  (lookup (String.ofList seen.reverse)).toList.reverse

/-- Reads a value. `weak` says whether double quotes are open, and `seen` is the value so far, in
    reverse. -/
def readValue (lookup : String → String) :
    ValueMode → (weak : Bool) → (seen : List Char) → List Char → Option String
  | .text, weak, seen, [] => if weak then none else some (String.ofList seen.reverse)
  | .escaped, weak, seen, [] => if weak then none else some (String.ofList seen.reverse)
  | .ended, weak, seen, [] => if weak then none else some (String.ofList seen.reverse)
  | .name n, weak, seen, [] =>
    if weak then none else some (String.ofList (substituted lookup n ++ seen).reverse)
  | .quoted, _, _, [] => none
  | .braced _, _, _, [] => none
  | .ended, weak, seen, c :: rest =>
    if c == ' ' || c == '\t' then readValue lookup .ended weak seen rest
    else if c == '#' then some (String.ofList seen.reverse)
    else none
  | .escaped, weak, seen, c :: rest =>
    match unescape? c with
    | some x => readValue lookup .text weak (x :: seen) rest
    | none => none
  | .quoted, weak, seen, c :: rest =>
    if c == '\'' then readValue lookup .text weak seen rest
    else readValue lookup .quoted weak (c :: seen) rest
  | .name n, weak, seen, c :: rest =>
    if Text.isAlphanumeric c then readValue lookup (.name (c :: n)) weak seen rest
    else if c == '\x7b' && n.isEmpty then readValue lookup (.braced []) weak seen rest
    else
      let seen := substituted lookup n ++ seen
      if c == '$' then readValue lookup (.name []) weak seen rest
      else readValue lookup .text weak (c :: seen) rest
  | .braced n, weak, seen, c :: rest =>
    if c == '\x7d' then readValue lookup .text weak (substituted lookup n ++ seen) rest
    else readValue lookup (.braced (c :: n)) weak seen rest
  | .text, weak, seen, c :: rest =>
    if c == '$' then readValue lookup (.name []) weak seen rest
    else if c == '\\' then readValue lookup .escaped weak seen rest
    else if c == '"' then readValue lookup .text (!weak) seen rest
    else if weak then readValue lookup .text weak (c :: seen) rest
    else if c == '\'' then readValue lookup .quoted weak seen rest
    else if c == ' ' || c == '\t' then readValue lookup .ended weak seen rest
    else readValue lookup .text weak (c :: seen) rest

/-! ## 2. Lines -/

def startsName (c : Char) : Bool :=
  c.isAlpha || c == '_'

def continuesName (c : Char) : Bool :=
  c.isAlphanum || c == '_' || c == '.'

/-- A name and what follows it behind white space. -/
def readName : List Char → Option (String × List Char)
  | [] => none
  | c :: rest =>
    if startsName c then
      let word := (c :: rest).takeWhile continuesName
      some (String.ofList word, ((c :: rest).drop word.length).dropWhile Text.isWhiteSpace)
    else none

/-- What follows an equals sign behind white space. -/
def afterEquals : List Char → Option (List Char)
  | '=' :: rest => some (rest.dropWhile Text.isWhiteSpace)
  | _ => none

/-- The name that a line gives a value, and the text of the value. -/
def readAssignment (line : List Char) : Option (String × List Char) :=
  match readName line with
  | none => none
  | some (name, rest) =>
    match afterEquals rest with
    | some value => some (name, value)
    | none =>
      if name == "export" then
        match readName rest with
        | none => none
        | some (name, rest) => (afterEquals rest).map fun value => (name, value)
      else none

/-- Whether there is nothing but a comment. -/
def isComment (line : List Char) : Bool :=
  line.isEmpty || line.head? == some '#'

/-- The variables, and the values that the file has given so far, the latest first. -/
structure Loading where
  env : Environment
  given : List (String × String) := []

namespace Loading

/-- What a name in a value stands for. -/
def lookup (l : Loading) (name : String) : String :=
  match l.env.text? name with
  | some value => value
  | none => ((l.given.find? (·.1 == name)).map (·.2)).getD ""

/-- Gives a value. A variable that is set to a text keeps it. -/
def assign (l : Loading) (name value : String) : Loading :=
  { env := if (l.env.text? name).isSome then l.env else l.env.set name (Text.Utf8.bytes value),
    given := (name, value) :: l.given }

/-- Takes up a line; none if the line is malformed. -/
def line (l : Loading) (text : String) : Option Loading :=
  let cs := (Text.dropEndWhile Text.isWhiteSpace text.toList).dropWhile Text.isWhiteSpace
  if isComment cs then some l
  else
    match readAssignment cs with
    | none => none
    | some (name, value) =>
      if isComment value then some (l.assign name "")
      else (readValue l.lookup .text false [] value).map (l.assign name)

/-- Takes up lines, up to the first that is no text or malformed. -/
def lines (l : Loading) : List Bytes → Loading
  | [] => l
  | bytes :: rest =>
    match (Text.Utf8.decode? bytes).bind l.line with
    | none => l
    | some l' => l'.lines rest

end Loading

/-! ## 3. Files -/

/-- The lines of a file. A carriage return before a line feed belongs to the line's end. -/
def linesOf (seen : Bytes) : Bytes → List Bytes
  | [] => if seen.isEmpty then [] else [seen.reverse]
  | b :: rest =>
    if b == 0x0A then
      (match seen with
        | 0x0D :: more => more.reverse
        | _ => seen.reverse) :: linesOf [] rest
    else linesOf (b :: seen) rest

/-- The name of an environment file. -/
def fileName : Name := Text.Utf8.bytes ".env"

/-- A location as an absolute path. -/
def absolute (loc : Location) : Path :=
  ⟨Path.separator :: List.intercalate [Path.separator] loc⟩

/-- The working directory and those above it, the nearest first. -/
def directories (home : Location) : List Path :=
  (List.range (home.length + 1)).reverse.map fun n => absolute (home.take n)

/-- The content of the first environment file in a row of directories. A regular file counts, and
    one that cannot be looked at ends the search. -/
def findFile (fs : FileSystem) : List Path → Option Bytes
  | [] => none
  | dir :: above =>
    match fs.stat? (dir.join ⟨fileName⟩) with
    | .ok (_, .file content _) => some content
    | .ok _ => findFile fs above
    | .error e => if e.isNotFound then findFile fs above else none

/-- The variables after those of the environment file are set. -/
def withFile (env : Environment) (fs : FileSystem) : Environment :=
  match findFile fs (directories fs.home) with
  | none => env
  | some content => (Loading.lines ⟨env, []⟩ (linesOf [] content)).env

end TemplatePress.Environment
