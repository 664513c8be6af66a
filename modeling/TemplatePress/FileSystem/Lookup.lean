import TemplatePress.FileSystem.Basic
import TemplatePress.IoError

/-!
# Looking up paths

A look-up walks along the steps of a path from the root or the working directory. This file fixes:

* a link on the way is replaced by the steps of its target; only so many links are followed;
* steps that only lead down directories are taken at once, which changes nothing
  (`walkSteps_ahead`);
* the last step is not taken: the walk ends at a `Spot`, so that what is to be created or removed
  there can be told from what has to exist;
* a path with a zero byte, an empty path, a path or a name over its limit is refused;
* `stat?` follows a link at the end, `lstat?` only where a trailing separator asks for a directory.
-/

namespace TemplatePress.FileSystem

open TemplatePress.Path (Step)

/-- The most bytes of one name. -/
def nameLimit : Nat := 255

/-- A path has fewer bytes than this. -/
def pathLimit : Nat := 4096

/-- The most links that one look-up follows. -/
def linkLimit : Nat := 40

/-- Where a walk ends: in a directory, before its last step. -/
structure Spot where
  dir : Location
  last : Step
  /-- A trailing separator: what stands here has to be a directory. -/
  slash : Bool
  deriving DecidableEq

/-- The location that the last step leads to. -/
def Spot.location (s : Spot) : Location :=
  match s.last with
  | .stay => s.dir
  | .up => s.dir.above
  | .enter n => s.dir ++ [n]

/-! ## 1. Walking -/

/-- How a walk goes on from a directory, along steps, with or without a trailing separator. -/
abbrev Walk := Location → List Step → Bool → Except Errno Spot

/-- Where the steps of a link's target start. -/
def linkBase (dir : Location) (target : Path) : Location :=
  if target.isAbsolute then [] else dir

/-- Walks along steps; `expand` goes on behind a link. A link at the last step is followed only if
    `follow` is set. -/
def walkSteps (fs : FileSystem) (follow : Bool) (expand : Walk) : Walk
  | dir, [], slash => .ok ⟨dir, .stay, slash⟩
  | dir, .stay :: rest, slash =>
    if rest.isEmpty then .ok ⟨dir, .stay, slash⟩ else walkSteps fs follow expand dir rest slash
  | dir, .up :: rest, slash =>
    if rest.isEmpty then .ok ⟨dir, .up, slash⟩
    else walkSteps fs follow expand dir.above rest slash
  | dir, .enter n :: rest, slash =>
    if n.length > nameLimit then .error .nameTooLong
    else if rest.isEmpty then
      match fs.at? (dir ++ [n]) with
      | some (.link target) =>
        if follow then
          expand (linkBase dir target) target.steps (slash || target.endsInSeparator)
        else .ok ⟨dir, .enter n, slash⟩
      | _ => .ok ⟨dir, .enter n, slash⟩
    else
      match fs.at? (dir ++ [n]) with
      | none => .error .notFound
      | some .directory => walkSteps fs follow expand (dir ++ [n]) rest slash
      | some (.file _ _) => .error .notDirectory
      | some (.link target) => expand (linkBase dir target) (target.steps ++ rest) slash

/-- The names of steps that all lead down by a name within the limit. -/
def descent? : List Step → Option (List Name)
  | [] => some []
  | .enter n :: rest => if n.length ≤ nameLimit then (descent? rest).map (n :: ·) else none
  | _ :: _ => none

/-- The directory that all steps but the last lead down to, with the last one; where they do not
    lead down directories, the steps as they are. -/
def ahead (fs : FileSystem) (dir : Location) (steps : List Step) : Location × List Step :=
  match descent? steps.dropLast, steps.getLast? with
  | some names, some last =>
    if fs.isDirectory (dir ++ names) then (dir ++ names, [last]) else (dir, steps)
  | _, _ => (dir, steps)

theorem isDirectory_of_append {fs : FileSystem} {dir : Location} (names : List Name)
    (h : fs.isDirectory (dir ++ names) = true) : fs.isDirectory dir = true := by
  induction names generalizing dir with
  | nil => simpa using h
  | cons n names ih =>
    have hn : fs.isDirectory (dir ++ [n]) = true := ih (by simpa using h)
    exact isDirectory_of_at? (by simpa [isDirectory] using hn)

theorem walkSteps_descent {fs : FileSystem} {follow : Bool} {expand : Walk} {slash : Bool}
    {last : Step} {steps : List Step} {names : List Name} {dir : Location}
    (hs : descent? steps = some names) (h : fs.isDirectory (dir ++ names) = true) :
    walkSteps fs follow expand dir (steps ++ [last]) slash =
      walkSteps fs follow expand (dir ++ names) [last] slash := by
  induction steps generalizing names dir with
  | nil =>
    simp only [descent?, Option.some.injEq] at hs
    simp [← hs]
  | cons s steps ih =>
    match s with
    | .enter n =>
      simp only [descent?] at hs
      split at hs
      case isFalse => simp at hs
      case isTrue hn =>
        obtain ⟨more, hmore, rfl⟩ := Option.map_eq_some_iff.1 hs
        have hn' : ¬ nameLimit < n.length := by omega
        have hmoreDir : fs.isDirectory (dir ++ [n] ++ more) = true := by simpa using h
        have hdir : fs.at? (dir ++ [n]) = some .directory := by
          simpa [isDirectory] using isDirectory_of_append more hmoreDir
        simp [walkSteps, hn', hdir, ih hmore hmoreDir]
    | .stay => simp [descent?] at hs
    | .up => simp [descent?] at hs

/-- **Going ahead changes nothing.** -/
theorem walkSteps_ahead (fs : FileSystem) (follow : Bool) (expand : Walk) (dir : Location)
    (steps : List Step) (slash : Bool) :
    walkSteps fs follow expand (fs.ahead dir steps).1 (fs.ahead dir steps).2 slash =
      walkSteps fs follow expand dir steps slash := by
  unfold ahead
  split
  case h_2 => rfl
  case h_1 names last hnames hlast =>
    split
    case isFalse => rfl
    case isTrue h =>
      have hsteps : steps.dropLast ++ [last] = steps := by
        obtain ⟨front, rfl⟩ := List.getLast?_eq_some_iff.1 hlast
        simp
      rw [← walkSteps_descent hnames h, hsteps]

/-- Walks along steps, following at most `links` links. -/
def walk (fs : FileSystem) (follow : Bool) : (links : Nat) → Walk
  | 0, dir, steps, slash =>
    let (dir, steps) := fs.ahead dir steps
    walkSteps fs follow (fun _ _ _ => .error .linkLoop) dir steps slash
  | links + 1, dir, steps, slash =>
    let (dir, steps) := fs.ahead dir steps
    walkSteps fs follow (walk fs follow links) dir steps slash

theorem walk_zero (fs : FileSystem) (follow : Bool) (dir : Location) (steps : List Step)
    (slash : Bool) : fs.walk follow 0 dir steps slash =
      fs.walkSteps follow (fun _ _ _ => .error .linkLoop) dir steps slash :=
  walkSteps_ahead fs follow _ dir steps slash

theorem walk_succ (fs : FileSystem) (follow : Bool) (links : Nat) (dir : Location)
    (steps : List Step) (slash : Bool) : fs.walk follow (links + 1) dir steps slash =
      fs.walkSteps follow (fs.walk follow links) dir steps slash :=
  walkSteps_ahead fs follow _ dir steps slash

/-! ## 2. Paths -/

/-- What is refused before anything is looked up. -/
def checkPath (p : Path) : Except IoError Unit :=
  if p.bytes.contains 0 then .error .nulInPath
  else if p.isEmpty then .error (.os .notFound)
  else if p.bytes.length < pathLimit then .ok ()
  else .error (.os .nameTooLong)

/-- Where the look-up of a path ends. -/
def spot (fs : FileSystem) (follow : Bool) (p : Path) : Except IoError Spot :=
  match checkPath p with
  | .error e => .error e
  | .ok () =>
    let start := if p.isAbsolute then [] else fs.home
    match fs.walk follow linkLimit start p.steps p.endsInSeparator with
    | .ok s => .ok s
    | .error e => .error (.os e)

/-- The entry at the end of a look-up, which has to exist. -/
def present (fs : FileSystem) (s : Spot) : Except IoError (Location × Entry) :=
  match fs.at? s.location with
  | none => .error (.os .notFound)
  | some e =>
    if s.slash && !e.isDirectory then .error (.os .notDirectory) else .ok (s.location, e)

/-- What a path leads to, all links followed. -/
def stat? (fs : FileSystem) (p : Path) : Except IoError (Location × Entry) :=
  match fs.spot true p with
  | .error e => .error e
  | .ok s => fs.present s

/-- What stands at a path, which may be a link. -/
def lstat? (fs : FileSystem) (p : Path) : Except IoError (Location × Entry) :=
  match fs.spot p.endsInSeparator p with
  | .error e => .error e
  | .ok s => fs.present s

/-- Whether a path leads to anything. -/
def pathExists (fs : FileSystem) (p : Path) : Bool :=
  (fs.stat? p).toBool

/-- Whether a path leads to a directory. -/
def leadsToDirectory (fs : FileSystem) (p : Path) : Bool :=
  match fs.stat? p with
  | .ok (_, .directory) => true
  | _ => false

/-! ## 3. Reading -/

/-- The entries of the directory that a path leads to. -/
def readDirectory (fs : FileSystem) (p : Path) : Except IoError (List (Name × Entry)) :=
  match fs.stat? p with
  | .error e => .error e
  | .ok (loc, .directory) => .ok (fs.children loc)
  | .ok _ => .error (.os .notDirectory)

/-- The content of the file that a path leads to. -/
def readFile (fs : FileSystem) (p : Path) : Except IoError Bytes :=
  match fs.stat? p with
  | .error e => .error e
  | .ok (_, .file content _) => .ok content
  | .ok _ => .error (.os .isDirectory)

/-- The text in the file that a path leads to. -/
def readText (fs : FileSystem) (p : Path) : Except IoError String :=
  match fs.readFile p with
  | .error e => .error e
  | .ok content =>
    match Text.Utf8.decode? content with
    | some text => .ok text
    | none => .error .notUtf8

end TemplatePress.FileSystem
