import TemplatePress.Path

/-!
# Repository references

A template repository is known by its author and its name on a host, with an optional branch, tag
or commit. Both become directory names of the clone, so both have to be single ordinary path
segments.
-/

namespace TemplatePress

/-- A remote template repository. -/
structure RepositoryRef where
  author : String
  repo : String
  /-- Branch, tag or commit to check out after cloning. -/
  reference : Option String := none
  deriving DecidableEq

namespace RepositoryRef

/-- Where the repository is cloned from. -/
def cloneUrl (r : RepositoryRef) (host : String) : String :=
  "https://" ++ host ++ "/" ++ r.author ++ "/" ++ r.repo ++ ".git"

/-- The reference as messages show it. -/
def display (r : RepositoryRef) : String :=
  r.author ++ "/" ++ r.repo ++
    match r.reference with
    | none => ""
    | some reference => "@" ++ reference

/-- A text that is one ordinary path segment. -/
def isSegment (s : String) : Bool :=
  s != "" && s != "." && s != ".." && !s.toList.contains '/'

/-- Whether author and name are ordinary path segments. -/
def isWellFormed (r : RepositoryRef) : Bool :=
  isSegment r.author && isSegment r.repo

end RepositoryRef

end TemplatePress
