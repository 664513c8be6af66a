import TemplatePress.Layout
import TemplatePress.Toolchain

/-!
# Fetching

Brings a repository into its place: its reference is checked, whatever stands in its place is
removed, it is cloned, and the wanted branch, tag or commit is checked out. A step is taken only
after the ones before it succeeded.
-/

namespace TemplatePress

/-- Why a repository could not be fetched. -/
inductive FetchError where
  /-- Author or name is not an ordinary path segment. -/
  | invalidRepository (repository : String)
  | clean (path : Path) (source : IoError)
  | clone (repository : String) (source : ToolError)
  | checkout (repository reference : String) (source : ToolError)
  deriving DecidableEq

namespace FetchError

def message : FetchError → String
  | .invalidRepository repository =>
    "invalid repository reference `" ++ repository ++
      "`: author and name must be non-empty single path segments"
  | .clean path source =>
    "failed to remove previous clone at " ++ path.display ++ ": " ++ source.message
  | .clone repository source => "failed to clone " ++ repository ++ ": " ++ source.message
  | .checkout repository reference source =>
    "failed to check out `" ++ reference ++ "` in " ++ repository ++ ": " ++ source.message

/-- The messages of the errors behind this one. -/
def sources : FetchError → List String
  | .invalidRepository _ => []
  | .clean _ source => [source.message]
  | .clone _ source => source.message :: source.sources
  | .checkout _ _ source => source.message :: source.sources

end FetchError

/-- Checks out the wanted reference, if there is one. -/
def checkoutReference {σ : Type} (tools : Toolchain σ) (r : RepositoryRef) (clone : Path) :
    EStateM FetchError (World σ) Unit :=
  match r.reference with
  | none => pure ()
  | some reference => fun w =>
    match tools.run (.checkout clone reference) w with
    | .ok () w' => .ok () w'
    | .error e w' => .error (.checkout r.display reference e) w'

/-- Clones a repository into its place and checks out its reference; the place is the answer. -/
def fetch {σ : Type} (tools : Toolchain σ) (layout : Layout) (host : String) (r : RepositoryRef) :
    EStateM FetchError (World σ) Path := fun w =>
  if r.isWellFormed then
    let destination := layout.cloneDir r
    match World.onFiles (.clean destination) (FileSystem.removeIfPresent destination) w with
    | .error e w' => .error e w'
    | .ok () w' =>
      match tools.run (.clone (r.cloneUrl host) destination) w' with
      | .error e w'' => .error (.clone r.display e) w''
      | .ok () w'' =>
        match checkoutReference tools r destination w'' with
        | .error e w''' => .error e w'''
        | .ok () w''' => .ok destination w'''
  else .error (.invalidRepository r.display) w

/-- Fetches repositories in turn, up to the first failure. -/
def fetchAll {σ : Type} (tools : Toolchain σ) (layout : Layout) (host : String) :
    List RepositoryRef → EStateM FetchError (World σ) Unit
  | [] => pure ()
  | r :: rest => fun w =>
    match fetch tools layout host r w with
    | .error e w' => .error e w'
    | .ok _ w' => fetchAll tools layout host rest w'

end TemplatePress
