import Mathlib.Data.List.Basic
import TemplatePress.Proofs.Lookups

/-!
# Regions of a file system

What an operation may touch is a region, mostly a location with everything below it. This file
fixes how two file systems compare that differ in a region only:

* `SameOutside`: nothing outside the region differs, and `SameListings`: nor do directories without
  an entry in it list differently; `Kept` is both;
* `Framed`: besides what is at and below a location, only directories that were missing above it may
  be new;
* `Grows`: in the region entries may come, but every directory and link stays and no link is new;
* `Apart`: what a path leads to does not depend on the region, and `Steady`: it leads to a directory
  that does not;
* `Straight`: a path without `..` on whose way no link stands, so that it leads to its `place`.
-/

namespace TemplatePress

def Entry.isLink : Entry → Bool
  | .link _ => true
  | _ => false

namespace FileSystem

open TemplatePress.Path (Step)

/-! ## 1. Listings -/

theorem nameIn?_concat (dir : Location) (n : Name) : Location.nameIn? dir (dir ++ [n]) = some n :=
  Location.nameIn?_eq_some_iff.2 rfl

/-- **The depth leaves out nothing that stands in the directory.** -/
theorem children_eq (fs : FileSystem) (dir : Location) :
    fs.children dir =
      fs.entries.filterMap fun x => (Location.nameIn? dir x.1).map fun n => (n, x.2) := by
  refine List.filterMap_congr fun x _ => ?_
  cases hk : Location.nameIn? dir x.1 with
  | none => simp [hk]
  | some n => simp [Location.nameIn?_eq_some_iff.1 hk, nameIn?_concat]

theorem children_keepWhere (fs : FileSystem) (p : Location → Bool)
    (closed : ∀ dir n, p (dir ++ [n]) = true → p dir = true) (dir : Location) :
    (fs.keepWhere p closed).children dir = (fs.children dir).filter fun x => p (dir ++ [x.1]) := by
  simp only [children_eq, keepWhere, List.filterMap_filter, List.filter_filterMap]
  refine List.filterMap_congr fun x _ => ?_
  obtain ⟨k, e⟩ := x
  cases hk : Location.nameIn? dir k with
  | none => simp
  | some n =>
    obtain rfl := Location.nameIn?_eq_some_iff.1 hk
    cases hp : p (dir ++ [n]) <;> simp [Option.filter, hp]

/-- A listing with an entry of a name: in place if there is one, else last. -/
def putListed (listed : List (Name × Entry)) (n : Name) (e : Entry) : List (Name × Entry) :=
  if n ∈ listed.map Prod.fst then listed.map fun x => if x.1 = n then (n, e) else x
  else listed ++ [(n, e)]

theorem mem_names_children {fs : FileSystem} {dir : Location} {n : Name} :
    n ∈ (fs.children dir).map Prod.fst ↔ dir ++ [n] ∈ fs.entries.map Prod.fst := by
  rw [children_eq]
  constructor
  · intro h
    obtain ⟨x, hx, rfl⟩ := List.mem_map.1 h
    obtain ⟨⟨k, e⟩, hmem, hk⟩ := List.mem_filterMap.1 hx
    obtain ⟨m, hm, rfl⟩ := Option.map_eq_some_iff.1 hk
    exact List.mem_map.2 ⟨_, hmem, Location.nameIn?_eq_some_iff.1 hm⟩
  · intro h
    obtain ⟨⟨k, e⟩, hmem, rfl⟩ := List.mem_map.1 h
    exact List.mem_map.2 ⟨(n, e), List.mem_filterMap.2 ⟨_, hmem, by simp [nameIn?_concat]⟩, rfl⟩

/-- **Putting an entry changes the listing of its directory only.** -/
theorem children_put {fs : FileSystem} {dir : Location} {n : Name} {e : Entry}
    (h : fs.admits dir n e = true) (d : Location) :
    (fs.put dir n e).children d =
      if d = dir then putListed (fs.children dir) n e else fs.children d := by
  have hother : d ≠ dir → Location.nameIn? d (dir ++ [n]) = none := by
    intro hd
    cases hk : Location.nameIn? d (dir ++ [n]) with
    | none => rfl
    | some m => exact absurd (List.append_inj_left' (Location.nameIn?_eq_some_iff.1 hk) rfl).symm hd
  have hentries : (fs.put dir n e).entries = putIn fs.entries (dir ++ [n]) e := by
    simp only [put, h, dif_pos]
  simp only [putListed, mem_names_children]
  rw [children_eq, hentries, putIn_eq]
  by_cases hmem : dir ++ [n] ∈ fs.entries.map Prod.fst
  · rw [if_pos hmem, if_pos hmem, overwrite, List.filterMap_map]
    split <;> rename_i hd
    · subst hd
      rw [children_eq, List.map_filterMap]
      refine List.filterMap_congr fun x _ => ?_
      obtain ⟨k, v⟩ := x
      by_cases hk : k = d ++ [n]
      · simp [hk, nameIn?_concat]
      · cases hm : Location.nameIn? d k with
        | none => simp [hk, hm]
        | some m =>
          obtain rfl := Location.nameIn?_eq_some_iff.1 hm
          have hmn : m ≠ n := fun heq => hk (by rw [heq])
          simp [hmn, nameIn?_concat]
    · rw [children_eq]
      refine List.filterMap_congr fun x _ => ?_
      obtain ⟨k, v⟩ := x
      by_cases hk : k = dir ++ [n]
      · simp [hk, hother hd]
      · simp [hk]
  · rw [if_neg hmem, if_neg hmem, List.filterMap_append]
    split <;> rename_i hd
    · simp [hd, nameIn?_concat, children_eq]
    · simp [hother hd, children_eq]

/-! ## 2. Equal outside a region -/

/-- A location and everything below it. -/
def Below (top : Location) (loc : Location) : Prop :=
  top <+: loc

/-- The file systems differ in the region only. -/
structure SameOutside (region : Location → Prop) (fs fs' : FileSystem) : Prop where
  home : fs'.home = fs.home
  entry : ∀ loc, ¬ region loc → fs'.at? loc = fs.at? loc

namespace SameOutside

variable {region region' : Location → Prop} {fs fs' fs'' : FileSystem}

theorem refl (region : Location → Prop) (fs : FileSystem) : SameOutside region fs fs :=
  ⟨rfl, fun _ _ => rfl⟩

theorem trans (h : SameOutside region fs fs') (h' : SameOutside region fs' fs'') :
    SameOutside region fs fs'' :=
  ⟨h'.home.trans h.home, fun loc hloc => (h'.entry loc hloc).trans (h.entry loc hloc)⟩

theorem mono (h : SameOutside region fs fs') (hr : ∀ loc, region loc → region' loc) :
    SameOutside region' fs fs' :=
  ⟨h.home, fun loc hloc => h.entry loc fun hin => hloc (hr loc hin)⟩

/-! Look-ups read where they start and what stands at locations, and nothing else. -/

section Nowhere

variable (h : SameOutside (fun _ => False) fs fs')

include h

theorem walkSteps_eq (follow : Bool) (expand : Walk) (dir : Location) (steps : List Step)
    (slash : Bool) :
    fs'.walkSteps follow expand dir steps slash = fs.walkSteps follow expand dir steps slash := by
  induction steps generalizing dir with
  | nil => rfl
  | cons step steps ih => cases step <;> simp only [walkSteps, h.entry _ not_false, ih]

theorem walk_eq (follow : Bool) (links : Nat) : fs'.walk follow links = fs.walk follow links := by
  induction links with
  | zero =>
    funext dir steps slash
    rw [walk_zero, walk_zero, h.walkSteps_eq]
  | succ links ih =>
    funext dir steps slash
    rw [walk_succ, walk_succ, h.walkSteps_eq, ih]

/-- **Every look-up ends in the same way where nothing differs.** -/
theorem spot_eq (follow : Bool) (p : Path) : fs'.spot follow p = fs.spot follow p := by
  simp only [spot, h.home, h.walk_eq]

theorem stat?_eq (p : Path) : fs'.stat? p = fs.stat? p := by
  simp only [stat?, present, h.spot_eq, h.entry _ not_false]

end Nowhere

end SameOutside

/-- A directory with no entry in the region lists what it listed, in the same order. -/
def SameListings (region : Location → Prop) (fs fs' : FileSystem) : Prop :=
  ∀ dir, (∀ n, ¬ region (dir ++ [n])) → fs'.children dir = fs.children dir

namespace SameListings

variable {region region' : Location → Prop} {fs fs' fs'' : FileSystem}

theorem refl (region : Location → Prop) (fs : FileSystem) : SameListings region fs fs :=
  fun _ _ => rfl

theorem trans (h : SameListings region fs fs') (h' : SameListings region fs' fs'') :
    SameListings region fs fs'' :=
  fun dir hdir => (h' dir hdir).trans (h dir hdir)

theorem mono (h : SameListings region fs fs') (hr : ∀ loc, region loc → region' loc) :
    SameListings region' fs fs' :=
  fun dir hdir => h dir fun n hin => hdir n (hr _ hin)

end SameListings

/-- Putting an entry in the region keeps the listings away from it. -/
theorem sameListings_put {fs : FileSystem} {region : Location → Prop} {dir : Location} {n : Name}
    {e : Entry} (ha : fs.admits dir n e = true) (hr : region (dir ++ [n])) :
    SameListings region fs (fs.put dir n e) := by
  intro d hd
  rw [children_put ha, if_neg]
  rintro rfl
  exact hd n hr

/-- The file systems differ in the region only, and so do the listings of directories. -/
structure Kept (region : Location → Prop) (fs fs' : FileSystem) : Prop where
  outside : SameOutside region fs fs'
  listing : SameListings region fs fs'

namespace Kept

variable {region region' : Location → Prop} {fs fs' fs'' : FileSystem}

theorem refl (region : Location → Prop) (fs : FileSystem) : Kept region fs fs :=
  ⟨SameOutside.refl _ _, SameListings.refl _ _⟩

theorem trans (h : Kept region fs fs') (h' : Kept region fs' fs'') : Kept region fs fs'' :=
  ⟨h.outside.trans h'.outside, h.listing.trans h'.listing⟩

theorem mono (h : Kept region fs fs') (hr : ∀ loc, region loc → region' loc) :
    Kept region' fs fs' :=
  ⟨h.outside.mono hr, h.listing.mono hr⟩

end Kept

/-- Below a location, and not at it. -/
def Inside (top : Location) (loc : Location) : Prop :=
  ∃ n, Below (top ++ [n]) loc

theorem inside_iff {top loc : Location} : Inside top loc ↔ top <+: loc ∧ loc ≠ top := by
  constructor
  · rintro ⟨n, ms, rfl⟩
    exact ⟨⟨n :: ms, by simp⟩, by simp⟩
  · rintro ⟨⟨ns, rfl⟩, hne⟩
    obtain ⟨n, ms, rfl⟩ := List.exists_cons_of_ne_nil (l := ns) (by simpa using hne)
    exact ⟨n, ms, by simp⟩

theorem below_of_below {top inner : Location} (h : top <+: inner) {loc : Location}
    (hloc : Below inner loc) : Below top loc :=
  h.trans hloc

/-- The places of two names in a directory do not overlap. -/
theorem eq_of_below {dir : Location} {n m : Name} {loc : Location} (hn : Below (dir ++ [n]) loc)
    (hm : Below (dir ++ [m]) loc) : n = m := by
  have h := List.prefix_of_prefix_length_le hn hm (by simp)
  simpa using h.eq_of_length (by simp)

/-- Where only one name's place may differ, the other entries of the directory are kept. -/
theorem SameOutside.at?_sibling {fs fs' : FileSystem} {dir : Location} {n m : Name}
    (h : SameOutside (Below (dir ++ [m])) fs fs') (hn : n ≠ m) :
    fs'.at? (dir ++ [n]) = fs.at? (dir ++ [n]) :=
  h.entry _ fun hb => hn (eq_of_below List.prefix_rfl hb)

theorem extends_prune {top : Location} {fs fs' : FileSystem}
    (h : SameOutside (Below top) fs fs') : Extends (fs.prune top) fs' := by
  refine ⟨h.home, fun loc e he => ?_⟩
  by_cases hloc : loc = []
  · rw [hloc] at he ⊢
    exact he
  · rw [at?_prune fs top loc hloc] at he
    split at he
    · cases he
    · rename_i hnot
      rw [h.entry loc hnot, he]

/-- What a path leads to does not depend on what stands in the region. -/
def Apart (fs : FileSystem) (region : Location → Prop) (p : Path) : Prop :=
  ∀ fs', SameOutside region fs fs' → fs'.stat? p = fs.stat? p

/-- The path leads to the directory, whatever stands in the region. -/
def Steady (fs : FileSystem) (region : Location → Prop) (p : Path) (loc : Location) : Prop :=
  ∀ fs', SameOutside region fs fs' → fs'.Leads p loc

section Region

variable {region region' : Location → Prop} {fs fs' : FileSystem} {p : Path} {loc : Location}

/-- **A path that leads on when a place is emptied does not depend on the place.** -/
theorem apart_of_prune {top : Location} {r : Location × Entry}
    (h : (fs.prune top).stat? p = .ok r) : Apart fs (Below top) p := by
  intro fs' hs
  rw [stat?_of_extends (extends_prune hs) h,
    stat?_of_extends (extends_prune (SameOutside.refl _ fs)) h]

theorem apart_of_toBool {top : Location} (h : ((fs.prune top).stat? p).toBool = true) :
    Apart fs (Below top) p := by
  cases hs : (fs.prune top).stat? p with
  | ok r => exact apart_of_prune hs
  | error e =>
    rw [hs] at h
    cases h

/-- **No path depends on a region below a place where nothing stands.** -/
theorem apart_of_missing {top : Location} (hnone : fs.at? top = none) (htop : ¬ region top)
    (hregion : ∀ k, region k → top <+: k) (p : Path) : Apart fs region p := by
  intro fs' hs
  have hnone' : fs'.at? top = none := (hs.entry top htop).trans hnone
  refine SameOutside.stat?_eq ⟨hs.home, fun k _ => ?_⟩ p
  by_cases hk : region k
  · obtain ⟨ns, rfl⟩ := hregion k hk
    have hns : ns ≠ [] := by
      rintro rfl
      exact htop (by simpa using hk)
    rw [at?_append_eq_none (by simp [hnone']) hns, at?_append_eq_none (by simp [hnone]) hns]
  · exact hs.entry k hk

theorem Steady.leads (h : Steady fs region p loc) : fs.Leads p loc :=
  h fs (SameOutside.refl region fs)

theorem Steady.mono (h : Steady fs region p loc) (hr : ∀ k, region' k → region k) :
    Steady fs region' p loc :=
  fun fs' hs => h fs' (hs.mono hr)

theorem Steady.of_same (h : Steady fs region p loc) (hs : SameOutside region fs fs') :
    Steady fs' region p loc :=
  fun fs'' hs' => h fs'' (hs.trans hs')

end Region

/-! ## 3. New directories above -/

/-- What is kept or a new directory at each of two steps is kept or a new directory after both. -/
theorem kept_or_new_trans {up : Prop} {a b c : Option Entry}
    (h : b = a ∨ up ∧ a = none ∧ b = some .directory)
    (h' : c = b ∨ up ∧ b = none ∧ c = some .directory) :
    c = a ∨ up ∧ a = none ∧ c = some .directory := by
  rcases h with rfl | ⟨hup, hnone, hdir⟩
  · exact h'
  · rcases h' with rfl | ⟨-, hnone', -⟩
    · exact Or.inr ⟨hup, hnone, hdir⟩
    · rw [hdir] at hnone'
      cases hnone'

/-- A link that stands where an entry is kept or a new directory stood there before. -/
theorem link_of_kept_or_new {up : Prop} {a b : Option Entry}
    (h : b = a ∨ up ∧ a = none ∧ b = some .directory) {target : Path}
    (hat : b = some (.link target)) : a = some (.link target) := by
  rcases h with rfl | ⟨-, -, hdir⟩
  · exact hat
  · rw [hat] at hdir
    cases hdir

/-- At and below a location anything may differ; elsewhere only missing directories above it are
    new. -/
structure Framed (top : Location) (fs fs' : FileSystem) : Prop where
  home : fs'.home = fs.home
  entry : ∀ loc, ¬ top <+: loc → fs'.at? loc = fs.at? loc ∨
    loc <+: top ∧ fs.at? loc = none ∧ fs'.at? loc = some .directory
  listing : ∀ dir, ¬ Below top dir → ¬ dir <+: top → fs'.children dir = fs.children dir

namespace Framed

variable {top : Location} {fs fs' fs'' : FileSystem}

theorem refl (top : Location) (fs : FileSystem) : Framed top fs fs :=
  ⟨rfl, fun _ _ => Or.inl rfl, fun _ _ _ => rfl⟩

theorem trans (h : Framed top fs fs') (h' : Framed top fs' fs'') : Framed top fs fs'' :=
  ⟨h'.home.trans h.home, fun loc hloc => kept_or_new_trans (h.entry loc hloc) (h'.entry loc hloc),
    fun dir hb hup => (h'.listing dir hb hup).trans (h.listing dir hb hup)⟩

/-- No directory above is new where the directory above stands. -/
theorem sameOutside (h : Framed top fs fs') {dir : Location} {n : Name} (htop : top = dir ++ [n])
    (hdir : fs.isDirectory dir = true) : SameOutside (Below top) fs fs' := by
  refine ⟨h.home, fun loc hloc => ?_⟩
  rcases h.entry loc hloc with he | ⟨hup, hnone, -⟩
  · exact he
  · rw [htop, List.prefix_concat_iff] at hup
    rcases hup with rfl | ⟨more, hmore⟩
    · exact absurd (htop ▸ List.prefix_rfl) hloc
    · rw [← hmore] at hdir
      rw [isDirectory_iff.1 (isDirectory_of_append more hdir)] at hnone
      cases hnone

/-- A directory that is not touched stays. -/
theorem isDirectory (h : Framed top fs fs') {loc : Location} (hloc : ¬ Below top loc)
    (hdir : fs.isDirectory loc = true) : fs'.isDirectory loc = true := by
  rw [isDirectory_iff] at hdir ⊢
  rcases h.entry loc hloc with heq | ⟨-, hnone, -⟩
  · rw [heq, hdir]
  · rw [hdir] at hnone
    cases hnone

theorem link (h : Framed top fs fs') {loc : Location} (hloc : ¬ top <+: loc) {target : Path}
    (hat : fs'.at? loc = some (.link target)) : fs.at? loc = some (.link target) :=
  link_of_kept_or_new (h.entry loc hloc) hat

end Framed

theorem Kept.framed {top : Location} {fs fs' : FileSystem} (h : Kept (Below top) fs fs') :
    Framed top fs fs' := by
  refine ⟨h.outside.home, fun loc hloc => Or.inl (h.outside.entry loc hloc), fun dir hb hup => ?_⟩
  refine h.listing dir fun n hn => ?_
  rcases List.prefix_concat_iff.1 hn with rfl | hn
  · exact hup (List.prefix_append _ _)
  · exact hb hn

/-! ## 4. Growing regions -/

/-- Entries may come at and below a location, but every directory and link stays, and no link is
    new. -/
structure Grows (top : Location) (fs fs' : FileSystem) : Prop where
  outside : SameOutside (Below top) fs fs'
  listing : SameListings (Below top) fs fs'
  directory : ∀ loc, fs.at? loc = some .directory → fs'.at? loc = some .directory
  link : ∀ loc target, fs'.at? loc = some (.link target) ↔ fs.at? loc = some (.link target)

namespace Grows

variable {top : Location} {fs fs' fs'' : FileSystem}

theorem refl (top : Location) (fs : FileSystem) : Grows top fs fs :=
  ⟨SameOutside.refl _ fs, SameListings.refl _ fs, fun _ h => h, fun _ _ => Iff.rfl⟩

theorem trans (h : Grows top fs fs') (h' : Grows top fs' fs'') : Grows top fs fs'' :=
  ⟨h.outside.trans h'.outside, h.listing.trans h'.listing,
    fun loc hloc => h'.directory loc (h.directory loc hloc),
    fun loc target => (h'.link loc target).trans (h.link loc target)⟩

theorem mono (h : Grows top fs fs') {top' : Location} (ht : top' <+: top) : Grows top' fs fs' :=
  ⟨h.outside.mono fun _ => below_of_below ht, h.listing.mono fun _ => below_of_below ht,
    h.directory, h.link⟩

theorem kept (h : Grows top fs fs') : Kept (Below top) fs fs' :=
  ⟨h.outside, h.listing⟩

theorem keepsWays (h : Grows top fs fs') : KeepsWays fs fs' :=
  ⟨h.outside.home, h.directory, fun loc target => (h.link loc target).2⟩

/-- Where nothing stood, growing only adds. -/
theorem onlyAdds (h : Grows top fs fs') (hnone : fs.at? top = none) : Extends fs fs' := by
  refine ⟨h.outside.home, fun loc e he => ?_⟩
  by_cases hloc : Below top loc
  · obtain ⟨ns, rfl⟩ := hloc
    by_cases hns : ns = []
    · rw [hns, List.append_nil, hnone] at he
      cases he
    · rw [at?_append_eq_none (by simp [hnone]) hns] at he
      cases he
  · rw [h.outside.entry loc hloc, he]

end Grows

/-- No link stands at or below the location. -/
def LinkFree (fs : FileSystem) (top : Location) : Prop :=
  ∀ loc, top <+: loc → ∀ target, fs.at? loc ≠ some (.link target)

theorem LinkFree.grows {top top' : Location} {fs fs' : FileSystem} (h : fs.LinkFree top)
    (hg : Grows top' fs fs') : fs'.LinkFree top :=
  fun loc hloc target hat => h loc hloc target ((hg.link loc target).1 hat)

/-- A file system of which no entry is a link is free of links. -/
theorem linkFree_of_entries {fs : FileSystem} (h : ∀ x ∈ fs.entries, x.2.isLink = false)
    (top : Location) : fs.LinkFree top := by
  rintro loc - target hat
  by_cases hloc : loc = []
  · rw [hloc] at hat
    cases hat
  · have := h _ ((at?_eq_some_iff hloc).1 hat)
    cases this

/-- No link stands where nothing is below a place and no link at it. -/
theorem linkFree_of_empty {fs : FileSystem} {top : Location}
    (h : ∀ target, fs.at? top ≠ some (.link target))
    (hempty : ∀ ns, ns ≠ [] → fs.at? (top ++ ns) = none) : fs.LinkFree top := by
  rintro _ ⟨ns, rfl⟩ target hat
  by_cases hns : ns = []
  · rw [hns, List.append_nil] at hat
    exact h target hat
  · rw [hempty ns hns] at hat
    cases hat

theorem linkFree_of_none {top : Location} {fs : FileSystem} (h : fs.at? top = none) :
    fs.LinkFree top :=
  linkFree_of_empty (by simp [h]) fun _ hns => at?_append_eq_none (by simp [h]) hns

/-- **Putting a directory or file where no directory or link stands lets the region grow.** -/
theorem grows_put {fs : FileSystem} {dir : Location} {n : Name} {e : Entry}
    (ha : fs.admits dir n e = true) (hlink : ∀ target, e ≠ .link target)
    (hfree : ∀ target, fs.at? (dir ++ [n]) ≠ some (.link target)) :
    Grows (dir ++ [n]) fs (fs.put dir n e) := by
  have hhome : (fs.put dir n e).home = fs.home := by
    unfold put
    split <;> rfl
  have hkeep : e = .directory ∨ fs.at? (dir ++ [n]) ≠ some .directory := by
    simp only [admits, Bool.and_eq_true, Bool.or_eq_true, decide_eq_true_eq] at ha
    exact ha.2
  refine ⟨⟨hhome, fun loc hloc => ?_⟩, sameListings_put ha List.prefix_rfl, fun loc hdir => ?_,
    fun loc target => ?_⟩
  · rw [at?_put ha, if_neg]
    rintro rfl
    exact hloc List.prefix_rfl
  · rw [at?_put ha]
    split
    · rename_i hloc
      rcases hkeep with rfl | hnot
      · rfl
      · exact absurd (hloc ▸ hdir) hnot
    · exact hdir
  · rw [at?_put ha]
    split
    · rename_i hloc
      subst hloc
      constructor
      · intro h
        exact absurd (Option.some.inj h) (hlink target)
      · intro h
        exact absurd h (hfree target)
    · exact Iff.rfl

/-! ## 5. Straight paths -/

/-- Where a path without `..` and without links on its way leads. -/
def place (fs : FileSystem) (p : Path) : Location :=
  fs.start p ++ p.names

/-- The path has no `..` part, and no link stands on its way or at its end. -/
def Straight (fs : FileSystem) (p : Path) : Prop :=
  p.NeverUp ∧ ∀ ns, ns <+: p.names → ns ≠ [] →
    ∀ target, fs.at? (fs.start p ++ ns) ≠ some (.link target)

theorem straight_iff {fs : FileSystem} {p : Path} :
    fs.Straight p ↔ p.NeverUp ∧ ∀ ns ∈ p.names.inits, ns ≠ [] →
      (fs.at? (fs.start p ++ ns)).any Entry.isLink = false := by
  have hlink : ∀ o : Option Entry, o.any Entry.isLink = false ↔ ∀ target, o ≠ some (.link target) := by
    intro o
    match o with
    | none => simp
    | some .directory => simp [Entry.isLink]
    | some (.file _ _) => simp [Entry.isLink]
    | some (.link _) => simp [Entry.isLink]
  simp only [Straight, List.mem_inits, hlink]

instance (fs : FileSystem) (p : Path) : Decidable (fs.Straight p) :=
  decidable_of_iff _ straight_iff.symm

/-- The names that steps lead down by. -/
def stepNames (steps : List Step) : List Name :=
  steps.filterMap Step.name?

/-- No link stands where names lead from a directory. -/
def Unlinked (fs : FileSystem) (dir : Location) (names : List Name) : Prop :=
  ∀ ns, ns <+: names → ns ≠ [] → ∀ target, fs.at? (dir ++ ns) ≠ some (.link target)

theorem Unlinked.head {fs : FileSystem} {dir : Location} {n : Name} {names : List Name}
    (h : Unlinked fs dir (n :: names)) (target : Path) :
    fs.at? (dir ++ [n]) ≠ some (.link target) :=
  h [n] (by simp) (by simp) target

theorem Unlinked.tail {fs : FileSystem} {dir : Location} {n : Name} {names : List Name}
    (h : Unlinked fs dir (n :: names)) : Unlinked fs (dir ++ [n]) names := by
  intro ns hns hne target
  have := h (n :: ns) (by simpa using hns) (by simp) target
  rwa [List.append_assoc]

section Straight

variable {fs : FileSystem} {follow slash : Bool} {expand : Walk} {s : Spot}

/-- **A walk without `..` and links ends where its names lead.** -/
theorem location_of_walkSteps {steps : List Step} {dir : Location} (hup : Step.up ∉ steps)
    (hu : Unlinked fs dir (stepNames steps))
    (h : fs.walkSteps follow expand dir steps slash = .ok s) :
    s.location = dir ++ stepNames steps ∧ ∀ m ∈ stepNames steps, m.length ≤ nameLimit := by
  induction steps generalizing dir with
  | nil =>
    cases h
    simp [Spot.location, stepNames]
  | cons step steps ih =>
    rw [List.mem_cons, not_or] at hup
    by_cases hnil : steps = []
    · subst hnil
      cases step with
      | stay =>
        cases h
        simp [Spot.location, stepNames, Step.name?]
      | up => exact absurd rfl hup.1
      | enter n =>
        obtain ⟨hn, ⟨-, rfl⟩ | ⟨target, -, hat, -⟩⟩ := walkSteps_last_ok h
        · simpa [Spot.location, stepNames, Step.name?] using hn
        · exact absurd hat (hu.head target)
    · cases step with
      | stay =>
        rw [walkSteps_stay hnil] at h
        exact ih hup.2 hu h
      | up => exact absurd rfl hup.1
      | enter n =>
        have hnames : stepNames (.enter n :: steps) = n :: stepNames steps := rfl
        obtain ⟨hn, ⟨-, hs⟩ | ⟨target, hat, -⟩⟩ := walkSteps_enter_ok hnil h
        · obtain ⟨hloc, hshort⟩ := ih hup.2 (Unlinked.tail hu) hs
          refine ⟨by simp [hloc, hnames], fun m hm => ?_⟩
          rw [hnames, List.mem_cons] at hm
          rcases hm with rfl | hm
          · exact hn
          · exact hshort m hm
        · exact absurd hat (hu.head target)

/-- **Behind such a walk a name is looked up where its names lead.** -/
theorem spot_of_walkSteps {steps : List Step} {dir : Location} {n : Name} (hup : Step.up ∉ steps)
    (hu : Unlinked fs dir (stepNames steps))
    (hlink : follow = true → ∀ target, fs.at? (dir ++ stepNames steps ++ [n]) ≠ some (.link target))
    (h : fs.walkSteps follow expand dir (steps ++ [.enter n]) slash = .ok s) :
    s = ⟨dir ++ stepNames steps, .enter n, slash⟩ ∧
      ∀ m ∈ stepNames steps ++ [n], m.length ≤ nameLimit := by
  induction steps generalizing dir with
  | nil =>
    obtain ⟨hn, ⟨-, rfl⟩ | ⟨target, hf, hat, -⟩⟩ := walkSteps_last_ok h
    · refine ⟨by simp [stepNames], fun m hm => ?_⟩
      simp only [stepNames, List.filterMap_nil, List.nil_append, List.mem_singleton] at hm
      rw [hm]
      exact hn
    · exact absurd hat (by simpa [stepNames] using hlink hf target)
  | cons step steps ih =>
    rw [List.mem_cons, not_or] at hup
    have hne : steps ++ [Step.enter n] ≠ [] := by simp
    cases step with
    | stay =>
      rw [List.cons_append, walkSteps_stay hne] at h
      exact ih hup.2 hu hlink h
    | up => exact absurd rfl hup.1
    | enter m =>
      have hnames : stepNames (.enter m :: steps) = m :: stepNames steps := rfl
      obtain ⟨hm, ⟨-, hs⟩ | ⟨target, hat, -⟩⟩ := walkSteps_enter_ok hne h
      · rw [hnames] at hlink hu
        obtain ⟨rfl, hshort⟩ := ih hup.2 (Unlinked.tail hu) (by simpa using hlink) hs
        refine ⟨by simp [hnames], fun k hk => ?_⟩
        rw [hnames, List.cons_append, List.mem_cons] at hk
        rcases hk with rfl | hk
        · exact hm
        · exact hshort k hk
      · exact absurd hat (hu.head target)

theorem walkSteps_of_isDirectory {steps : List Step} {dir : Location} (hup : Step.up ∉ steps)
    (hshort : ∀ m ∈ stepNames steps, m.length ≤ nameLimit)
    (hdir : fs.isDirectory (dir ++ stepNames steps) = true) :
    ∃ s, fs.walkSteps follow expand dir steps slash = .ok s ∧
      s.location = dir ++ stepNames steps := by
  induction steps generalizing dir with
  | nil => exact ⟨_, rfl, by simp [Spot.location, stepNames]⟩
  | cons step steps ih =>
    rw [List.mem_cons, not_or] at hup
    cases step with
    | stay =>
      by_cases hnil : steps = []
      · subst hnil
        exact ⟨_, rfl, by simp [Spot.location, stepNames, Step.name?]⟩
      · rw [walkSteps_stay hnil]
        exact ih hup.2 hshort hdir
    | up => exact absurd rfl hup.1
    | enter n =>
      have hnames : stepNames (.enter n :: steps) = n :: stepNames steps := rfl
      rw [hnames] at hshort hdir ⊢
      have hdir' : fs.isDirectory (dir ++ [n] ++ stepNames steps) = true := by simpa using hdir
      have hat := isDirectory_iff.1 (isDirectory_of_append _ hdir')
      have hn := hshort n List.mem_cons_self
      by_cases hnil : steps = []
      · subst hnil
        refine ⟨_, walkSteps_last hn fun _ target ht => ?_, by simp [Spot.location, stepNames]⟩
        rw [hat] at ht
        cases ht
      · rw [walkSteps_enter_directory hnil hn hat]
        obtain ⟨s, hs, hloc⟩ := ih hup.2 (fun m hm => hshort m (List.mem_cons_of_mem _ hm)) hdir'
        exact ⟨s, hs, by simpa using hloc⟩

/-- Along directories a walk is refused only for a name over its limit. -/
theorem walkSteps_long {steps : List Step} {dir : Location} {n : Name} (hup : Step.up ∉ steps)
    (hdir : fs.isDirectory (dir ++ stepNames steps) = true)
    (hlong : ∃ m ∈ stepNames steps, nameLimit < m.length) :
    fs.walkSteps follow expand dir (steps ++ [.enter n]) slash = .error .nameTooLong := by
  induction steps generalizing dir with
  | nil =>
    obtain ⟨m, hm, -⟩ := hlong
    cases hm
  | cons step steps ih =>
    rw [List.mem_cons, not_or] at hup
    have hne : steps ++ [Step.enter n] ≠ [] := by simp
    cases step with
    | stay =>
      rw [List.cons_append, walkSteps_stay hne]
      exact ih hup.2 hdir hlong
    | up => exact absurd rfl hup.1
    | enter k =>
      have hnames : stepNames (.enter k :: steps) = k :: stepNames steps := rfl
      by_cases hk : nameLimit < k.length
      · simp [walkSteps, hk]
      · rw [hnames] at hdir hlong
        have hdir' : fs.isDirectory (dir ++ [k] ++ stepNames steps) = true := by simpa using hdir
        have hat := isDirectory_iff.1 (isDirectory_of_append _ hdir')
        rw [List.cons_append, walkSteps_enter_directory hne (by omega) hat]
        obtain ⟨m, hm, hlen⟩ := hlong
        rcases List.mem_cons.1 hm with rfl | hm
        · exact absurd hlen hk
        · exact ih hup.2 hdir' ⟨m, hm, hlen⟩

/-- **Such a walk reads only what stands where its names lead.** -/
theorem walkSteps_congr {fs' : FileSystem} {expand' : Walk} {steps : List Step} {dir : Location}
    (hup : Step.up ∉ steps) (hu : Unlinked fs dir (stepNames steps))
    (h : ∀ ns, ns <+: stepNames steps → ns ≠ [] → fs'.at? (dir ++ ns) = fs.at? (dir ++ ns)) :
    fs'.walkSteps follow expand' dir steps slash = fs.walkSteps follow expand dir steps slash := by
  induction steps generalizing dir with
  | nil => rfl
  | cons step steps ih =>
    rw [List.mem_cons, not_or] at hup
    cases step with
    | stay =>
      unfold walkSteps
      rw [ih hup.2 hu h]
    | up => exact absurd rfl hup.1
    | enter n =>
      have hnames : stepNames (.enter n :: steps) = n :: stepNames steps := rfl
      rw [hnames] at hu h
      have hn := h [n] (by simp) (by simp)
      have hrest := ih hup.2 (Unlinked.tail hu) fun ns hns _ => by
        have := h (n :: ns) (by simpa using hns) (by simp)
        rwa [List.append_assoc]
      unfold walkSteps
      rw [hn, hrest]
      cases hat : fs.at? (dir ++ [n]) with
      | none => rfl
      | some e =>
        cases e with
        | directory => rfl
        | file _ _ => rfl
        | link target => exact absurd hat (hu.head target)

end Straight

section StraightPath

variable {fs : FileSystem} {p : Path}

/-- Where there are no links, every path without `..` is straight. -/
theorem straight_of_linkFree (h : fs.LinkFree []) (hup : p.NeverUp) : fs.Straight p :=
  ⟨hup, fun _ _ _ => h _ List.nil_prefix⟩

theorem Straight.unlinked (h : fs.Straight p) : Unlinked fs (fs.start p) (stepNames p.steps) :=
  h.2

/-- A path without `..` leads to its place if a directory with names within the limit stands
    there. -/
theorem leads_of_isDirectory (hup : p.NeverUp) (hshort : ∀ m ∈ p.names, m.length ≤ nameLimit)
    (hdir : fs.isDirectory (fs.place p) = true) : fs.Leads p (fs.place p) := by
  obtain ⟨s, hs, hloc⟩ : ∃ s, fs.walkSteps true (fs.beyond true linkLimit) (fs.start p) p.steps
      p.endsInSeparator = .ok s ∧ s.location = fs.place p :=
    walkSteps_of_isDirectory hup hshort hdir
  exact ⟨s, by rw [walk_eq, hs], hloc, hdir⟩

theorem place_of_leads (h : fs.Straight p) {loc : Location} (hl : fs.Leads p loc) :
    loc = fs.place p ∧ ∀ m ∈ p.names, m.length ≤ nameLimit := by
  obtain ⟨s, hs, rfl, -⟩ := hl
  rw [walk_eq] at hs
  exact location_of_walkSteps h.1 h.unlinked hs

/-- **The look-up of a name behind a straight path that succeeds ends at the path's place.** -/
theorem spot_straight (h : fs.Straight p) {n : Name} (hn : Name.isOrdinary n = true)
    {follow : Bool}
    (hlink : follow = true → ∀ target, fs.at? (fs.place p ++ [n]) ≠ some (.link target))
    {s : Spot} (hs : fs.spot follow (p.join ⟨n⟩) = .ok s) :
    s = ⟨fs.place p, .enter n, false⟩ ∧ nameCheck p n = .ok () ∧
      ∀ m ∈ p.names, m.length ≤ nameLimit := by
  obtain ⟨hcheck, hw⟩ := spot_eq_ok.1 hs
  rw [start_join fs p hn, Path.endsInSeparator_join_name p hn, Path.steps_join_name p hn,
    walk_eq] at hw
  obtain ⟨rfl, hshort⟩ := spot_of_walkSteps h.1 h.unlinked hlink hw
  have hlen : n.length ≤ nameLimit := hshort n (by simp)
  refine ⟨rfl, ?_, fun m hm => hshort m (List.mem_append_left _ hm)⟩
  unfold nameCheck
  rw [hcheck]
  exact if_neg (by omega)

theorem location_of_spot (h : fs.Straight p) {follow : Bool} {s : Spot}
    (hs : fs.spot follow p = .ok s) : s.location = fs.place p := by
  obtain ⟨-, hw⟩ := spot_eq_ok.1 hs
  rw [walk_eq] at hw
  exact (location_of_walkSteps h.1 h.unlinked hw).1

/-- On the way of a straight path that leads somewhere something stands everywhere. -/
theorem at?_way_ne_none (h : fs.Straight p) {r : Location × Entry} (hstat : fs.stat? p = .ok r)
    {ns : List Name} (hns : ns <+: p.names) : fs.at? (fs.start p ++ ns) ≠ none := by
  intro hnone
  obtain ⟨loc, e⟩ := r
  obtain ⟨s, hspot, rfl, hat, -⟩ := stat?_eq_ok.1 hstat
  obtain ⟨more, hmore⟩ := hns
  rw [location_of_spot h hspot, place, ← hmore, ← List.append_assoc] at hat
  by_cases hnil : more = []
  · rw [hnil, List.append_nil, hnone] at hat
    cases hat
  · rw [at?_append_eq_none (by simp [hnone]) hnil] at hat
    cases hat

/-- Where something stands at a name behind a straight path, looking it up does not find that
    nothing is there. -/
theorem isNotFound_of_spot (h : fs.Straight p) {n : Name} (hn : Name.isOrdinary n = true)
    (hdir : fs.isDirectory (fs.place p) = true) {e : IoError}
    (hs : fs.spot false (p.join ⟨n⟩) = .error e) : e.isNotFound = false := by
  by_cases hshort : ∀ m ∈ p.names, m.length ≤ nameLimit
  · have hl := leads_of_isDirectory h.1 hshort hdir
    cases hc : nameCheck p n with
    | error e' =>
      rw [spot_join_error hl hn hc] at hs
      cases hs
      exact isNotFound_of_nameCheck hn hc
    | ok =>
      rw [spot_join_unfollowed hl hn hc] at hs
      cases hs
  · obtain ⟨m, hm, hlen⟩ : ∃ m ∈ p.names, nameLimit < m.length := by
      simpa using hshort
    rcases spot_eq_error.1 hs with hcheck | ⟨-, errno, rfl, hw⟩
    · exact isNotFound_of_checkPath (Path.isEmpty_join_name p hn) hcheck
    · rw [start_join fs p hn, Path.steps_join_name p hn, walk_eq,
        walkSteps_long h.1 hdir ⟨m, hm, hlen⟩] at hw
      cases hw
      rfl

/-- **A straight path leads to the same wherever what stands on its way is the same.** -/
theorem stat?_congr {fs' : FileSystem} (h : fs.Straight p) (hhome : fs'.home = fs.home)
    (hway : ∀ ns, ns <+: p.names → fs'.at? (fs.start p ++ ns) = fs.at? (fs.start p ++ ns)) :
    fs'.stat? p = fs.stat? p := by
  have hstart : fs'.start p = fs.start p := by rw [start, start, hhome]
  have hspot : fs'.spot true p = fs.spot true p := by
    have hw : fs'.walk true linkLimit (fs'.start p) p.steps p.endsInSeparator =
        fs.walk true linkLimit (fs.start p) p.steps p.endsInSeparator := by
      rw [walk_eq, walk_eq, hstart]
      exact walkSteps_congr h.1 h.unlinked fun ns hns _ => hway ns hns
    simp only [spot, ← show fs.start p = if p.isAbsolute then [] else fs.home from rfl,
      ← show fs'.start p = if p.isAbsolute then [] else fs'.home from rfl, hw]
  unfold stat?
  rw [hspot]
  cases hs : fs.spot true p with
  | error e => rfl
  | ok s =>
    have hloc := location_of_spot h hs
    simp only [present, hloc]
    rw [place, hway _ List.prefix_rfl]

theorem Apart.of_same {fs' : FileSystem} {region : Location → Prop} (h : Apart fs region p)
    (hs : SameOutside region fs fs') : Apart fs' region p :=
  fun fs'' hs' => (h fs'' (hs.trans hs')).trans (h fs' hs).symm

/-- **A straight path does not depend on a region that its way does not enter.** -/
theorem apart_of_straight {region : Location → Prop} (h : fs.Straight p)
    (hway : ∀ ns, ns <+: p.names → ¬ region (fs.start p ++ ns)) : Apart fs region p :=
  fun _ hs => stat?_congr h hs.home fun ns hns => hs.entry _ (hway ns hns)

theorem place_join (fs : FileSystem) (p : Path) {n : Name} (hn : Name.isOrdinary n = true) :
    fs.place (p.join ⟨n⟩) = fs.place p ++ [n] := by
  rw [place, place, Path.names_join_name p hn, start_join fs p hn, List.append_assoc]

/-- A part of a way behind a path leads to the path's place or above it, or to the entry there. -/
theorem way_cases (fs : FileSystem) (p : Path) {n : Name} {more ns : List Name}
    (h : ns <+: p.names ++ n :: more) :
    ns <+: p.names ∨ Below (fs.place p ++ [n]) (fs.start p ++ ns) := by
  have hbelow : p.names ++ [n] <+: ns → Below (fs.place p ++ [n]) (fs.start p ++ ns) := by
    intro hup
    rw [Below, place, List.append_assoc]
    exact (List.prefix_append_right_inj _).2 hup
  rw [List.append_cons] at h
  rcases List.prefix_or_prefix_of_prefix h (List.prefix_append _ _) with hup | hup
  · rcases List.prefix_concat_iff.1 hup with rfl | hup
    · exact Or.inr (hbelow List.prefix_rfl)
    · exact Or.inl hup
  · exact Or.inr (hbelow hup)

theorem place_of_home {fs fs' : FileSystem} (h : fs'.home = fs.home) (p : Path) :
    fs'.place p = fs.place p := by
  rw [place, place, start, start, h]

/-- A straight path stays straight while no link comes to stand on its way. -/
theorem Straight.of_links {fs' : FileSystem} (h : fs.Straight p) (hhome : fs'.home = fs.home)
    (hl : ∀ ns, ns <+: p.names → ∀ target,
      fs'.at? (fs.start p ++ ns) = some (.link target) →
        fs.at? (fs.start p ++ ns) = some (.link target)) : fs'.Straight p := by
  refine ⟨h.1, fun ns hns hne target hat => ?_⟩
  rw [start, hhome] at hat
  exact h.2 ns hns hne target (hl ns hns target hat)

theorem Straight.join (h : fs.Straight p) {n : Name} (hn : Name.isOrdinary n = true)
    (hlink : ∀ target, fs.at? (fs.place p ++ [n]) ≠ some (.link target)) :
    fs.Straight (p.join ⟨n⟩) := by
  refine ⟨(Path.neverUp_join_name p hn).2 h.1, fun ns hns hne target hat => ?_⟩
  rw [start_join fs p hn] at hat
  rw [Path.names_join_name p hn, List.prefix_concat_iff] at hns
  rcases hns with rfl | hns
  · rw [← List.append_assoc] at hat
    exact hlink target hat
  · exact h.2 ns hns hne target hat

/-- **A straight path that leads to a directory keeps leading there, whatever is done to what
    stands in the directory.** -/
theorem steady_of_straight (h : fs.Straight p) (hl : fs.Leads p (fs.place p)) (n : Name) :
    Steady fs (Below (fs.place p ++ [n])) p (fs.place p) := by
  intro fs' hs
  have hplace : fs'.place p = fs.place p := place_of_home hs.home p
  have hnot : ¬ Below (fs.place p ++ [n]) (fs.place p) := fun hb => by
    have := hb.length_le
    simp only [List.length_append, List.length_singleton] at this
    omega
  have hdir : fs'.isDirectory (fs'.place p) = true := by
    rw [hplace, isDirectory_iff, hs.entry _ hnot, ← isDirectory_iff]
    exact hl.isDirectory
  rw [← hplace]
  exact leads_of_isDirectory h.1 (place_of_leads h hl).2 hdir

end StraightPath

end FileSystem

end TemplatePress
