import TemplatePress.Proofs.Courses
import TemplatePress.Proofs.Frames
import TemplatePress.Proofs.Twins
import TemplatePress.Proofs.Ways

/-!
# Building once more

What one build answers and leaves does not depend on the builds before it. This file fixes:

* whether a place can be prepared: told from its way (`prepare_way`), and a place that cannot be
  prepared keeps what stands there (`prepare_refused`);
* `Renewed`: what calls may leave of a start. Everything that decides whether a place can be
  prepared is the same there as at the start (`Renewed.prepare_outcome`);
* `Standing`: the root stands besides; two such states differ at the places of the calls only;
* `Secluded`: nothing that a build reads depends on the places of the packages;
* `generate_agree`: a build answers the same in two renewed states, and leaves the same package.
-/

namespace TemplatePress

open FileSystem

/-! ## 1. What can be prepared -/

section Prepare

variable {fs : FileSystem} {p : Path} {n : Name}

/-- **Preparing a place is refused exactly as the check of its way says.** -/
theorem prepare_way (hs : fs.Straight p) (hn : Name.isOrdinary n = true)
    (hc : checkPath (p.join ⟨n⟩) = .ok ()) (hstart : fs.isDirectory (fs.start p) = true) :
    Follows (fs.wayCheck (fs.start p) p.names n) (Package.prepare (p.join ⟨n⟩) fs) := by
  unfold Package.prepare
  rcases removeIfPresent_way hs hn hc hstart with ⟨e, heq, hway⟩ | hclears
  · rw [hway]
    simp only [heq]
    exact ⟨fs, rfl⟩
  · simp only [hclears.removed]
    exact hclears.follows

theorem removeIfPresent_checkPath {e : IoError} (hn : Name.isOrdinary n = true)
    (hc : checkPath (p.join ⟨n⟩) = .error e) : removeIfPresent (p.join ⟨n⟩) fs = .error e fs := by
  have hspot : ∀ follow, fs.spot follow (p.join ⟨n⟩) = .error e :=
    fun follow => spot_eq_error.2 (Or.inl hc)
  simp only [removeIfPresent, lstat?, hspot,
    isNotFound_of_checkPath (Path.isEmpty_join_name p hn) hc]
  rfl

theorem prepare_checkPath {e : IoError} (hn : Name.isOrdinary n = true)
    (hc : checkPath (p.join ⟨n⟩) = .error e) : Package.prepare (p.join ⟨n⟩) fs = .error e fs := by
  rw [Package.prepare, removeIfPresent_checkPath hn hc]

/-- Where look-ups start at no directory, nothing is prepared or changed. -/
theorem prepare_nowhere (hs : fs.Straight p) (hn : Name.isOrdinary n = true)
    (hstart : ¬ fs.isDirectory (fs.start p) = true) :
    ∃ e, Package.prepare (p.join ⟨n⟩) fs = .error e fs := by
  have hl : ¬ fs.Leads p (fs.place p) := fun hl =>
    hstart (isDirectory_of_append p.names hl.isDirectory)
  unfold Package.prepare
  rcases removeIfPresent_missing hs hn hl with ⟨heq, -⟩ | ⟨e, heq⟩ <;> simp only [heq]
  · exact makeDirectories_nowhere hs hn hstart
  · exact ⟨e, rfl⟩

/-- **A place that cannot be prepared keeps what stands there**; directories above it may be new. -/
theorem prepare_refused (hs : fs.Straight p) (hn : Name.isOrdinary n = true) {e : IoError}
    {fs' : FileSystem} (h : Package.prepare (p.join ⟨n⟩) fs = .error e fs') :
    Adds (fs.place p) fs fs' := by
  by_cases hl : fs.Leads p (fs.place p)
  · cases hc : nameCheck p n with
    | ok =>
      obtain ⟨fs₁, heq⟩ := exists_prepare_eq_ok (Or.inr ⟨hs, rfl⟩) hn hl hc
      rw [h] at heq
      cases heq
    | error e' =>
      simp only [Package.prepare, removeIfPresent_join_error hl hn hc] at h
      cases h
      exact Adds.refl _ _
  · unfold Package.prepare at h
    rcases removeIfPresent_missing hs hn hl with ⟨heq, -⟩ | ⟨e', heq⟩ <;> simp only [heq] at h
    · exact makeDirectories_refused hs hn h
    · cases h
      exact Adds.refl _ _

end Prepare

/-! ## 2. What calls leave of a start -/

/-- The places that some of the calls may touch. -/
def Touched (calls : List Call) (root : Location) (top : Location) : Prop :=
  ∃ call ∈ calls, call.Touches root top

/-- A state that calls may leave: it differs from the start at the places that they touch, and by
    directories made above these. Directories away from the places list what they listed. Where
    look-ups of the root start at no directory, nothing differs. -/
structure Renewed (layout : Layout) (calls : List Call) (start fs : FileSystem) : Prop where
  framed : FramedBy (Touched calls (start.place layout.root)) start fs
  listing : ∀ dir, ¬ dir <+: start.place layout.root →
    (∀ top, Touched calls (start.place layout.root) top → ¬ Below top dir ∧ ¬ dir <+: top) →
    fs.children dir = start.children dir
  nowhere : start.isDirectory (start.start layout.root) = true ∨ fs = start

section Renewed

variable {layout : Layout} {calls : List Call} {start fs fs' : FileSystem} {p : Path} {n : Name}

theorem Renewed.refl (layout : Layout) (calls : List Call) (start : FileSystem) :
    Renewed layout calls start start :=
  ⟨FramedBy.refl _ _, fun _ _ _ => rfl, Or.inr rfl⟩

/-- What a call does to a place that it touches renews the state. -/
theorem Renewed.of_framed (h : Renewed layout calls start fs) {top : Location}
    (htop : Touched calls (start.place layout.root) top) (hf : Framed top fs fs')
    (hnowhere : start.isDirectory (start.start layout.root) = true ∨ fs' = fs) :
    Renewed layout calls start fs' := by
  refine ⟨h.framed.trans (hf.framedBy htop), fun dir hdir hapart => ?_, ?_⟩
  · rw [hf.listing dir (hapart top htop).1 (hapart top htop).2, h.listing dir hdir hapart]
  · rcases h.nowhere with hstart | heq
    · exact Or.inl hstart
    · exact hnowhere.imp_right fun heq' => heq'.trans heq

theorem Renewed.mono {calls' : List Call} (h : Renewed layout calls start fs)
    (hsub : ∀ call ∈ calls, call ∈ calls') : Renewed layout calls' start fs := by
  have htop : ∀ top, Touched calls (start.place layout.root) top →
      Touched calls' (start.place layout.root) top :=
    fun top ⟨call, hcall, h⟩ => ⟨call, hsub call hcall, h⟩
  exact ⟨h.framed.mono htop, fun dir hdir hapart =>
    h.listing dir hdir fun top ht => hapart top (htop top ht), h.nowhere⟩

theorem Renewed.trans {fs'' : FileSystem} (h : Renewed layout calls start fs')
    (h' : Renewed layout calls fs' fs'') : Renewed layout calls start fs'' := by
  have hplace : fs'.place layout.root = start.place layout.root :=
    place_of_home h.framed.home layout.root
  obtain ⟨hframed', hlisting', hnowhere'⟩ := h'
  rw [hplace] at hframed' hlisting'
  refine ⟨h.framed.trans hframed', fun dir hdir hapart => ?_, ?_⟩
  · rw [hlisting' dir hdir hapart, h.listing dir hdir hapart]
  · rcases h.nowhere with hstart | rfl
    · exact Or.inl hstart
    · exact hnowhere'

theorem Renewed.start_eq (h : Renewed layout calls start fs) (p : Path) :
    fs.start p = start.start p := by
  rw [FileSystem.start, FileSystem.start, h.framed.home]

theorem Renewed.place_eq (h : Renewed layout calls start fs) (p : Path) :
    fs.place p = start.place p :=
  place_of_home h.framed.home p

/-- Above the places nothing goes and only directories come. -/
theorem Renewed.at?_above (h : Renewed layout calls start fs) {loc : Location}
    (hloc : ∀ top, Touched calls (start.place layout.root) top → ¬ Below top loc) :
    fs.at? loc = start.at? loc ∨ start.at? loc = none ∧ fs.at? loc = some .directory := by
  rcases h.framed.entry loc with ⟨top, htop, hin⟩ | heq | ⟨top, htop, -, hnew⟩
  · exact absurd hin (hloc top htop)
  · exact Or.inl heq
  · exact Or.inr hnew

section Above

variable (h : Renewed layout calls start fs)
  (hp : ∀ top, Touched calls (start.place layout.root) top → ¬ Below top (start.place p))

include h hp

theorem Renewed.at?_way {ns : List Name} (hns : ns <+: p.names) :
    fs.at? (start.start p ++ ns) = start.at? (start.start p ++ ns) ∨
      start.at? (start.start p ++ ns) = none ∧ fs.at? (start.start p ++ ns) = some .directory :=
  h.at?_above fun top htop hb =>
    hp top htop (hb.trans ((List.prefix_append_right_inj _).2 hns))

/-- A path that leads to none of the places stays straight. -/
theorem Renewed.straight (hs : start.Straight p) : fs.Straight p := by
  refine hs.of_links h.framed.home fun ns hns target hat => ?_
  rcases h.at?_way hp hns with heq | ⟨-, hdir⟩
  · rwa [← heq]
  · rw [hat] at hdir
    cases hdir

/-- **What refuses a directory behind such a path is the same as at the start.** -/
theorem Renewed.wayCheck_eq :
    fs.wayCheck (fs.start p) p.names n = start.wayCheck (start.start p) p.names n := by
  rw [h.start_eq]
  exact wayCheck_congr fun ns hns _ => h.at?_way hp hns

theorem Renewed.isDirectory_start (hstart : start.isDirectory (start.start p) = true) :
    fs.isDirectory (fs.start p) = true := by
  have hnil := h.at?_way hp (List.nil_prefix (l := p.names))
  rw [List.append_nil] at hnil
  rw [h.start_eq, isDirectory_iff]
  rw [isDirectory_iff] at hstart
  rcases hnil with heq | ⟨-, hdir⟩
  · exact heq.trans hstart
  · exact hdir

end Above

/-- No place that is touched is the root or above it. -/
theorem not_below_root {root top : Location} (h : Touched calls root top) : ¬ Below top root := by
  obtain ⟨call, -, htop⟩ := h
  exact not_below_of_touches htop (Or.inl List.prefix_rfl)

theorem Renewed.straight_root (h : Renewed layout calls start fs)
    (hs : start.Straight layout.root) : fs.Straight layout.root :=
  h.straight (fun _ => not_below_root) hs

/-- **Whether a place can be prepared is the same as at the start**, and so is the error. -/
theorem Renewed.prepare_outcome (h : Renewed layout calls start fs)
    (hp : ∀ top, Touched calls (start.place layout.root) top → ¬ Below top (start.place p))
    (hroot : start.start p = start.start layout.root) (hs : start.Straight p)
    (hn : Name.isOrdinary n = true) :
    Disk.outcome (Package.prepare (p.join ⟨n⟩) fs) =
      Disk.outcome (Package.prepare (p.join ⟨n⟩) start) := by
  cases hc : checkPath (p.join ⟨n⟩) with
  | error e =>
    rw [prepare_checkPath hn hc, prepare_checkPath hn hc]
    rfl
  | ok =>
    rcases h.nowhere with hstart | rfl
    · rw [← hroot] at hstart
      rw [(prepare_way hs hn hc hstart).outcome,
        (prepare_way (h.straight hp hs) hn hc (h.isDirectory_start hp hstart)).outcome,
        h.wayCheck_eq hp]
    · rfl

/-- A renewed state in which the root stands. -/
structure Standing (layout : Layout) (calls : List Call) (start fs : FileSystem) : Prop where
  renewed : Renewed layout calls start fs
  root : fs.isDirectory (start.place layout.root) = true

/-- **Away from the places two states with the root standing are the same**, where nothing between
    the root and a place is meant. -/
theorem Standing.at?_eq (h : Standing layout calls start fs) (h' : Standing layout calls start fs')
    {loc : Location}
    (hloc : ∀ top, Touched calls (start.place layout.root) top → ¬ Below top loc ∧
      (loc <+: top → loc <+: start.place layout.root)) : fs'.at? loc = fs.at? loc := by
  have hroot : ∀ {a : FileSystem}, Standing layout calls start a →
      loc <+: start.place layout.root → a.at? loc = some .directory := by
    rintro a ha ⟨more, hmore⟩
    refine isDirectory_iff.1 (isDirectory_of_append more ?_)
    rw [hmore]
    exact ha.root
  by_cases hup : loc <+: start.place layout.root
  · rw [hroot h hup, hroot h' hup]
  · have hkept : ∀ {a : FileSystem}, Standing layout calls start a → a.at? loc = start.at? loc := by
      intro a ha
      rcases ha.renewed.framed.entry loc with ⟨top, htop, hin⟩ | heq | ⟨top, htop, hnew, -⟩
      · exact absurd hin (hloc top htop).1
      · exact heq
      · exact absurd ((hloc top htop).2 hnew) hup
    rw [hkept h, hkept h']

/-- Every place that is touched is inside the root. -/
theorem inside_root {root top : Location} (h : Touched calls root top) : Inside root top := by
  obtain ⟨call, -, htop⟩ := h
  cases call with
  | fetch host repository =>
    obtain ⟨-, rfl⟩ := htop
    exact ⟨Layout.reposName, (List.prefix_append_right_inj _).2 (by simp)⟩
  | generate options folder =>
    obtain ⟨name, -, rfl⟩ := htop
    exact ⟨Package.dirName name, List.prefix_rfl⟩

/-- What is above a place that is touched is the root or above it, or inside the root. -/
theorem prefix_root_or_inside {root top loc : Location} (h : Touched calls root top)
    (hloc : loc <+: top) : loc <+: root ∨ Inside root loc := by
  rw [inside_iff]
  rcases List.prefix_or_prefix_of_prefix hloc (inside_iff.1 (inside_root h)).1 with hup | hup
  · exact Or.inl hup
  · by_cases heq : loc = root
    · exact Or.inl (heq ▸ List.prefix_rfl)
    · exact Or.inr ⟨hup, heq⟩

/-- Calls change the root only, and make it and what is above it. -/
theorem Renewed.framedBy_root (h : Renewed layout calls start fs) :
    FramedBy (· = start.place layout.root) start fs := by
  refine ⟨h.framed.home, fun loc => ?_⟩
  rcases h.framed.entry loc with ⟨top, htop, hin⟩ | heq | ⟨top, htop, hup, hnew⟩
  · exact Or.inl ⟨_, rfl, (inside_iff.1 (inside_root htop)).1.trans hin⟩
  · exact Or.inr (Or.inl heq)
  · rcases prefix_root_or_inside htop hup with hroot | hin
    · exact Or.inr (Or.inr ⟨_, rfl, hroot, hnew⟩)
    · exact Or.inl ⟨_, rfl, (inside_iff.1 hin).1⟩

/-- **But for what is inside the root, two states with the root standing are the same.** -/
theorem Standing.around (h : Standing layout calls start fs) (h' : Standing layout calls start fs') :
    SameOutside (Inside (start.place layout.root)) fs fs' := by
  refine ⟨h'.renewed.framed.home.trans h.renewed.framed.home.symm, fun loc hloc => ?_⟩
  refine h.at?_eq h' fun top htop => ⟨fun hin => hloc ?_, fun hup => ?_⟩
  · obtain ⟨n, hn⟩ := inside_root htop
    exact ⟨n, hn.trans hin⟩
  · exact (prefix_root_or_inside htop hup).resolve_right hloc

theorem Standing.listing (h : Standing layout calls start fs)
    (h' : Standing layout calls start fs') {dir : Location}
    (hdir : ∀ ns, ¬ Inside (start.place layout.root) (dir ++ ns)) :
    fs'.children dir = fs.children dir := by
  have hroot : ¬ dir <+: start.place layout.root := by
    rintro ⟨ns, hns⟩
    refine hdir (ns ++ [[]]) ⟨[], ?_⟩
    rw [← List.append_assoc, hns]
    exact List.prefix_rfl
  have hapart : ∀ top, Touched calls (start.place layout.root) top →
      ¬ Below top dir ∧ ¬ dir <+: top := by
    refine fun top htop => ⟨fun hb => ?_, ?_⟩
    · obtain ⟨n, hn⟩ := inside_root htop
      exact hdir [] ⟨n, by rw [List.append_nil]; exact hn.trans hb⟩
    · rintro ⟨ns, rfl⟩
      exact hdir ns (inside_root htop)
  rw [h.renewed.listing dir hroot hapart, h'.renewed.listing dir hroot hapart]

end Renewed

/-! ## 3. One build in two states -/

/-- The builds of folders. -/
def builds (options : PackageOptions) (folders : List TemplateFolder) : List Call :=
  folders.map (Call.generate options)

/-- Nothing that the builds of folders read depends on the places of their packages, but for what a
    build reads of its own package. -/
structure Secluded (layout : Layout) (options : PackageOptions) (folders : List TemplateFolder)
    (root : Location) (fs : FileSystem) : Prop where
  source : ∀ folder ∈ folders, Settled fs (PackagePlaces folders root) folder.path
  metadata : Apart fs (PackagePlaces folders root) layout.referenceMetadata
  entry : ∀ folder ∈ folders, ∀ name, folder.Builds name →
    fs.LinkFree (Layout.packagePlace root name) →
    Apart fs
      (fun loc => PackagePlaces folders root loc ∧ ¬ Below (Layout.packagePlace root name) loc)
      (layout.package name options.entryPoint).entryDocument

section Build

variable {σ : Type} {tools : Toolchain σ} {r : Rehearsal} {layout : Layout}
  {options : PackageOptions} {folders : List TemplateFolder} {folder : TemplateFolder} {name : Name}
  {start : FileSystem}

theorem touched_builds {root top : Location} : Touched (builds options folders) root top ↔
    ∃ folder ∈ folders, ∃ name, folder.Builds name ∧ top = Layout.packagePlace root name := by
  simp [Touched, builds, Call.Touches]

theorem packagePlaces_iff {root loc : Location} : PackagePlaces folders root loc ↔
    ∃ top, Touched (builds options folders) root top ∧ Below top loc := by
  simp only [touched_builds]
  constructor
  · rintro ⟨folder, hmem, name, hb, hloc⟩
    exact ⟨_, ⟨folder, hmem, name, hb, rfl⟩, hloc⟩
  · rintro ⟨top, ⟨folder, hmem, name, hb, rfl⟩, hloc⟩
    exact ⟨folder, hmem, name, hb, hloc⟩

/-- **Outside the places of the packages two states with the root standing are the same.** -/
theorem Standing.outside {fs fs' : FileSystem}
    (h : Standing layout (builds options folders) start fs)
    (h' : Standing layout (builds options folders) start fs') :
    SameOutside (PackagePlaces folders (start.place layout.root)) fs fs' := by
  refine ⟨h'.renewed.framed.home.trans h.renewed.framed.home.symm, fun loc hloc => ?_⟩
  refine h.at?_eq h' fun top htop => ⟨fun hin => hloc ?_, fun hup => ?_⟩
  · exact packagePlaces_iff.2 ⟨top, htop, hin⟩
  · obtain ⟨g, hg, m, hgm, rfl⟩ := touched_builds.1 htop
    rcases List.prefix_concat_iff.1 hup with rfl | hup
    · exact absurd ⟨g, hg, m, hgm, List.prefix_rfl⟩ hloc
    · exact hup

theorem not_packagePlaces {root loc : Location} (h : ¬ root <+: loc) :
    ¬ PackagePlaces folders root loc := by
  rintro ⟨_, -, _, -, hloc⟩
  exact h ((List.prefix_append _ _).trans hloc)

/-- The root, and what is above it, is no package's place. -/
theorem not_packagePlaces_root {root loc : Location} (h : loc <+: root) :
    ¬ PackagePlaces folders root loc := by
  rintro ⟨_, -, _, -, hloc⟩
  have := (hloc.trans h).length_le
  simp only [List.length_append, List.length_singleton] at this
  omega

/-- **An entry document without `..` is looked up in its own package.** -/
theorem apart_entryDocument {fs : FileSystem} (hs : fs.Straight layout.root)
    (hname : Name.isOrdinary (Package.dirName name) = true)
    (hfree : fs.LinkFree (Layout.packagePlace (fs.place layout.root) name))
    (hrel : (Path.ofString options.entryPoint).isAbsolute = false)
    (hup : (Path.ofString options.entryPoint).NeverUp) :
    Apart fs (fun loc => PackagePlaces folders (fs.place layout.root) loc ∧
        ¬ Below (Layout.packagePlace (fs.place layout.root) name) loc)
      (layout.package name options.entryPoint).entryDocument := by
  have hfile : (layout.package name options.entryPoint).entryDocument =
      ((layout.root.join ⟨Package.dirName name⟩).join ⟨Package.sourceName⟩).join
        (.ofString options.entryPoint) := rfl
  have hsource : Name.isOrdinary Package.sourceName = true := by decide
  rw [hfile]
  generalize hq : ((layout.root.join ⟨Package.dirName name⟩).join ⟨Package.sourceName⟩) = q
  have hstart : fs.start (q.join (.ofString options.entryPoint)) = fs.start layout.root := by
    rw [FileSystem.start, Path.isAbsolute_join q hrel, ← FileSystem.start, ← hq,
      start_join fs _ hsource, start_join fs _ hname]
  have hway : ∀ ns, ns <+: (q.join (.ofString options.entryPoint)).names →
      ns <+: layout.root.names ∨
        Below (Layout.packagePlace (fs.place layout.root) name) (fs.start layout.root ++ ns) := by
    intro ns hns
    rw [Path.names_join q hrel, ← hq, Path.names_join_name _ hsource, Path.names_join_name _ hname,
      List.append_assoc, List.append_assoc] at hns
    exact way_cases fs layout.root hns
  refine apart_of_straight ⟨?_, fun ns hns hne target => ?_⟩ fun ns hns => ?_
  · rw [Path.NeverUp, Path.steps_join q hrel, List.mem_append, not_or]
    refine ⟨?_, hup⟩
    rw [← hq]
    exact (Path.neverUp_join_name _ hsource).2 ((Path.neverUp_join_name _ hname).2 hs.1)
  · rw [hstart]
    rcases hway ns hns with h | h
    · exact hs.2 ns h hne target
    · exact hfree _ h target
  · rw [hstart]
    rintro ⟨hplace, hother⟩
    rcases hway ns hns with h | h
    · exact not_packagePlaces_root ((List.prefix_append_right_inj _).2 h) hplace
    · exact hother h

/-- **The reference metadata is no part of another package.** -/
theorem apart_referenceMetadata {fs : FileSystem} (hs : fs.Straight layout.referenceMetadata) :
    Apart fs (PackagePlaces folders (fs.place layout.root)) layout.referenceMetadata := by
  have hfile : layout.referenceMetadata = (layout.root.join ⟨Package.dirName
      (Text.Utf8.bytes Layout.referencePackage)⟩).join ⟨Package.metadataName⟩ := rfl
  have hreference : Name.isOrdinary
      (Package.dirName (Text.Utf8.bytes Layout.referencePackage)) = true := by decide
  have hmetadata : Name.isOrdinary Package.metadataName = true := by decide
  refine apart_of_straight hs fun ns hns => ?_
  rw [hfile, start_join fs _ hmetadata, start_join fs _ hreference]
  rw [hfile, Path.names_join_name _ hmetadata, Path.names_join_name _ hreference,
    List.append_assoc] at hns
  rcases way_cases fs layout.root hns with h | h
  · exact not_packagePlaces_root ((List.prefix_append_right_inj _).2 h)
  · rintro ⟨folder, hmem, name, hb, hloc⟩
    have htop : (Call.generate {} folder).Touches (fs.place layout.root)
        (Layout.packagePlace (fs.place layout.root) name) := ⟨name, hb, rfl⟩
    exact (reference_apart htop h).1 hloc

/-- **Where the root stands at the start, what holds of the start holds of every state that builds
    leave.** -/
theorem Standing.secluded {fs : FileSystem} (hs : start.Straight layout.root)
    (hroot : start.isDirectory (start.place layout.root) = true)
    (hsource : ∀ folder ∈ folders,
      Settled start (PackagePlaces folders (start.place layout.root)) folder.path ∧
        ∃ loc, start.stat? folder.path = .ok (loc, .directory))
    (hmeta : Apart start (PackagePlaces folders (start.place layout.root)) layout.referenceMetadata)
    (hentry : folders ≠ [] → (Path.ofString options.entryPoint).isAbsolute = false ∧
      (Path.ofString options.entryPoint).NeverUp)
    (h : Standing layout (builds options folders) start fs) :
    Secluded layout options folders (start.place layout.root) fs := by
  have hsame := Standing.outside ⟨Renewed.refl _ _ _, hroot⟩ h
  refine ⟨fun folder hmem => ?_, hmeta.of_same hsame, fun folder hmem name hb hfree => ?_⟩
  · obtain ⟨hsettled, loc, hstat⟩ := hsource folder hmem
    exact hsettled.of_same hstat hsame
  · obtain ⟨hrel, hup⟩ := hentry (List.ne_nil_of_mem hmem)
    rw [← h.renewed.place_eq layout.root] at hfree ⊢
    exact apart_entryDocument (h.renewed.straight_root hs) hb.isOrdinary hfree hrel hup

/-- **A folder that no package is built for is refused**, in any state. -/
theorem generate_unbuilt (tools : Toolchain σ) (layout : Layout) (options : PackageOptions)
    (h : ¬ ∃ name, folder.Builds name) :
    ∃ e, ∀ w : World σ, generate tools layout options folder w = .error e w := by
  unfold generate
  cases hname : folder.name? with
  | none => exact ⟨_, fun w => rfl⟩
  | some name =>
    by_cases hres : name = Text.Utf8.bytes Layout.referencePackage
    · refine ⟨.reservedName folder.path, fun w => ?_⟩
      simp only [hres, if_true]
    · exact absurd ⟨name, hname, hres⟩ h

theorem generate_unprepared (hb : folder.Builds name) {w : World σ} {e : IoError} {fs : FileSystem}
    (h : Package.prepare (layout.packageDir name) w.files = .error e fs) :
    generate tools layout options folder w =
      .error (.prepare (layout.packageDir name) e) { w with files := fs } := by
  unfold generate
  rw [hb.1]
  simp only [if_neg hb.2, World.onFiles, Layout.package, h]

theorem generate_prepared (hb : folder.Builds name) {w : World σ} {fs : FileSystem}
    (h : Package.prepare (layout.packageDir name) w.files = .ok () fs) :
    generate tools layout options folder w =
      match Package.fill tools layout options folder.path (layout.package name options.entryPoint)
        { w with files := fs } with
      | .error e w' => .error e w'
      | .ok () w' => .ok (Package.report name (layout.package name options.entryPoint)) w' := by
  have hdir : Package.prepare (layout.package name options.entryPoint).dir w.files = .ok () fs := h
  cases hfill : Package.fill tools layout options folder.path
    (layout.package name options.entryPoint) { w with files := fs } <;>
    simp only [generate, hb.1, if_neg hb.2, World.onFiles, hdir, hfill]

/-- What a build leaves is what filling its prepared package leaves. -/
theorem generate_left (hb : folder.Builds name) {w : World σ} {fs : FileSystem}
    (h : Package.prepare (layout.packageDir name) w.files = .ok () fs) :
    Disk.left (generate tools layout options folder w) =
      Disk.left (Package.fill tools layout options folder.path
        (layout.package name options.entryPoint) { w with files := fs }) := by
  rw [generate_prepared hb h]
  cases Package.fill tools layout options folder.path (layout.package name options.entryPoint)
    { w with files := fs } <;> rfl

section Twice

variable (hs : start.Straight layout.root)

include hs

/-- **A build renews the state**, whatever comes of it. -/
theorem Renewed.generate (ht : tools.Rehearses r) {w : World σ} (hmem : folder ∈ folders)
    (h : Renewed layout (builds options folders) start w.files) :
    Renewed layout (builds options folders) start
      (Disk.left (TemplatePress.generate tools layout options folder w)).files := by
  by_cases hb : ∃ name, folder.Builds name
  · obtain ⟨name, hb⟩ := hb
    have hs' := h.straight_root hs
    refine h.of_framed (touched_builds.2 ⟨folder, hmem, name, hb, rfl⟩)
      (generate_framed ht hb (Or.inr ⟨hs', (h.place_eq _).symm⟩)) ?_
    rcases h.nowhere with hstart | heq
    · exact Or.inl hstart
    · by_cases hstart : start.isDirectory (start.start layout.root) = true
      · exact Or.inl hstart
      · subst heq
        obtain ⟨e, he⟩ := prepare_nowhere hs hb.isOrdinary hstart
        rw [generate_unprepared hb he]
        exact Or.inr rfl
  · rw [generate_refused hb]
    exact h

theorem isDirectory_start_of_prepare (hn : Name.isOrdinary (Package.dirName name) = true)
    (hok : Disk.outcome (Package.prepare (layout.packageDir name) start) = .ok ()) :
    start.isDirectory (start.start layout.root) = true := by
  by_contra hstart
  obtain ⟨e, he⟩ := prepare_nowhere hs hn hstart
  rw [show layout.packageDir name = layout.root.join ⟨Package.dirName name⟩ from rfl, he] at hok
  cases hok

variable {w w' : World (List ToolCall)} (hmem : folder ∈ folders) (hb : folder.Builds name)

include hb in
/-- **A place that cannot be prepared at the start cannot be prepared later**, and keeps what stands
    there. -/
theorem generate_refuses (h : Renewed layout (builds options folders) start w.files) {e : IoError}
    (hno : Disk.outcome (Package.prepare (layout.packageDir name) start) = .error e) :
    ∃ fs, generate r.toolchain layout options folder w =
        .error (.prepare (layout.packageDir name) e) { w with files := fs } ∧
      ∀ loc, Below (Layout.packagePlace (start.place layout.root) name) loc →
        fs.at? loc = w.files.at? loc := by
  have hout := (h.prepare_outcome (fun _ => not_below_root) rfl hs hb.isOrdinary).trans hno
  cases hp : Package.prepare (layout.root.join ⟨Package.dirName name⟩) w.files with
  | ok _ fs =>
    rw [hp] at hout
    cases hout
  | error e' fs =>
    rw [hp] at hout
    cases hout
    refine ⟨fs, generate_unprepared hb hp, ?_⟩
    rintro loc ⟨ns, rfl⟩
    have hadds := prepare_refused (h.straight_root hs) hb.isOrdinary hp
    rw [h.place_eq] at hadds
    rw [Layout.packagePlace, List.append_assoc]
    exact hadds.below (by simp)

variable (h : Renewed layout (builds options folders) start w.files)
  (h' : Renewed layout (builds options folders) start w'.files)
  (hok : Disk.outcome (Package.prepare (layout.packageDir name) start) = .ok ())

include hmem hb h hok in
/-- A place that can be prepared at the start is prepared in a renewed state, and stands there with
    its root. -/
theorem Renewed.prepared : ∃ fs, Package.prepare (layout.packageDir name) w.files = .ok () fs ∧
    Prepared fs layout.root (start.place layout.root) (Package.dirName name) ∧
    Standing layout (builds options folders) start fs := by
  have hout := (h.prepare_outcome (fun _ => not_below_root) rfl hs hb.isOrdinary).trans hok
  obtain ⟨hframed, hprepared⟩ := prepare_packageDir hb
    (Or.inr ⟨h.straight_root hs, (h.place_eq layout.root).symm⟩)
  have hstart := isDirectory_start_of_prepare hs hb.isOrdinary hok
  cases hp : Package.prepare (layout.packageDir name) w.files with
  | error e fs =>
    rw [show layout.root.join ⟨Package.dirName name⟩ = layout.packageDir name from rfl, hp] at hout
    cases hout
  | ok _ fs =>
    rw [hp] at hframed
    have hprep := hprepared fs hp
    exact ⟨fs, rfl, hprep,
      h.of_framed (touched_builds.2 ⟨folder, hmem, name, hb, rfl⟩) hframed (Or.inl hstart),
      hprep.leads.isDirectory⟩

omit hs in
include hmem hb in
/-- **Two states in which a place is prepared are twins there**, and outside the places. -/
theorem twins_of_prepared {a b : FileSystem}
    (ha : Prepared a layout.root (start.place layout.root) (Package.dirName name))
    (hb' : Prepared b layout.root (start.place layout.root) (Package.dirName name))
    (hsa : Standing layout (builds options folders) start a)
    (hsb : Standing layout (builds options folders) start b) :
    Twins (PackagePlaces folders (start.place layout.root))
      (Layout.packagePlace (start.place layout.root) name) a b := by
  refine twins_of_empty (hsa.outside hsb) (fun dir hout => ?_)
    (hb'.directory.trans ha.directory.symm) ha.empty hb'.empty
  have hroot : ¬ dir <+: start.place layout.root := by
    rintro ⟨ns, hns⟩
    refine hout (ns ++ [Package.dirName name]) ⟨folder, hmem, name, hb, ?_⟩
    rw [← List.append_assoc, hns]
    exact List.prefix_rfl
  have hapart : ∀ top, Touched (builds options folders) (start.place layout.root) top →
      ¬ Below top dir ∧ ¬ dir <+: top := by
    refine fun top htop => ⟨fun hb => ?_, ?_⟩
    · exact hout [] (by rw [List.append_nil]; exact packagePlaces_iff.2 ⟨top, htop, hb⟩)
    · rintro ⟨ns, rfl⟩
      exact hout ns (packagePlaces_iff.2 ⟨_, htop, List.prefix_rfl⟩)
  rw [hsa.renewed.listing dir hroot hapart, hsb.renewed.listing dir hroot hapart]

include hmem hb h h' hok in
/-- **A build answers the same in two renewed states**, and leaves the same package. -/
theorem generate_agree (hsecluded : ∀ fs, Standing layout (builds options folders) start fs →
      Secluded layout options folders (start.place layout.root) fs) :
    Agree (fun a b => Twins (PackagePlaces folders (start.place layout.root))
        (Layout.packagePlace (start.place layout.root) name) a.files b.files)
      (generate r.toolchain layout options folder w)
      (generate r.toolchain layout options folder w') := by
  obtain ⟨a, hpa, ha, hsa⟩ := h.prepared hs hmem hb hok
  obtain ⟨b, hpb, hb', hsb⟩ := h'.prepared hs hmem hb hok
  have hregion : ∀ k, Below (Layout.packagePlace (start.place layout.root) name) k →
      PackagePlaces folders (start.place layout.root) k := fun k hk => ⟨folder, hmem, name, hb, hk⟩
  have hsecl := hsecluded a hsa
  have hab : Abreast a (PackagePlaces folders (start.place layout.root))
      (Layout.packagePlace (start.place layout.root) name) (layout.packageDir name)
      (Layout.packagePlace (start.place layout.root) name) a b :=
    ⟨twins_of_prepared hmem hb ha hb' hsa hsb, ha.ready hb.isOrdinary, hb'.ready hb.isOrdinary,
      SameOutside.refl _ _⟩
  -- the entry document is read in a state that stands too
  have hentry : ∀ c d, Grows (Layout.packagePlace (start.place layout.root) name) a c →
      Abreast a (PackagePlaces folders (start.place layout.root))
        (Layout.packagePlace (start.place layout.root) name) (layout.packageDir name)
        (Layout.packagePlace (start.place layout.root) name) c d →
      d.readText (layout.package name options.entryPoint).entryDocument =
        c.readText (layout.package name options.entryPoint).entryDocument := by
    intro c d hg hcd
    have hsc : Standing layout (builds options folders) start c :=
      ⟨hsa.renewed.of_framed (touched_builds.2 ⟨folder, hmem, name, hb, rfl⟩) hg.kept.framed
          (Or.inl (isDirectory_start_of_prepare hs hb.isOrdinary hok)),
        isDirectory_iff.2 (hg.directory _ (isDirectory_iff.1 hsa.root))⟩
    have hapart := (hsecluded c hsc).entry folder hmem name hb hcd.one.free
    have hstat := hapart d ⟨hcd.twins.home, fun loc hloc => hcd.twins.entry loc ?_⟩
    · simp only [readText, readFile, hstat]
    · by_cases hin : Below (Layout.packagePlace (start.place layout.root) name) loc
      · exact Or.inl hin
      · exact Or.inr fun hreg => hloc ⟨hreg, hin⟩
  have hfill : Agree (fun c d => Twins (PackagePlaces folders (start.place layout.root))
        (Layout.packagePlace (start.place layout.root) name) c.files d.files)
      (Package.fill r.toolchain layout options folder.path (layout.package name options.entryPoint)
        { w with files := a })
      (Package.fill r.toolchain layout options folder.path (layout.package name options.entryPoint)
        { w' with files := b }) :=
    fill_agree hregion hab (hsecl.source folder hmem) hsecl.metadata hentry
  rw [generate_prepared hb hpa, generate_prepared hb hpb]
  generalize Package.fill r.toolchain layout options folder.path
    (layout.package name options.entryPoint) { w with files := a } = x,
    Package.fill r.toolchain layout options folder.path
    (layout.package name options.entryPoint) { w' with files := b } = y at hfill ⊢
  cases hfill with
  | ok _ ht => exact .ok _ ht
  | error e ht => exact .error e ht

end Twice

end Build

end TemplatePress
