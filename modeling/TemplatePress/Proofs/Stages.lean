import TemplatePress.Proofs.Destinations
import TemplatePress.Proofs.Duplicates
import TemplatePress.Proofs.StalePackages

/-!
# What a failed build leaves

A build that fails stops where it is. This file fixes:

* `Begun`: a package after some of its steps holds the entries that these make, and no other. Each
  step adds its own (`begun_source`, `begun_metadata`, `begun_document`);
* `Left`: the state behind each error, down to which entries stand in the package
  (`generate_error_left`);
* `Traced`: what is known of the preview of every name behind such builds. One more build keeps it
  (`Traced.attempt`);
* `attempts_left`: behind any builds the preview of a name is found exactly if the last build for the
  name succeeded, and one more that fails leaves the state of its error.
-/

namespace TemplatePress

open FileSystem

/-! ## 1. Packages that are begun -/

namespace FileSystem

/-- In the directory stand entries of just these names. -/
structure HoldsJust (fs : FileSystem) (place : Location) (names : List Name) : Prop where
  directory : fs.at? place = some .directory
  entries : ∀ n, fs.at? (place ++ [n]) ≠ none ↔ n ∈ names

theorem HoldsJust.grow {fs fs' : FileSystem} {place : Location} {names : List Name} {n : Name}
    (h : HoldsJust fs place names) (hg : Grows (place ++ [n]) fs fs')
    (hat : fs'.at? (place ++ [n]) ≠ none) : HoldsJust fs' place (names ++ [n]) := by
  refine ⟨hg.directory _ h.directory, fun m => ?_⟩
  rw [List.mem_append, List.mem_singleton]
  by_cases hm : m = n
  · rw [hm]
    exact iff_of_true hat (Or.inr rfl)
  · rw [hg.outside.at?_sibling hm, h.entries]
    simp [hm]

/-- Whatever is done at the place and made above it, the path leads to no directory that holds the
    place or is in it. -/
def LiesBeside (fs : FileSystem) (p : Path) (place : Location) : Prop :=
  ∀ fs', Framed place fs fs' → ∀ loc, fs'.Leads p loc → Beside loc place

theorem LiesBeside.of_framed {fs fs' : FileSystem} {p : Path} {place : Location}
    (h : LiesBeside fs p place) (hf : Framed place fs fs') : LiesBeside fs' p place :=
  fun fs'' hf' => h fs'' (hf.trans hf')

/-- A straight path lies beside every place that its own is beside. -/
theorem liesBeside_of_straight {fs : FileSystem} {p : Path} {place : Location}
    (hs : fs.Straight p) (hb : Beside (fs.place p) place) : LiesBeside fs p place := by
  intro fs' hf loc hl
  have hs' : fs'.Straight p := hs.of_links hf.home fun ns hns target hat =>
    hf.link (fun hup => hb.2 (hup.trans ((List.prefix_append_right_inj _).2 hns))) hat
  rw [(place_of_leads hs' hl).1, place_of_home hf.home]
  exact hb

end FileSystem

/-- The entry of a name in a package is what its step makes of what stands now. -/
inductive EntryMade (layout : Layout) (options : PackageOptions) (folder : Path) (name : Name)
    (place : Location) (fs : FileSystem) : Name → Prop where
  /-- The source is a copy of the folder as a whole. -/
  | source {loc : Location}
      (duplicate : Duplicate fs folder loc (layout.package name options.entryPoint).typst
        (place ++ [Package.sourceName])) :
      EntryMade layout options folder name place fs Package.sourceName
  /-- The metadata is that of the reference package. -/
  | metadata {origin : Location} {content : Bytes} {executable : Bool}
      (found : fs.stat? layout.referenceMetadata = .ok (origin, .file content executable))
      (copied : fs.at? (place ++ [Package.metadataName]) = some (.file content executable)) :
      EntryMade layout options folder name place fs Package.metadataName
  /-- The document is compiled from the entry document in the source. -/
  | document {text : String}
      (read : fs.readText (layout.package name options.entryPoint).entryDocument = .ok text)
      (compiled : fs.at? (place ++ [Package.documentName]) =
        some (.file (Rehearsal.compiled text) false)) :
      EntryMade layout options folder name place fs Package.documentName

/-- A package after the steps that make these entries: no other stands in it, and each is as it is
    made. -/
structure Begun (layout : Layout) (options : PackageOptions) (folder : Path) (name : Name)
    (place : Location) (fs : FileSystem) (names : List Name) : Prop where
  holds : HoldsJust fs place names
  made : ∀ n ∈ names, EntryMade layout options folder name place fs n

section Begun

variable {layout : Layout} {options : PackageOptions} {folder : Path} {name : Name}
  {place : Location} {fs fs' : FileSystem} {names : List Name} {n m : Name}

theorem EntryMade.at?_ne_none (h : EntryMade layout options folder name place fs n) :
    fs.at? (place ++ [n]) ≠ none := by
  cases h with
  | source duplicate => simp [at?_of_stat? duplicate.stat?_copy]
  | metadata _ copied => simp [copied]
  | document _ compiled => simp [compiled]

/-- **An entry stays as it was made while another one is made.** -/
theorem EntryMade.kept (h : EntryMade layout options folder name place fs m)
    (hb : LiesBeside fs folder place) (hne : m ≠ n) (hg : Grows (place ++ [n]) fs fs')
    (hnone : fs.at? (place ++ [n]) = none) :
    EntryMade layout options folder name place fs' m := by
  have hadd := hg.onlyAdds hnone
  cases h with
  | source duplicate =>
    have hbeside := hb fs (Framed.refl _ _) _ (leads_of_stat? duplicate.stat?_source)
    refine .source (duplicate.of_extends hadd (fun ns => ?_) fun ns => ?_)
    · exact hg.outside.entry _ fun hk =>
        hbeside.not_below ns (below_of_below (List.prefix_append _ _) hk)
    · exact hg.outside.entry _ fun hk => hne (eq_of_below (List.prefix_append _ ns) hk)
  | metadata found copied =>
    exact .metadata (stat?_of_extends hadd found) (by rw [hg.outside.at?_sibling hne, copied])
  | document read compiled =>
    exact .document (readText_of_extends hadd read) (by rw [hg.outside.at?_sibling hne, compiled])

theorem begun_nil (hdir : fs.at? place = some .directory)
    (hempty : ∀ ns, ns ≠ [] → fs.at? (place ++ ns) = none) :
    Begun layout options folder name place fs [] :=
  ⟨⟨hdir, fun n => by simp [hempty [n]]⟩, nofun⟩

theorem Begun.at?_eq_none (h : Begun layout options folder name place fs names) (hn : n ∉ names) :
    fs.at? (place ++ [n]) = none := by
  by_contra hne
  exact hn ((h.holds.entries n).1 hne)

/-- **A step that makes one more entry keeps what the steps before it made.** -/
theorem Begun.grow (h : Begun layout options folder name place fs names)
    (hb : LiesBeside fs folder place) (hn : n ∉ names) (hg : Grows (place ++ [n]) fs fs')
    (hmade : EntryMade layout options folder name place fs' n) :
    Begun layout options folder name place fs' (names ++ [n]) := by
  refine ⟨h.holds.grow hg hmade.at?_ne_none, fun m hm => ?_⟩
  rw [List.mem_append, List.mem_singleton] at hm
  rcases hm with hm | rfl
  · have hne : m ≠ n := fun heq => hn (heq ▸ hm)
    exact (h.made m hm).kept hb hne hg (h.at?_eq_none hn)
  · exact hmade

end Begun

/-! ## 2. Steps -/

section Steps

variable {σ : Type} {tools : Toolchain σ} {r : Rehearsal} (ht : tools.Rehearses r)
  {layout : Layout} {options : PackageOptions} {folder : Path} {name : Name} {place : Location}
  {fs fs' : FileSystem} {w w' : World σ}

/-- A call whose failures leave the files as they are, in a rehearsal, leaves them when it fails. -/
theorem Toolchain.Rehearses.files_of_error (ht : tools.Rehearses r) {call : ToolCall}
    (hkeep : ∀ fs fs' e, r.perform call fs = .error e fs' → fs' = fs) {e : ToolError}
    (h : tools.run call w = .error e w') : w'.files = w.files := by
  rcases ht.error call w e w' h with heq | ⟨e', heq⟩
  · exact heq
  · exact hkeep _ _ _ heq

include ht in
/-- **Where nothing stood yet, the source is copied whole.** -/
theorem begun_source (hr : Ready w.files (layout.packageDir name) place)
    (hbegun : Begun layout options folder name place w.files [])
    (hb : LiesBeside w.files folder place)
    (h : tools.run (.copyTree folder (layout.package name options.entryPoint).typst) w =
      .ok () w') :
    Grows (place ++ [Package.sourceName]) w.files w'.files ∧
      Begun layout options folder name place w'.files [Package.sourceName] := by
  have hg : Grows (place ++ [Package.sourceName]) w.files w'.files := by
    have := run_copyTree_grows ht hr options.entryPoint folder
    rwa [h] at this
  have hnone := hbegun.at?_eq_none (n := Package.sourceName) List.not_mem_nil
  have hplace : Grows place w.files w'.files := hg.mono (List.prefix_append _ _)
  have hcopy : copyLevels pathLimit folder ((layout.packageDir name).join ⟨Package.sourceName⟩)
      w.files = .ok () w'.files := copyTree_of_perform (ht.ok _ _ _ h)
  have hbeside : ∀ loc, w'.files.Leads folder loc →
      Beside loc (place ++ [Package.sourceName]) := by
    intro loc hl
    have := (hb w'.files hplace.kept.framed loc hl).append [] [Package.sourceName]
    rwa [List.append_nil] at this
  obtain ⟨loc, hd⟩ := copyLevels_duplicates pathLimit w.files w'.files folder
    (layout.packageDir name) place Package.sourceName hr.leads (by decide) hnone hbeside hcopy
  exact ⟨hg, hbegun.grow hb List.not_mem_nil hg (.source hd)⟩

theorem begun_metadata (hr : Ready fs (layout.packageDir name) place)
    (hbegun : Begun layout options folder name place fs [Package.sourceName])
    (hb : LiesBeside fs folder place)
    (h : fs.copyFile layout.referenceMetadata
      (layout.package name options.entryPoint).metadata = .ok fs') :
    Grows (place ++ [Package.metadataName]) fs fs' ∧
      Begun layout options folder name place fs' [Package.sourceName, Package.metadataName] := by
  have hnone := hbegun.at?_eq_none (n := Package.metadataName) (by decide)
  obtain ⟨origin, content, executable, hstat, hat, hg, -⟩ :=
    copyFile_join_new hr.leads (by decide) hnone h
  exact ⟨hg, hbegun.grow hb (by decide) hg
    (.metadata (stat?_of_extends (hg.onlyAdds hnone) hstat) hat)⟩

include ht in
theorem begun_document (hr : Ready w.files (layout.packageDir name) place)
    (hbegun : Begun layout options folder name place w.files
      [Package.sourceName, Package.metadataName])
    (hb : LiesBeside w.files folder place)
    (h : tools.run (.compile (layout.package name options.entryPoint).entryDocument
      (layout.package name options.entryPoint).document) w = .ok () w') :
    Begun layout options folder name place w'.files
      [Package.sourceName, Package.metadataName, Package.documentName] := by
  have hnone := hbegun.at?_eq_none (n := Package.documentName) (by decide)
  obtain ⟨text, htext, hwrite⟩ := writeFile_of_perform_compile (ht.ok _ _ _ h)
  obtain ⟨hat, hg, -⟩ := writeFile_join_new hr.leads (by decide) hnone hwrite
  exact hbegun.grow hb (by decide) hg
    (.document (readText_of_extends (hg.onlyAdds hnone) htext) hat)

end Steps

/-! ## 3. What each error leaves -/

section Left

variable {σ : Type}

/-- What a failed build leaves of a world, by its error. The package of a name stands in `dir`. -/
def Left (layout : Layout) (options : PackageOptions) (folder : TemplateFolder) (dir : Location)
    (w w' : World σ) : PackageError → Prop
  | .unnamedFolder _ => w' = w
  | .reservedName _ => w' = w
  | .prepare _ _ => w'.tools = w.tools ∧ Adds dir w.files w'.files
  | .copySource _ _ => ∃ name, folder.Builds name ∧
    w'.files.at? (dir ++ [Package.dirName name]) = some .directory ∧
      ∀ n, w'.files.at? (dir ++ [Package.dirName name] ++ [n]) ≠ none → n = Package.sourceName
  | .copyMetadata _ _ _ => ∃ name, folder.Builds name ∧
    Begun layout options folder.path name (dir ++ [Package.dirName name]) w'.files
      [Package.sourceName]
  | .compile _ _ => ∃ name, folder.Builds name ∧
    Begun layout options folder.path name (dir ++ [Package.dirName name]) w'.files
      [Package.sourceName, Package.metadataName]
  | .rasterize _ _ => ∃ name, folder.Builds name ∧
    Begun layout options folder.path name (dir ++ [Package.dirName name]) w'.files
      [Package.sourceName, Package.metadataName, Package.documentName]

variable {tools : Toolchain σ} {r : Rehearsal} (ht : tools.Rehearses r)
  {layout : Layout} {options : PackageOptions} {folder : TemplateFolder} {name : Name}
  {dir : Location} {w₀ w w' : World σ}

include ht

/-- **Filling that fails leaves what the steps before made**, in a place that was empty. -/
theorem fill_error_left (hbuilds : folder.Builds name)
    (hr : Ready w.files (layout.packageDir name) (dir ++ [Package.dirName name]))
    (hempty : ∀ ns, ns ≠ [] → w.files.at? (dir ++ [Package.dirName name] ++ ns) = none)
    (hb : LiesBeside w.files folder.path (dir ++ [Package.dirName name])) {e : PackageError}
    (h : Package.fill tools layout options folder.path (layout.package name options.entryPoint) w =
      .error e w') :
    Left layout options folder dir w₀ w' e := by
  have hdir := isDirectory_iff.1 hr.leads.isDirectory
  have hnil : Begun layout options folder.path name (dir ++ [Package.dirName name]) w.files [] :=
    begun_nil hdir hempty
  rcases fill_eq_error h with ⟨e', h₁, rfl⟩ | ⟨w₁, h₁, hrest⟩
  · have hg : Grows _ w.files (Disk.left (tools.run _ w)).files :=
      run_copyTree_grows ht hr options.entryPoint folder.path
    rw [h₁, Disk.left_error] at hg
    refine ⟨name, hbuilds, hg.directory _ hdir, fun n hne => ?_⟩
    by_contra hn
    rw [hg.outside.at?_sibling hn, hempty [n] (by simp)] at hne
    exact hne rfl
  · obtain ⟨hg₁, hbegun₁⟩ := begun_source ht hr hnil hb h₁
    have hr₁ := hr.grows hg₁
    have hb₁ := hb.of_framed (hg₁.mono (List.prefix_append _ _)).kept.framed
    rcases hrest with ⟨e', -, rfl, rfl⟩ | ⟨fs₂, h₂, hrest⟩
    · exact ⟨name, hbuilds, hbegun₁⟩
    · obtain ⟨hg₂, hbegun₂⟩ := begun_metadata hr₁ hbegun₁ hb₁ h₂
      have hr₂ := hr₁.grows hg₂
      have hb₂ := hb₁.of_framed (hg₂.mono (List.prefix_append _ _)).kept.framed
      rcases hrest with ⟨e', h₃, rfl⟩ | ⟨w₃, e', h₃, h₄, rfl⟩
      · have hsame := ht.files_of_error (fun _ _ _ => perform_compile_error) h₃
        refine ⟨name, hbuilds, ?_⟩
        rw [hsame]
        exact hbegun₂
      · have hsame := ht.files_of_error (fun _ _ _ => perform_rasterize_error) h₄
        refine ⟨name, hbuilds, ?_⟩
        rw [hsame]
        exact begun_document ht (w := { w₁ with files := fs₂ }) hr₂ hbegun₂ hb₂ h₃

omit ht in
variable (tools layout options w) in
/-- A folder that no package is built for is refused by its name. -/
theorem generate_eq_of_not_builds (h : ¬ ∃ name, folder.Builds name) :
    generate tools layout options folder w = .error (.unnamedFolder folder.path) w ∨
      generate tools layout options folder w = .error (.reservedName folder.path) w := by
  unfold generate
  cases hname : folder.name? with
  | none => exact Or.inl rfl
  | some name =>
    refine Or.inr (if_pos ?_)
    by_contra hne
    exact h ⟨name, hname, hne⟩

/-- **A build that fails leaves the state of its error**, whatever stood in the place of the
    package. -/
theorem generate_error_left (hs : w.files.Straight layout.root)
    (hb : ∀ name, folder.Builds name →
      LiesBeside w.files folder.path (w.files.place layout.root ++ [Package.dirName name]))
    {e : PackageError} (h : generate tools layout options folder w = .error e w') :
    Left layout options folder (w.files.place layout.root) w w' e := by
  by_cases hbuilds : ∃ name, folder.Builds name
  · obtain ⟨name, hbuilds⟩ := hbuilds
    cases hprep : Package.prepare (layout.packageDir name) w.files with
    | error e' fs₁ =>
      rw [generate_unprepared hbuilds hprep] at h
      cases h
      exact ⟨rfl, prepare_refused hs hbuilds.isOrdinary hprep⟩
    | ok u fs₁ =>
      obtain ⟨hframed, hprepared⟩ := prepare_packageDir (w := w) hbuilds (Or.inr ⟨hs, rfl⟩)
      have hp := hprepared fs₁ hprep
      rw [hprep] at hframed
      rw [generate_prepared hbuilds hprep] at h
      split at h <;> cases h
      rename_i hfill
      exact fill_error_left ht (w := { w with files := fs₁ }) hbuilds (hp.ready hbuilds.isOrdinary)
        hp.empty ((hb name hbuilds).of_framed hframed) hfill
  · rcases generate_eq_of_not_builds tools layout options w hbuilds with heq | heq <;>
      rw [heq] at h <;> cases h <;> rfl

end Left

/-! ## 4. Previews -/

/-- The path of the package of a name is looked up: it is not refused as a path, and no name in it is
    over the limit. -/
def Layout.Takes (layout : Layout) (name : Name) : Prop :=
  checkPath (layout.packageDir name) = .ok () ∧
    ∀ m ∈ layout.root.names ++ [Package.dirName name], m.length ≤ nameLimit

/-- No link stands at the place of a package, and no preview in it. -/
structure Cleared (fs : FileSystem) (place : Location) : Prop where
  noLink : ∀ target, fs.at? place ≠ some (.link target)
  noPreview : fs.at? (place ++ [Package.previewName]) = none

/-- What is left at the place of a package, by whether it was built last. -/
def PreviewLeft (fs : FileSystem) (layout : Layout) (dir : Location) (name : Name) : Bool → Prop
  | true => Kept fs layout dir name true
  | false => Cleared fs (dir ++ [Package.dirName name])

section Preview

variable {layout : Layout} {name other : Name} {fs fs' : FileSystem}

theorem isOrdinary_previewName : Name.isOrdinary Package.previewName = true := by
  decide

/-- **A preview is found exactly where the package was built last.** -/
theorem PreviewLeft.found {built : Bool} (hs : fs.Straight layout.root)
    (hn : Name.isOrdinary (Package.dirName name) = true)
    (h : PreviewLeft fs layout (fs.place layout.root) name built) :
    fs.pathExists ((layout.packageDir name).join ⟨Package.previewName⟩) = built ∧
      (fs.at? (fs.place layout.root ++ [Package.dirName name] ++ [Package.previewName]) ≠ none ↔
        built = true) := by
  cases built with
  | true =>
    obtain ⟨hcheck, -, hfile⟩ := h.holds rfl
    obtain ⟨content, executable, hat⟩ := hfile Package.previewName (by decide)
    have hl : fs.Leads (layout.packageDir name) (fs.place layout.root ++ [Package.dirName name]) :=
      h.leads.join hn (length_le_of_nameCheck h.check) h.directory
    have hstat := stat?_join_file hl (hcheck Package.previewName (by decide)) hat
    refine ⟨?_, iff_of_true (by rw [hat]; exact Option.some_ne_none _) rfl⟩
    rw [pathExists, hstat]
    rfl
  | false =>
    refine ⟨?_, iff_of_false (fun hne => hne h.noPreview) (by decide)⟩
    have hstraight : fs.Straight (layout.packageDir name) := hs.join hn h.noLink
    cases hstat : fs.stat? ((layout.packageDir name).join ⟨Package.previewName⟩) with
    | error e =>
      rw [pathExists, hstat]
      rfl
    | ok found =>
      -- what is found would stand in the directory that the straight path leads to
      obtain ⟨loc, hl, -, hne⟩ := exists_leads_of_join isOrdinary_previewName hstat
      have hplace : fs.place (layout.packageDir name) =
          fs.place layout.root ++ [Package.dirName name] := place_join fs layout.root hn
      rw [(place_of_leads hstraight hl).1, hplace] at hne
      exact absurd h.noPreview hne

/-- Where the path of a package is refused, no preview is found by it, whatever stands there. -/
theorem pathExists_of_not_takes (hs : fs.Straight layout.root)
    (hn : Name.isOrdinary (Package.dirName name) = true) (h : ¬ layout.Takes name) :
    fs.pathExists ((layout.packageDir name).join ⟨Package.previewName⟩) = false := by
  cases hstat : fs.stat? ((layout.packageDir name).join ⟨Package.previewName⟩) with
  | error e =>
    rw [pathExists, hstat]
    rfl
  | ok found =>
    obtain ⟨loc, hl, hc, -⟩ := exists_leads_of_join isOrdinary_previewName hstat
    have hcheck : checkPath (layout.packageDir name) = .ok () :=
      checkPath_of_join isOrdinary_previewName (Path.isEmpty_join_name _ hn)
        (checkPath_of_nameCheck hc)
    obtain ⟨dir, hroot, hc', -⟩ := exists_leads_of_join hn (stat?_of_leads hl hcheck)
    refine absurd ⟨hcheck, List.forall_mem_append.2 ⟨(place_of_leads hs hroot).2, ?_⟩⟩ h
    simpa using length_le_of_nameCheck hc'

/-- What happens at the place of one name leaves what stands at that of another. -/
theorem at?_of_framed {dir : Location} {n m : Name} (hf : Framed (dir ++ [m]) fs fs')
    (hne : n ≠ m) (ns : List Name) :
    fs'.at? (dir ++ [n] ++ ns) = fs.at? (dir ++ [n] ++ ns) := by
  rcases hf.entry (dir ++ [n] ++ ns) (fun hb => hne (eq_of_below (List.prefix_append _ ns) hb)) with
    heq | ⟨hup, -, -⟩
  · exact heq
  · exact absurd (eq_of_below ((List.prefix_append _ ns).trans hup) List.prefix_rfl) hne

theorem PreviewLeft.of_framed {built : Bool} {dir : Location} (hne : name ≠ other)
    (hh : Hosts fs (Below (dir ++ [Package.dirName other])) layout.root dir)
    (hf : Framed (dir ++ [Package.dirName other]) fs fs')
    (h : PreviewLeft fs layout dir name built) : PreviewLeft fs' layout dir name built := by
  cases built with
  | true => exact Kept.of_framed h hne.symm hh hf
  | false =>
    have hsame := at?_of_framed hf (Package.dirName_injective.ne hne)
    refine ⟨fun target => ?_, ?_⟩
    · have := hsame []
      rw [List.append_nil] at this
      rw [this]
      exact h.noLink target
    · rw [hsame]
      exact h.noPreview

end Preview

/-! ## 5. Builds one after the other -/

section Attempts

variable {σ : Type}

/-- What is known of the previews behind builds from a start. The path of a package that is not
    looked up leads to none, and what stands in its place is as it was. -/
structure Traced (layout : Layout) (start : FileSystem) (c : Course) (fs : FileSystem) : Prop where
  straight : fs.Straight layout.root
  place : fs.place layout.root = start.place layout.root
  taken : ∀ name, layout.Takes name → (∃ x ∈ c, x.1.Builds name) →
    PreviewLeft fs layout (start.place layout.root) name (c.lastBuilt (some name))
  refused : ∀ name, ¬ layout.Takes name → c.lastBuilt (some name) = false ∧
    fs.at? (start.place layout.root ++ [Package.dirName name] ++ [Package.previewName]) =
      start.at? (start.place layout.root ++ [Package.dirName name] ++ [Package.previewName])

variable {tools : Toolchain σ} {r : Rehearsal} (ht : tools.Rehearses r) {layout : Layout}
  {options : PackageOptions} {folder : TemplateFolder} {name : Name} {w w' : World σ}

/-- A place that is prepared has a path that is looked up. -/
theorem takes_of_prepare (hs : w.files.Straight layout.root) (hb : folder.Builds name)
    {fs : FileSystem} (h : Package.prepare (layout.packageDir name) w.files = .ok () fs) :
    layout.Takes name := by
  obtain ⟨hframed, hprepared⟩ := prepare_packageDir hb (Or.inr ⟨hs, rfl⟩)
  have hp := hprepared fs h
  rw [h] at hframed
  refine ⟨checkPath_of_nameCheck hp.check, List.forall_mem_append.2
    ⟨(place_of_leads (hs.of_framed hframed) hp.leads).2, ?_⟩⟩
  simpa using length_le_of_nameCheck hp.check

/-- A place that is refused keeps what stands there. -/
theorem at?_of_prepare_refused (hs : w.files.Straight layout.root) (hb : folder.Builds name)
    {e : IoError} {fs : FileSystem}
    (h : Package.prepare (layout.packageDir name) w.files = .error e fs) (ns : List Name) :
    fs.at? (w.files.place layout.root ++ [Package.dirName name] ++ ns) =
      w.files.at? (w.files.place layout.root ++ [Package.dirName name] ++ ns) := by
  rcases (prepare_refused hs hb.isOrdinary h).entry
    (w.files.place layout.root ++ [Package.dirName name] ++ ns) with heq | ⟨hup, -, -⟩
  · exact heq
  · have hlen := hup.length_le
    simp only [List.length_append, List.length_singleton] at hlen
    omega

/-- A place that is refused is clear, if its path is one that is looked up. -/
theorem cleared_of_prepare_refused (hs : w.files.Straight layout.root) (hb : folder.Builds name)
    (htakes : layout.Takes name) {e : IoError} {fs : FileSystem}
    (h : Package.prepare (layout.packageDir name) w.files = .error e fs) :
    Cleared fs (w.files.place layout.root ++ [Package.dirName name]) := by
  obtain ⟨hnames, hlen⟩ := List.forall_mem_append.1 htakes.2
  have hc : checkPath (layout.root.join ⟨Package.dirName name⟩) = .ok () := htakes.1
  -- the root was no directory, or the place would have been prepared
  have hroot : w.files.at? (w.files.place layout.root) ≠ some .directory := by
    intro hdir
    have hcheck : nameCheck layout.root (Package.dirName name) = .ok () := by
      have := hlen _ (List.mem_singleton_self _)
      rw [nameCheck_of_checkPath hc, if_neg (by omega)]
    obtain ⟨fs₂, hok⟩ := exists_prepare_eq_ok (Or.inr ⟨hs, rfl⟩) hb.isOrdinary
      (leads_of_isDirectory hs.1 hnames (isDirectory_iff.2 hdir)) hcheck
    cases h.symm.trans hok
  have hnone : ∀ ns, fs.at? (w.files.place layout.root ++ [Package.dirName name] ++ ns) = none := by
    intro ns
    rw [at?_of_prepare_refused hs hb h, List.append_assoc]
    exact at?_append_eq_none hroot (by simp)
  refine ⟨fun target => ?_, hnone _⟩
  have := hnone []
  rw [List.append_nil] at this
  simp [this]

include ht

/-- **A package that is not built has no preview**, if its path is one that is looked up. -/
theorem cleared_of_generate_error (hs : w.files.Straight layout.root) (hb : folder.Builds name)
    (htakes : layout.Takes name) {e : PackageError}
    (h : generate tools layout options folder w = .error e w') :
    Cleared w'.files (w.files.place layout.root ++ [Package.dirName name]) := by
  cases hprep : Package.prepare (layout.packageDir name) w.files with
  | error e' fs₁ =>
    rw [generate_unprepared hb hprep] at h
    cases h
    exact cleared_of_prepare_refused hs hb htakes hprep
  | ok u fs₁ =>
    have hp := (prepare_packageDir (w := w) hb (Or.inr ⟨hs, rfl⟩)).2 fs₁ hprep
    have hready := hp.ready hb.isOrdinary
    rw [generate_prepared hb hprep] at h
    split at h <;> cases h
    rename_i hfill
    have hg := fill_grows ht (w := { w with files := fs₁ }) hready options.entryPoint options
      folder.path
    rw [hfill] at hg
    refine ⟨fun target hat => ?_, fill_error_noPreview ht (w := { w with files := fs₁ }) hready
      (hp.empty _ (by simp)) hfill⟩
    have hdir : w'.files.at? _ = some .directory := hg.directory _ hp.directory
    rw [hdir] at hat
    cases hat

/-- **Where the path of a package is refused, a build leaves what stands there.** -/
theorem at?_preview_of_not_takes (hs : w.files.Straight layout.root) (hno : ¬ layout.Takes name)
    (ns : List Name) :
    (Disk.left (generate tools layout options folder w)).files.at?
        (w.files.place layout.root ++ [Package.dirName name] ++ ns) =
      w.files.at? (w.files.place layout.root ++ [Package.dirName name] ++ ns) := by
  by_cases hb : ∃ other, folder.Builds other
  · obtain ⟨other, hb⟩ := hb
    by_cases hname : name = other
    · subst hname
      cases hprep : Package.prepare (layout.packageDir name) w.files with
      | error e fs₁ =>
        rw [generate_unprepared hb hprep]
        exact at?_of_prepare_refused hs hb hprep ns
      | ok u fs₁ => exact absurd (takes_of_prepare hs hb hprep) hno
    · exact at?_of_framed (generate_framed ht hb (Or.inr ⟨hs, rfl⟩))
        (Package.dirName_injective.ne hname) ns
  · rw [generate_refused hb]

/-- What is left for a name stays while folders of other names are built. -/
theorem PreviewLeft.of_generate {built : Bool} (hs : w.files.Straight layout.root)
    (hne : folder.name? ≠ some name)
    (h : PreviewLeft w.files layout (w.files.place layout.root) name built) :
    PreviewLeft (Disk.left (generate tools layout options folder w)).files layout
      (w.files.place layout.root) name built := by
  by_cases hb : ∃ other, folder.Builds other
  · obtain ⟨other, hb⟩ := hb
    have hother : name ≠ other := by
      rintro rfl
      exact hne hb.1
    exact h.of_framed hother (Or.inr ⟨hs, rfl⟩) (generate_framed ht hb (Or.inr ⟨hs, rfl⟩))
  · rw [generate_refused hb]
    exact h

theorem straight_of_generate (hs : w.files.Straight layout.root) :
    (Disk.left (generate tools layout options folder w)).files.Straight layout.root ∧
      (Disk.left (generate tools layout options folder w)).files.place layout.root =
        w.files.place layout.root := by
  by_cases hb : ∃ name, folder.Builds name
  · obtain ⟨name, hb⟩ := hb
    have hf : Framed (w.files.place layout.root ++ [Package.dirName name]) w.files
        (Disk.left (generate tools layout options folder w)).files :=
      generate_framed ht hb (Or.inr ⟨hs, rfl⟩)
    exact ⟨hs.of_framed hf, place_of_home hf.home _⟩
  · rw [generate_refused hb]
    exact ⟨hs, rfl⟩

/-- **The preview of a folder's name is left as its build ended**, if the path of the package is one
    that is looked up. -/
theorem previewLeft_of_generate (hs : w.files.Straight layout.root) (hb : folder.Builds name)
    (htakes : layout.Takes name) :
    PreviewLeft (Disk.left (generate tools layout options folder w)).files layout
      (w.files.place layout.root) name
      (Disk.outcome (generate tools layout options folder w)).toBool := by
  cases hg : generate tools layout options folder w with
  | ok package w' => exact (kept_of_generate_ok ht hb (Or.inr ⟨hs, rfl⟩) hg).2
  | error e w' => exact cleared_of_generate_error ht hs hb htakes hg

omit ht in
/-- A package is not built where its path is refused. -/
theorem not_built_of_not_takes (tools : Toolchain σ) (options : PackageOptions)
    (hs : w.files.Straight layout.root) (hname : folder.name? = some name)
    (hno : ¬ layout.Takes name) :
    (Disk.outcome (generate tools layout options folder w)).toBool = false := by
  cases hg : generate tools layout options folder w with
  | error e w' => rfl
  | ok package w' =>
    obtain ⟨name', _, hb, hprep, -⟩ := generate_eq_ok hg
    obtain rfl : name' = name := Option.some.inj (hb.1.symm.trans hname)
    exact absurd (takes_of_prepare hs hb hprep) hno

/-- **One more build keeps what is known of the previews.** -/
theorem Traced.attempt {start : FileSystem} {c : Course} (h : Traced layout start c w.files)
    (x : PackageOptions × TemplateFolder) :
    Traced layout start (attempt tools layout (c, w) x).1
      (attempt tools layout (c, w) x).2.files := by
  obtain ⟨options, folder⟩ := x
  obtain ⟨hs, hplace, htaken, hrefused⟩ := h
  obtain ⟨hs', hplace'⟩ :
      (Disk.left (generate tools layout options folder w)).files.Straight layout.root ∧ _ :=
    straight_of_generate ht hs
  rw [attempt_eq]
  rw [← hplace] at htaken hrefused
  refine ⟨hs', hplace'.trans hplace, fun name htakes hattempted => ?_, fun name hno => ?_⟩
  · rw [← hplace]
    by_cases hname : folder.name? = some name
    · -- the folder is the last one of the name
      have hb : folder.Builds name := by
        obtain ⟨y, -, hy⟩ := hattempted
        exact ⟨hname, hy.2⟩
      rw [← hname, Course.lastBuilt_concat_self]
      exact previewLeft_of_generate ht hs hb htakes
    · rw [Course.lastBuilt_concat_of_ne c hname]
      refine PreviewLeft.of_generate ht hs hname (htaken name htakes ?_)
      obtain ⟨y, hy, hb⟩ := hattempted
      rcases List.mem_append.1 hy with hy | hy
      · exact ⟨y, hy, hb⟩
      · rw [List.mem_singleton.1 hy] at hb
        exact absurd hb.1 hname
  · obtain ⟨hlast, hat⟩ := hrefused name hno
    refine ⟨?_, ?_⟩
    · by_cases hname : folder.name? = some name
      · rw [← hname, Course.lastBuilt_concat_self]
        exact not_built_of_not_takes tools options hs hname hno
      · rw [Course.lastBuilt_concat_of_ne c hname, hlast]
    · rw [← hplace, at?_preview_of_not_takes ht hs hno, hat]

theorem attempts_traced (hs : w.files.Straight layout.root)
    (xs : List (PackageOptions × TemplateFolder)) :
    Traced layout w.files (attempts tools layout xs w).1 (attempts tools layout xs w).2.files := by
  induction xs using List.reverseRecOn with
  | nil => exact ⟨hs, rfl, fun _ _ ⟨_, hmem, _⟩ => absurd hmem List.not_mem_nil, fun _ _ => ⟨rfl, rfl⟩⟩
  | append_singleton xs x ih =>
    rw [attempts_concat]
    exact ih.attempt ht x

/-- **Behind any builds, one more that fails leaves the state of its error, and the preview of a name
    is found exactly if the last build for the name succeeded.** A build that fails touches nothing
    but the place of its package and what is missing above. Where the path of a package is looked up
    at all, no preview stands at its place either if the last build for its name failed. -/
theorem attempts_left (hs : w.files.Straight layout.root)
    (xs : List (PackageOptions × TemplateFolder)) :
    let c := (attempts tools layout xs w).1
    let w₁ := (attempts tools layout xs w).2
    let dir := w.files.place layout.root
    (∀ options folder e w₂, generate tools layout options folder w₁ = .error e w₂ →
      (∀ name, folder.Builds name →
        LiesBeside w₁.files folder.path (dir ++ [Package.dirName name])) →
      Left layout options folder dir w₁ w₂ e ∧
        ∀ name, folder.Builds name → Framed (dir ++ [Package.dirName name]) w₁.files w₂.files) ∧
    ∀ name, (∃ x ∈ xs, x.2.Builds name) →
      w₁.files.pathExists ((layout.packageDir name).join ⟨Package.previewName⟩) =
        c.lastBuilt (some name) ∧
      (checkPath (layout.packageDir name) = .ok () → NamesFit w.files →
        (w₁.files.at? (dir ++ [Package.dirName name] ++ [Package.previewName]) ≠ none ↔
          c.lastBuilt (some name) = true)) := by
  intro c w₁ dir
  obtain ⟨hs₁, hplace, htaken, hrefused⟩ := attempts_traced ht hs xs
  refine ⟨fun options folder e w₂ h hb => ?_, fun name hattempted => ?_⟩
  · have hframed : ∀ name, folder.Builds name → Framed (dir ++ [Package.dirName name]) w₁.files
        (Disk.left (generate tools layout options folder w₁)).files :=
      fun name hb => generate_framed ht hb (Or.inr ⟨hs₁, hplace.symm⟩)
    rw [h] at hframed
    refine ⟨?_, hframed⟩
    have hleft := generate_error_left ht hs₁ (by rwa [hplace]) h
    rwa [hplace] at hleft
  · obtain ⟨x, hx, hbuilds⟩ := hattempted
    have hn := hbuilds.isOrdinary
    by_cases htakes : layout.Takes name
    · have hmem : ∃ y ∈ c, y.1.Builds name := by
        have : x.2 ∈ c.map Prod.fst := by
          rw [map_fst_attempts]
          exact List.mem_map_of_mem hx
        obtain ⟨y, hy, heq⟩ := List.mem_map.1 this
        exact ⟨y, hy, heq ▸ hbuilds⟩
      have hleft := htaken name htakes hmem
      rw [← hplace] at hleft
      obtain ⟨hpath, hfile⟩ := hleft.found hs₁ hn
      rw [hplace] at hfile
      exact ⟨hpath, fun _ _ => hfile⟩
    · obtain ⟨hlast, hat⟩ := hrefused name htakes
      rw [show c.lastBuilt (some name) = false from hlast]
      refine ⟨pathExists_of_not_takes hs₁ hn htakes, fun hc hfit => ?_⟩
      -- a name over the limit would have stood at the start
      refine iff_of_false (fun hne => ?_) (by decide)
      have hstood : w.files.at? (w.files.start layout.root ++
          (layout.root.names ++ [Package.dirName name] ++ [Package.previewName])) ≠ none := by
        rw [← List.append_assoc, ← List.append_assoc, ← FileSystem.place, ← hat]
        exact hne
      exact htakes ⟨hc, (List.forall_mem_append.1 (hfit.short hstood)).1⟩

end Attempts

/-- A folder that does not compile with a preview that was left from before, and one without an entry
    document with a link at the place of its package. -/
def shelf : FileSystem :=
  .written [("T", .directory), ("T/Empty.sr", .directory),
    ("T/Empty.sr/Serifian.plist", .file (Text.Utf8.bytes "m") false),
    ("T/x.sr", .directory), ("T/x.sr/preview.jpg", .file (Text.Utf8.bytes "stale") false),
    ("T/y.sr", .link (.ofString "../s")), ("s", .directory), ("s/x", .directory),
    ("s/x/main.typ", .file (Text.Utf8.bytes "// fail-compile") false), ("s/y", .directory)]

theorem attempts_left_shelf :
    let layout : Layout := ⟨.ofString "T"⟩
    let name : Name := Text.Utf8.bytes "x"
    let dir : Location := [Text.Utf8.bytes "T"]
    let tools := (Rehearsal.toolchain {}).withFaults [⟨.rasterize, some 2, .io (.os .notFound)⟩]
    let folder : TemplateFolder := ⟨.ofString "s/y"⟩
    let xs : List (PackageOptions × TemplateFolder) := [({}, ⟨.ofString "s/x"⟩)]
    let w : World (Counted (List ToolCall)) := ⟨shelf, ⟨[], []⟩⟩
    let c := (attempts tools layout xs w).1
    let w₁ := (attempts tools layout xs w).2
    (∃ e w₂, generate tools layout {} folder w₁ = .error e w₂ ∧
      Left layout {} folder dir w₁ w₂ e) ∧
    w₁.files.pathExists ((layout.packageDir name).join ⟨Package.previewName⟩) =
      c.lastBuilt (some name) ∧
    (w₁.files.at? (dir ++ [Package.dirName name] ++ [Package.previewName]) ≠ none ↔
      c.lastBuilt (some name) = true) := by
  intro layout name dir tools folder xs w c w₁
  have ht : tools.Rehearses {} := rehearses_withFaults (rehearses_toolchain {}) _
  have hs : w.files.Straight layout.root := by decide +kernel
  have hplace : w.files.place layout.root = dir := by decide +kernel
  obtain ⟨hleft, hpreviews⟩ := attempts_left ht hs xs
  rw [hplace] at hleft hpreviews
  have hname : (⟨.ofString "s/x"⟩ : TemplateFolder).Builds name := ⟨by decide, by decide⟩
  have hfolder : folder.Builds (Text.Utf8.bytes "y") := ⟨by decide, by decide⟩
  obtain ⟨hpath, hfile⟩ := hpreviews name ⟨_, List.mem_cons_self, hname⟩
  refine ⟨?_, hpath, hfile (by decide) (namesFit_of_entries (by decide +kernel))⟩
  obtain ⟨e, w₂, hg⟩ : ∃ e w₂, generate tools layout {} folder w₁ = .error e w₂ :=
    Disk.fails_iff.1 (by decide +kernel)
  refine ⟨e, w₂, hg, (hleft {} folder e w₂ hg fun name' hb => ?_).1⟩
  obtain rfl := hfolder.unique hb
  exact liesBeside_of_straight (by decide +kernel) (by decide +kernel)

/-- **A preview may stand behind a build that failed**, if the path of its package is over its limit,
    though it leads there. By that path it is not found. -/
theorem generate_keeps_stale_preview :
    let layout : Layout := ⟨⟨(List.replicate 2048 [46, 47]).flatten ++ Text.Utf8.bytes "T"⟩⟩
    let folder : TemplateFolder := ⟨.ofString "s/x"⟩
    let name : Name := Text.Utf8.bytes "x"
    let place : Location := shelf.place layout.root ++ [Package.dirName name]
    shelf.Straight layout.root ∧ place = [Text.Utf8.bytes "T", Text.Utf8.bytes "x.sr"] ∧
      folder.Builds name ∧ LiesBeside shelf folder.path place ∧
      ∃ e w', generate (Rehearsal.toolchain {}) layout {} folder ⟨shelf, []⟩ = .error e w' ∧
        w'.files.at? (place ++ [Package.previewName]) =
          some (.file (Text.Utf8.bytes "stale") false) := by
  intro layout folder name place
  have hup : layout.root.NeverUp := by decide +kernel
  have hnames : layout.root.names = [Text.Utf8.bytes "T"] := by decide +kernel
  have hs : shelf.Straight layout.root := by
    rw [straight_iff, hnames]
    exact ⟨hup, by decide +kernel⟩
  have hplace : place = [Text.Utf8.bytes "T", Text.Utf8.bytes "x.sr"] := by
    rw [show place = shelf.start layout.root ++ layout.root.names ++ [Package.dirName name] from rfl,
      hnames]
    decide +kernel
  have hbeside : Beside (shelf.place folder.path) place := by
    rw [hplace]
    decide +kernel
  refine ⟨hs, hplace, ⟨by decide, by decide⟩,
    liesBeside_of_straight (by decide +kernel) hbeside, ?_⟩
  have hrun : (Disk.fails (generate (Rehearsal.toolchain {}) layout {} folder ⟨shelf, []⟩) &&
      decide ((Disk.left (generate (Rehearsal.toolchain {}) layout {} folder ⟨shelf, []⟩)).files.at?
        (place ++ [Package.previewName]) = some (.file (Text.Utf8.bytes "stale") false))) = true := by
    rw [hplace]
    decide +kernel
  obtain ⟨hfails, hstale⟩ := Bool.and_eq_true_iff.1 hrun
  obtain ⟨e, w', hg⟩ := Disk.fails_iff.1 hfails
  rw [hg, Disk.left_error] at hstale
  exact ⟨e, w', hg, of_decide_eq_true hstale⟩

end TemplatePress
