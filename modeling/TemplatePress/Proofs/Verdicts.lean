import TemplatePress.Proofs.Limits
import TemplatePress.Proofs.Links
import TemplatePress.Proofs.Repetition

/-!
# Which templates fail

Where no link stands and nothing is over its limit, building a template that was found fails for one
of two reasons: its folder is named like the reference package, or its entry document does not
compile. This file fixes:

* `Rehearsal.spoils`: the documents that do not compile (`perform_compile_iff`);
* `Buildable`: what is known of a folder when its package is built. Its source is copied to the end
  (`Buildable.exists_copyTree`), the copied entry document reads as it stood
  (`Buildable.readFile_copied`), and filling the package fails exactly at a spoiled document
  (`Buildable.fill_iff`);
* `buildable_of_discover`: what a search found is buildable, if it is within the limits
  (`WithinLimits`);
* `runPipeline_verdicts`: so a run that keeps going reports as failed exactly these folders, and the
  package of each of the others, both in the order of the search.
-/

namespace TemplatePress

open FileSystem

/-! ## 1. Documents that do not compile -/

namespace Rehearsal

theorem occursIn_iff {needle hay : List Char} : occursIn needle hay = true ↔ needle <:+: hay := by
  induction hay with
  | nil => simp [occursIn]
  | cons c rest ih =>
    rw [occursIn, Bool.or_eq_true, ih, List.isPrefixOf_iff_prefix, List.infix_cons_iff]

/-- Whether a document does not compile: it is no text, or the mark of failure occurs in it. -/
def spoils (content : Bytes) : Bool :=
  match Text.Utf8.decode? content with
  | none => true
  | some text => decide (failMarker.toList <:+: text.toList)

variable {r : Rehearsal} {fs : FileSystem} {source document output : Path} {page dpi : Nat}

/-- **A document is compiled exactly if it does not spoil that**, where it can be written what comes
    of it. -/
theorem perform_compile_iff {content : Bytes} (hread : fs.readFile source = .ok content)
    (hwrite : ∀ compiled, ∃ fs', fs.writeFile output compiled = .ok fs') :
    (∃ fs', r.perform (.compile source output) fs = .ok () fs') ↔ spoils content = false := by
  unfold spoils
  cases hdecode : Text.Utf8.decode? content with
  | none => simp [perform, readText, hread, hdecode]
  | some text =>
    obtain ⟨fs', hok⟩ := hwrite (compiled text)
    by_cases hin : failMarker.toList <:+: text.toList
    · simp [perform, readText, hread, hdecode, occursIn_iff.2 hin, hin]
    · have hnot : occursIn failMarker.toList text.toList = false :=
        Bool.eq_false_iff.2 fun h => hin (occursIn_iff.1 h)
      simp [perform, readText, hread, hdecode, hnot, hin, hok]

/-- A page of a document that exists is drawn, where the picture can be written. -/
theorem exists_perform_rasterize (hdocument : fs.pathExists document = true)
    (hwrite : ∃ fs', fs.writeFile output (drawn page dpi) = .ok fs') :
    ∃ fs', r.perform (.rasterize document page dpi output) fs = .ok () fs' := by
  obtain ⟨fs', hok⟩ := hwrite
  simp only [perform, hdocument, if_true, hok]
  exact ⟨fs', rfl⟩

/-- What is performed without an error is a call that succeeds. -/
theorem toolchain_ok {call : ToolCall} {w : World (List ToolCall)} {fs' : FileSystem}
    (h : r.perform call w.files = .ok () fs') :
    r.toolchain.run call w = .ok () ⟨fs', w.tools ++ [call]⟩ := by
  simp only [toolchain, h]

end Rehearsal

/-! ## 2. Filling a package -/

/-- What is known of a folder before its package is built: its path leads to a directory without
    links that holds the entry document, the reference metadata is a file, neither depends on the
    package's place, and no name is over a limit. -/
structure Buildable (fs : FileSystem) (layout : Layout) (entryPoint : String) (name : Name)
    (source : Path) (dir loc : Location) (content : Bytes) : Prop where
  settled : Settled fs (Below (dir ++ [Package.dirName name])) source
  found : fs.stat? source = .ok (loc, .directory)
  free : fs.LinkFree loc
  document : ∃ executable,
    fs.at? (loc ++ [Text.Utf8.bytes entryPoint]) = some (.file content executable)
  apart : Apart fs (Below (dir ++ [Package.dirName name])) layout.referenceMetadata
  metadata : ∃ origin written executable,
    fs.stat? layout.referenceMetadata = .ok (origin, .file written executable)
  entries : ∀ n ∈ Package.entryNames, nameCheck (layout.packageDir name) n = .ok ()
  tree : Fits fs source (layout.package name entryPoint).typst loc

namespace Buildable

variable {fs₀ fs : FileSystem} {layout : Layout} {entryPoint : String} {name : Name}
  {source : Path} {dir loc : Location} {content : Bytes}
  (h : Buildable fs₀ layout entryPoint name source dir loc content)

include h

theorem leads : fs₀.Leads source loc :=
  leads_of_stat? h.found

/-- The entry document is read from the folder. -/
theorem readFile_source : fs₀.readFile (source.join (.ofString entryPoint)) = .ok content := by
  obtain ⟨executable, hat⟩ := h.document
  obtain ⟨hcheck, -⟩ := h.tree [] (Text.Utf8.bytes entryPoint) (by simp [hat])
  exact readFile_of_stat? (stat?_join_file h.leads hcheck hat)

section Prepared

variable (hord : Name.isOrdinary (Package.dirName name) = true)
  (hp : Prepared fs layout.root dir (Package.dirName name))
  (hsame : SameOutside (Below (dir ++ [Package.dirName name])) fs₀ fs)

include hord hp hsame

/-- In a prepared package the source can be copied. -/
theorem copyable : Copyable fs source loc (layout.packageDir name)
    (dir ++ [Package.dirName name]) Package.sourceName := by
  have hkept : ∀ ns, fs.at? (loc ++ ns) = fs₀.at? (loc ++ ns) := fun ns =>
    hsame.entry _ (h.settled.outside loc h.leads ns)
  have hstat : fs.stat? source = .ok (loc, .directory) := (h.settled.path fs hsame).trans h.found
  obtain ⟨s, hspot, -⟩ := stat?_eq_ok.1 hstat
  have hl := leads_of_stat? hstat
  have hfree : fs.LinkFree loc := by
    rintro k ⟨ns, rfl⟩
    rw [hkept]
    exact h.free _ (List.prefix_append _ _)
  have hfits := Fits.of_same h.tree hkept
  refine ⟨hl, (spot_eq_ok.1 hspot).1, resolves_of_linkFree hl hfits hfree, hp.inside hord,
    by decide, h.entries _ (by decide), hp.empty _ (by simp), ?_, hfits⟩
  rintro ⟨ns, hns⟩
  exact h.settled.outside loc h.leads ns (hns ▸ List.prefix_append _ _)

/-- **The source is copied**, to the end. -/
theorem exists_copyTree : ∃ fs₁,
    copyTree source (layout.package name entryPoint).typst fs = .ok () fs₁ ∧
      Grows (dir ++ [Package.dirName name] ++ [Package.sourceName]) fs fs₁ ∧
      ∀ ns, fs₀.IsCopy source loc ns
        (fs₁.at? (dir ++ [Package.dirName name] ++ [Package.sourceName] ++ ns)) := by
  have hinside := hp.inside hord
  obtain ⟨fs₁, hcopy⟩ := copyLevels_completes pathLimit 0 (Nat.le_refl _) fs _ _ _ _ _
    (h.copyable hord hp hsame) (Nat.zero_le _)
  have hg := copyLevels_grows pathLimit fs source (layout.packageDir name) _ Package.sourceName
    hinside (by decide) (hp.free.below _)
  rw [hcopy] at hg
  obtain ⟨loc', hl', hcopied⟩ := copyLevels_copied fs₀ (Below (dir ++ [Package.dirName name]))
    pathLimit fs fs₁ source (layout.packageDir name) (dir ++ [Package.dirName name])
    Package.sourceName h.settled hsame (fun k hk => below_of_below (List.prefix_append _ _) hk)
    hinside (by decide) (hp.empty _ (by simp)) hcopy
  obtain rfl := hl'.unique h.leads
  exact ⟨fs₁, hcopy, hg, hcopied⟩

end Prepared

/-- **The entry document in a copied source reads as it stood.** -/
theorem readFile_copied
    (hl : fs.Leads (layout.packageDir name) (dir ++ [Package.dirName name]))
    (hcopied : ∀ ns, fs₀.IsCopy source loc ns
      (fs.at? (dir ++ [Package.dirName name] ++ [Package.sourceName] ++ ns))) :
    fs.readFile (layout.package name entryPoint).entryDocument = .ok content := by
  obtain ⟨executable, hat⟩ := h.document
  have hdir := hcopied []
  rw [List.append_nil, IsCopy, List.append_nil, isDirectory_iff.1 h.leads.isDirectory] at hdir
  have hinside : fs.Leads (layout.package name entryPoint).typst
      (dir ++ [Package.dirName name] ++ [Package.sourceName]) :=
    hl.join (by decide) (length_le_of_nameCheck (h.entries _ (by decide))) hdir
  have hfile := hcopied [Text.Utf8.bytes entryPoint]
  rw [IsCopy, hat] at hfile
  obtain ⟨origin, content', executable', hstat, hentry⟩ := hfile
  -- what was copied is what the folder's path leads to
  have hcontent : content' = content := by
    have hread := readFile_of_stat? hstat
    exact Except.ok.inj (hread.symm.trans h.readFile_source)
  obtain ⟨-, hcheck⟩ := h.tree [] (Text.Utf8.bytes entryPoint) (by simp [hat])
  rw [← hcontent]
  exact readFile_of_stat? (stat?_join_file hinside hcheck hentry)

/-- **The source and the metadata are copied**, the entry document reads as it stood, and nothing
    stands at the places of the document and the preview. -/
theorem exists_stocked (hord : Name.isOrdinary (Package.dirName name) = true)
    (hp : Prepared fs layout.root dir (Package.dirName name))
    (hsame : SameOutside (Below (dir ++ [Package.dirName name])) fs₀ fs) :
    ∃ fs₁ fs₂, copyTree source (layout.package name entryPoint).typst fs = .ok () fs₁ ∧
      fs₁.copyFile layout.referenceMetadata (layout.package name entryPoint).metadata = .ok fs₂ ∧
      Ready fs₂ (layout.packageDir name) (dir ++ [Package.dirName name]) ∧
      (∀ n ∈ [Package.documentName, Package.previewName],
        fs₂.at? (dir ++ [Package.dirName name] ++ [n]) = none) ∧
      fs₂.readFile (layout.package name entryPoint).entryDocument = .ok content := by
  obtain ⟨fs₁, hcopy, hg₁, hcopied⟩ := h.exists_copyTree hord hp hsame
  have hr₁ : Ready fs₁ (layout.packageDir name) (dir ++ [Package.dirName name]) :=
    (hp.ready hord).grows hg₁
  have hnone₁ : ∀ n, n ≠ Package.sourceName →
      fs₁.at? (dir ++ [Package.dirName name] ++ [n]) = none := by
    intro n hn
    rw [hg₁.outside.at?_sibling hn]
    exact hp.empty [n] (by simp)
  obtain ⟨origin, written, executable, hmeta⟩ := h.metadata
  have hmeta₁ : fs₁.stat? layout.referenceMetadata = .ok (origin, .file written executable) := by
    have hsame₁ := hsame.trans (hg₁.outside.mono fun k hk =>
      below_of_below (List.prefix_append _ _) hk)
    exact (h.apart fs₁ hsame₁).trans hmeta
  obtain ⟨fs₂, hcopyFile⟩ := exists_copyFile_join hr₁.leads (by decide) (h.entries _ (by decide))
    (hnone₁ Package.metadataName (by decide)) hmeta₁
  obtain ⟨-, -, -, -, -, hg₂, -⟩ :=
    copyFile_join_new hr₁.leads (by decide) (hnone₁ Package.metadataName (by decide)) hcopyFile
  have hr₂ := hr₁.grows hg₂
  refine ⟨fs₁, fs₂, hcopy, hcopyFile, hr₂, fun n hn => ?_, h.readFile_copied hr₂.leads fun ns => ?_⟩
  · have hne : n ≠ Package.metadataName ∧ n ≠ Package.sourceName := by
      revert n
      decide
    rw [hg₂.outside.at?_sibling hne.1]
    exact hnone₁ n hne.2
  · rw [hg₂.outside.entry _ fun hb => ?_]
    · exact hcopied ns
    · exact absurd (eq_of_below (List.prefix_append _ _) hb) (by decide)

/-- Where a document was written a page of it is drawn. -/
theorem exists_drawn {r : Rehearsal} {fs' : FileSystem} (page dpi : Nat)
    (hr : Ready fs (layout.packageDir name) (dir ++ [Package.dirName name]))
    (hnone : ∀ n ∈ [Package.documentName, Package.previewName],
      fs.at? (dir ++ [Package.dirName name] ++ [n]) = none)
    (hcompile : r.perform (.compile (layout.package name entryPoint).entryDocument
      (layout.package name entryPoint).document) fs = .ok () fs') :
    ∃ fs'', r.perform (.rasterize (layout.package name entryPoint).document page dpi
      (layout.package name entryPoint).preview) fs' = .ok () fs'' := by
  obtain ⟨text, -, hwrite⟩ := writeFile_of_perform_compile hcompile
  obtain ⟨hat, hg, hcheck⟩ := writeFile_join_new (n := Package.documentName) hr.leads (by decide)
    (hnone _ (by simp)) hwrite
  have hr' := hr.grows hg
  have hstat := stat?_join_file hr'.leads hcheck hat
  have hpreview : fs'.at? (dir ++ [Package.dirName name] ++ [Package.previewName]) = none := by
    rw [hg.outside.at?_sibling (by decide)]
    exact hnone _ (by simp)
  refine Rehearsal.exists_perform_rasterize ?_ (exists_writeFile_join hr'.leads (by decide)
    (h.entries _ (by decide)) hpreview _)
  exact congrArg Except.toBool hstat

end Buildable

/-- **A prepared package is filled exactly if the entry document does not spoil that.** -/
theorem Buildable.fill_iff {r : Rehearsal} {fs₀ : FileSystem} {layout : Layout}
    {options : PackageOptions} {name : Name} {source : Path} {dir loc : Location} {content : Bytes}
    (h : Buildable fs₀ layout options.entryPoint name source dir loc content)
    {w : World (List ToolCall)} (hord : Name.isOrdinary (Package.dirName name) = true)
    (hp : Prepared w.files layout.root dir (Package.dirName name))
    (hsame : SameOutside (Below (dir ++ [Package.dirName name])) fs₀ w.files) :
    (∃ w', Package.fill r.toolchain layout options source
      (layout.package name options.entryPoint) w = .ok () w') ↔
      Rehearsal.spoils content = false := by
  obtain ⟨fs₁, fs₂, hcopyTree, hcopyFile, hr, hnone, hread⟩ := h.exists_stocked hord hp hsame
  have hstep₁ : r.perform (.copyTree source (layout.package name options.entryPoint).typst)
      w.files = .ok () fs₁ := by simp only [Rehearsal.perform, hcopyTree]
  have hcompile := Rehearsal.perform_compile_iff (r := r) hread fun text =>
    exists_writeFile_join hr.leads (by decide) (h.entries Package.documentName (by decide))
      (hnone _ (by simp)) text
  constructor
  · rintro ⟨w', hfill⟩
    obtain ⟨w₁, fs₂', w₃, h₁, h₂, h₃, -⟩ := fill_eq_ok.1 hfill
    cases (Rehearsal.toolchain_ok hstep₁).symm.trans h₁
    cases hcopyFile.symm.trans h₂
    exact hcompile.1 ⟨_, (rehearses_toolchain r).ok _ _ _ h₃⟩
  · intro hsound
    obtain ⟨fs₃, hstep₃⟩ := hcompile.2 hsound
    obtain ⟨fs₄, hstep₄⟩ :=
      h.exists_drawn options.previewPage options.previewDpi hr hnone hstep₃
    exact ⟨_, fill_eq_ok.2 ⟨_, fs₂, _, Rehearsal.toolchain_ok hstep₁, hcopyFile,
      Rehearsal.toolchain_ok (w := ⟨fs₂, _⟩) hstep₃, Rehearsal.toolchain_ok (w := ⟨fs₃, _⟩) hstep₄⟩⟩

/-! ## 3. Building what was found -/

/-- The names that the build of a folder looks up are taken where it does: neither they nor the
    paths that end in them are over their limits, and none has a zero byte. -/
structure TemplateFolder.WithinLimits (folder : TemplateFolder) (layout : Layout)
    (entryPoint : String) (name : Name) (fs : FileSystem) : Prop where
  place : nameCheck layout.root (Package.dirName name) = .ok ()
  entries : ∀ n ∈ Package.entryNames, nameCheck (layout.packageDir name) n = .ok ()
  tree : Fits fs folder.path (layout.package name entryPoint).typst (fs.place folder.path)

/-- Whether no package comes of a folder: it is named like the reference package, or its entry
    document does not compile. -/
def TemplateFolder.fails (folder : TemplateFolder) (fs : FileSystem) (entryPoint : String) : Bool :=
  decide (folder.name? = some (Text.Utf8.bytes Layout.referencePackage)) ||
    match fs.readFile (folder.path.join (.ofString entryPoint)) with
    | .ok content => Rehearsal.spoils content
    | .error _ => false

/-- The package of a folder as it is reported. -/
def TemplateFolder.package? (folder : TemplateFolder) (layout : Layout) (entryPoint : String) :
    Option TemplatePackage :=
  folder.name?.map fun name => Package.report name (layout.package name entryPoint)

section Build

variable {r : Rehearsal} {layout : Layout} {options : PackageOptions} {folder : TemplateFolder}
  {name : Name} {w : World (List ToolCall)} {loc : Location} {content : Bytes}

/-- **A buildable folder is built exactly if its entry document does not spoil that.** -/
theorem Buildable.generate_outcome
    (h : Buildable w.files layout options.entryPoint name folder.path (w.files.place layout.root)
      loc content) (hb : folder.Builds name) (hs : w.files.Straight layout.root)
    (hl : w.files.Leads layout.root (w.files.place layout.root))
    (hc : nameCheck layout.root (Package.dirName name) = .ok ()) :
    (Rehearsal.spoils content = true →
        ∃ e, Disk.outcome (generate r.toolchain layout options folder w) = .error e) ∧
      (Rehearsal.spoils content = false →
        Disk.outcome (generate r.toolchain layout options folder w) =
          .ok (Package.report name (layout.package name options.entryPoint))) := by
  have hh : Hosts w.files (Below (w.files.place layout.root ++ [Package.dirName name]))
      layout.root (w.files.place layout.root) := Or.inr ⟨hs, rfl⟩
  obtain ⟨fs₁, hprep⟩ := exists_prepare_eq_ok hh hb.isOrdinary hl hc
  obtain ⟨hframed, hprepared⟩ := prepare_packageDir hb hh
  have hp := hprepared fs₁ hprep
  rw [show Package.prepare (layout.packageDir name) w.files = .ok () fs₁ from hprep] at hframed
  have hsame := hframed.sameOutside rfl hl.isDirectory
  have hfill := h.fill_iff (r := r) (w := { w with files := fs₁ }) hb.isOrdinary hp hsame
  rw [generate_prepared hb hprep]
  cases hf : Package.fill r.toolchain layout options folder.path
      (layout.package name options.entryPoint) { w with files := fs₁ } with
  | ok u w' =>
    have hsound := hfill.1 ⟨w', hf⟩
    refine ⟨fun hspoiled => ?_, fun _ => rfl⟩
    rw [hsound] at hspoiled
    cases hspoiled
  | error e w' =>
    refine ⟨fun _ => ⟨e, rfl⟩, fun hsound => ?_⟩
    obtain ⟨w'', hok⟩ := hfill.2 hsound
    rw [hf] at hok
    cases hok

end Build

section Found

variable {fs : FileSystem} {layout : Layout} {entryPoint : String} {folders : List TemplateFolder}
  (hfree : fs.LinkFree []) (hup : layout.root.NeverUp)
  (h : discover fs layout.reposDir entryPoint = .ok folders)

include h

/-- **What a search finds has a name.** -/
theorem exists_name?_of_discover {folder : TemplateFolder} (hmem : folder ∈ folders) :
    ∃ name, folder.name? = some name := by
  obtain ⟨ns, hns, rfl, -⟩ := Discovery.visitLevels_sound h hmem
  have hway : ∀ n ∈ Layout.reposName :: ns, Name.isOrdinary n = true :=
    List.forall_mem_cons.2 ⟨by decide, hns⟩
  obtain ⟨name, -, hname⟩ := Path.exists_fileName_under layout.root hway (List.cons_ne_nil _ _)
  exact ⟨name, hname⟩

include hfree hup

/-- The root leads to its place. -/
theorem leads_root_of_discover : fs.Leads layout.root (fs.place layout.root) := by
  obtain ⟨entries, hread⟩ := Discovery.exists_readDirectory_of_visitLevels h
  obtain ⟨loc, hstat, -⟩ := readDirectory_eq_ok hread
  obtain ⟨-, hshort⟩ := place_of_leads (straight_reposDir layout hfree hup) (leads_of_stat? hstat)
  refine leads_of_isDirectory hup (fun m hm => hshort m ?_) (isDirectory_of_discover hfree hup h)
  rw [Layout.reposDir, show Path.ofString "repos" = ⟨Layout.reposName⟩ from rfl,
    Path.names_join_name _ (by decide)]
  exact List.mem_append_left _ hm

/-- **What a search finds is buildable**, within the limits. -/
theorem buildable_of_discover {origin : Location} {written : Bytes} {executable : Bool}
    (hmeta : fs.stat? layout.referenceMetadata = .ok (origin, .file written executable))
    {folder : TemplateFolder} (hmem : folder ∈ folders) {name : Name} (hb : folder.Builds name)
    (hlimits : folder.WithinLimits layout entryPoint name fs) :
    ∃ loc content,
      Buildable fs layout entryPoint name folder.path (fs.place layout.root) loc content := by
  have hplace : ∀ k, Below (fs.place layout.root ++ [Package.dirName name]) k →
      PackagePlaces folders (fs.place layout.root) k := fun k hk => ⟨folder, hmem, name, hb, hk⟩
  have hsettled := (settled_of_discover hfree hup h hmem).1
  have hreference := straight_referenceMetadata hfree hup
  obtain ⟨ns, hns, rfl, entries, hread, e, hentry, hne⟩ := Discovery.visitLevels_sound h hmem
  obtain ⟨loc, hstat, rfl⟩ := readDirectory_eq_ok hread
  obtain ⟨hs, -, -⟩ := (straight_reposDir layout hfree hup).under (hfree.below _) hns
  obtain rfl := (place_of_leads hs (leads_of_stat? hstat)).1
  have hat := mem_children.1 hentry
  obtain ⟨content, executable', rfl⟩ : ∃ content executable', e = .file content executable' := by
    cases e with
    | file content executable' => exact ⟨content, executable', rfl⟩
    | directory => exact absurd rfl hne
    | link target => exact absurd hat (hfree _ List.nil_prefix target)
  exact ⟨_, content, hsettled.mono hplace, hstat, hfree.below _, ⟨executable', hat⟩,
    fun fs' hs' => apart_referenceMetadata hreference fs' (hs'.mono hplace),
    ⟨origin, written, executable, hmeta⟩, hlimits.entries, hlimits.tree⟩

end Found

/-- **What a search finds is built exactly if it does not fail**, within the limits. -/
theorem generate_verdict {r : Rehearsal} {layout : Layout} (options : PackageOptions)
    {folders : List TemplateFolder} {w : World (List ToolCall)} (hfree : w.files.LinkFree [])
    (hup : layout.root.NeverUp)
    (h : discover w.files layout.reposDir options.entryPoint = .ok folders) {origin : Location}
    {written : Bytes} {executable : Bool}
    (hmeta : w.files.stat? layout.referenceMetadata = .ok (origin, .file written executable))
    {folder : TemplateFolder} (hmem : folder ∈ folders)
    (hlimits : ∀ name, folder.Builds name →
      folder.WithinLimits layout options.entryPoint name w.files) :
    (folder.fails w.files options.entryPoint = true →
        ∃ e, Disk.outcome (generate r.toolchain layout options folder w) = .error e) ∧
      (folder.fails w.files options.entryPoint = false →
        ∃ package, folder.package? layout options.entryPoint = some package ∧
          Disk.outcome (generate r.toolchain layout options folder w) = .ok package) := by
  obtain ⟨name, hname⟩ := exists_name?_of_discover h hmem
  by_cases hreference : name = Text.Utf8.bytes Layout.referencePackage
  · -- the name of the reference package is refused
    have hb : ¬ ∃ name, folder.Builds name := by
      rintro ⟨name', hname', hne⟩
      rw [hname, hreference] at hname'
      exact hne (Option.some.inj hname').symm
    obtain ⟨e, he⟩ := generate_unbuilt r.toolchain layout options hb
    refine ⟨fun _ => ⟨e, by rw [he]; rfl⟩, fun hfails => ?_⟩
    rw [TemplateFolder.fails, hname, hreference] at hfails
    simp at hfails
  · have hb : folder.Builds name := ⟨hname, hreference⟩
    obtain ⟨loc, content, hbuildable⟩ :=
      buildable_of_discover hfree hup h hmeta hmem hb (hlimits name hb)
    obtain ⟨hspoiled, hsound⟩ := hbuildable.generate_outcome (r := r) hb
      (straight_of_linkFree hfree hup) (leads_root_of_discover hfree hup h) (hlimits name hb).place
    have hfails : folder.fails w.files options.entryPoint = Rehearsal.spoils content := by
      rw [TemplateFolder.fails, hbuildable.readFile_source, hname]
      simp [hreference]
    rw [hfails]
    refine ⟨hspoiled, fun hcontent => ⟨_, ?_, hsound hcontent⟩⟩
    rw [TemplateFolder.package?, hname]
    rfl

/-! ## 4. What a run reports -/

/-- **If it is known which folders fail and what comes of the others, so is the report.** -/
theorem Course.Reports.of_verdicts {folders : List TemplateFolder} {report : PipelineReport}
    {outcome : TemplateFolder → Except PackageError TemplatePackage}
    {fails : TemplateFolder → Bool} {package? : TemplateFolder → Option TemplatePackage}
    (h : Course.Reports (folders.map fun folder => (folder, outcome folder)) report)
    (hverdict : ∀ folder ∈ folders, (fails folder = true → ∃ e, outcome folder = .error e) ∧
      (fails folder = false →
        ∃ package, package? folder = some package ∧ outcome folder = .ok package)) :
    report.failed.map FailedTemplate.folder = folders.filter fails ∧
      report.generated.map some = (folders.filter fun folder => !fails folder).map package? := by
  rw [h.failed, h.generated]
  clear h
  induction folders with
  | nil => exact ⟨rfl, rfl⟩
  | cons folder rest ih =>
    obtain ⟨hfailed, hgenerated⟩ := ih fun g hg => hverdict g (List.mem_cons_of_mem _ hg)
    obtain ⟨hyes, hno⟩ := hverdict folder List.mem_cons_self
    cases hf : fails folder with
    | true =>
      obtain ⟨e, he⟩ := hyes hf
      rw [List.filter_cons_of_pos hf, List.filter_cons_of_neg (by simp [hf]), List.map_cons,
        ← hfailed, ← hgenerated]
      simp [Course.failed, Course.generated, he, Except.toOption]
    | false =>
      obtain ⟨package, hpackage, hok⟩ := hno hf
      rw [List.filter_cons_of_neg (by simp [hf]), List.filter_cons_of_pos (by simp [hf]),
        List.map_cons, List.map_cons, ← hfailed, ← hgenerated, hpackage]
      simp [Course.failed, Course.generated, hok, Except.toOption]

/-- A run that keeps going reports what each folder comes to alone. -/
theorem generateAll_reports {r : Rehearsal} {ω : Type} {writer : Writer ω} (hw : writer.Accepts)
    {layout : Layout} (options : PackageOptions) (folders : List TemplateFolder)
    (run : Run (List ToolCall) ω) (hs : run.world.files.Straight layout.root)
    (hsecluded : ∀ fs, Standing layout (builds options folders) run.world.files fs →
      Secluded layout options folders (run.world.files.place layout.root) fs) :
    ∃ report run', generateAll r.toolchain writer layout options true folders run =
        .ok report run' ∧
      Course.Reports (folders.map fun folder =>
        (folder, Disk.outcome (generate r.toolchain layout options folder run.world))) report := by
  have hbegin : Between r layout options folders run.world run.world.files [] run.world.files :=
    ⟨Renewed.refl _ _ _, Followed.refl _⟩
  obtain ⟨taken, htally, -, -⟩ :=
    buildOnto_followed hs hsecluded hw true (fun _ => id) {} run hbegin
  obtain ⟨report, hall, hreports⟩ := tally_keepGoing (fun folder =>
    Disk.outcome (generate r.toolchain layout options folder run.world)) folders Course.Reports.nil
  obtain ⟨houtcome, -⟩ := Prod.mk.inj (htally.symm.trans hall)
  obtain ⟨run', hrun⟩ := Disk.outcome_eq_ok.1 houtcome
  exact ⟨report, run', hrun, hreports⟩

/-- **A run that keeps going reports exactly the folders that fail, and the package of each other**,
    both in the order in which the search found them: where no link stands, the reference metadata
    is a file, all repositories are fetched and the search comes to its end within the limits, no
    other step of a build fails. -/
theorem runPipeline_verdicts {r : Rehearsal} {ω : Type} {writer : Writer ω} (hw : writer.Accepts)
    {config : Config} (hkeep : config.keepGoing = true) (hup : config.templatesRoot.NeverUp)
    {run : Run (List ToolCall) ω} (hfree : run.world.files.LinkFree []) {origin : Location}
    {written : Bytes} {executable : Bool}
    (hmeta : run.world.files.stat? (Layout.referenceMetadata ⟨config.templatesRoot⟩) =
      .ok (origin, .file written executable))
    {w : World (List ToolCall)}
    (hfetch : fetchAll r.toolchain ⟨config.templatesRoot⟩ config.host config.repositories
      run.world = .ok () w)
    {folders : List TemplateFolder}
    (hfound : discover w.files (Layout.reposDir ⟨config.templatesRoot⟩) config.entryPoint =
      .ok folders)
    (hlimits : ∀ folder ∈ folders, ∀ name, folder.Builds name →
      folder.WithinLimits ⟨config.templatesRoot⟩ config.entryPoint name w.files) :
    ∃ report run', runPipeline r.toolchain writer config run = .ok report run' ∧
      report.failed.map FailedTemplate.folder =
        folders.filter (fun folder => folder.fails w.files config.entryPoint) ∧
      report.generated.map some =
        (folders.filter fun folder => !folder.fails w.files config.entryPoint).map fun folder =>
          folder.package? ⟨config.templatesRoot⟩ config.entryPoint := by
  obtain ⟨hfree', hmeta'⟩ :=
    fetchAll_reference (rehearses_toolchain r) config.host hup hfree hmeta hfetch
  obtain ⟨report, run', hall, hreports⟩ :=
    generateAll_reports (r := r) hw config.packageOptions folders { run with world := w }
      (straight_of_linkFree hfree' hup) fun fs => secluded_of_discover hfree' hup hfound rfl
  have hrun : runPipeline r.toolchain writer config run = .ok report run' := by
    simp only [runPipeline_eq, hfetch, buildFound, hfound, hkeep]
    exact hall
  exact ⟨report, run', hrun, hreports.of_verdicts fun folder hmem =>
    generate_verdict config.packageOptions hfree' hup hfound hmeta' hmem (hlimits folder hmem)⟩

/-- What is cloned: a template that is built, one with the mark of failure, and one that is named
    like the reference package. -/
def gallery : FileSystem :=
  .written [("T", .directory), ("T/Empty.sr", .directory),
    ("T/Empty.sr/Serifian.plist", .file (Text.Utf8.bytes "m") false),
    ("f", .directory),
    ("f/Empty", .directory), ("f/Empty/main.typ", .file (Text.Utf8.bytes "= E") false),
    ("f/bad", .directory), ("f/bad/main.typ", .file (Text.Utf8.bytes "// fail-compile") false),
    ("f/good", .directory), ("f/good/main.typ", .file (Text.Utf8.bytes "= G") false)]

/-- The gallery once its templates are fetched. -/
def exhibited : World (List ToolCall) :=
  Disk.left (fetchAll (Rehearsal.toolchain { fixture := some (.ofString "f") }) ⟨.ofString "T"⟩
    "github.com" [⟨"a", "r", none⟩] ⟨gallery, []⟩)

/-- The templates of the gallery as a search finds them. -/
def exhibits : List TemplateFolder :=
  [⟨.ofString "T/repos/a/r/Empty"⟩, ⟨.ofString "T/repos/a/r/bad"⟩, ⟨.ofString "T/repos/a/r/good"⟩]

theorem discover_exhibited :
    discover exhibited.files (Layout.reposDir ⟨.ofString "T"⟩) "main.typ" = .ok exhibits := by
  have hrepos : exhibited.files.readDirectory (.ofString "T/repos") =
      .ok [(Text.Utf8.bytes "a", .directory)] := by decide +kernel
  have hauthor : exhibited.files.readDirectory (.ofString "T/repos/a") =
      .ok [(Text.Utf8.bytes "r", .directory)] := by decide +kernel
  have hclone : exhibited.files.readDirectory (.ofString "T/repos/a/r") =
      .ok [(Text.Utf8.bytes "Empty", .directory), (Text.Utf8.bytes "bad", .directory),
        (Text.Utf8.bytes "good", .directory)] := by decide +kernel
  have hsorted : List.mergeSort [(Text.Utf8.bytes "Empty", Entry.directory),
      (Text.Utf8.bytes "bad", .directory), (Text.Utf8.bytes "good", .directory)]
      Discovery.byName = _ := List.mergeSort_of_pairwise (by decide +kernel)
  have hempty : exhibited.files.readDirectory (.ofString "T/repos/a/r/Empty") =
      .ok [(Text.Utf8.bytes "main.typ", .file (Text.Utf8.bytes "= E") false)] := by decide +kernel
  have hbad : exhibited.files.readDirectory (.ofString "T/repos/a/r/bad") =
      .ok [(Text.Utf8.bytes "main.typ", .file (Text.Utf8.bytes "// fail-compile") false)] := by
    decide +kernel
  have hgood : exhibited.files.readDirectory (.ofString "T/repos/a/r/good") =
      .ok [(Text.Utf8.bytes "main.typ", .file (Text.Utf8.bytes "= G") false)] := by decide +kernel
  have hjoin : ∀ x ∈ [("T/repos", "a", "T/repos/a"), ("T/repos/a", "r", "T/repos/a/r"),
      ("T/repos/a/r", "Empty", "T/repos/a/r/Empty"), ("T/repos/a/r", "bad", "T/repos/a/r/bad"),
      ("T/repos/a/r", "good", "T/repos/a/r/good")],
      (Path.ofString x.1).join ⟨Text.Utf8.bytes x.2.1⟩ = .ofString x.2.2 := by decide +kernel
  simp only [List.forall_mem_cons, List.not_mem_nil, false_implies, implies_true, and_true] at hjoin
  obtain ⟨hjoin₁, hjoin₂, hjoin₃, hjoin₄, hjoin₅⟩ := hjoin
  have hvisit : ∀ depth, Discovery.visitLevels exhibited.files.readDirectory
      (Text.Utf8.bytes "main.typ") (depth + 4) (.ofString "T/repos") = .ok exhibits := by
    intro depth
    simp only [Discovery.visitLevels, hrepos, hauthor, hclone, hsorted, hempty, hbad, hgood,
      Discovery.visitEntries, Discovery.visitEntry, List.mergeSort_singleton, hjoin₁, hjoin₂,
      hjoin₃, hjoin₄, hjoin₅, if_true, List.append_nil, List.cons_append, List.nil_append, exhibits]
  exact hvisit 4092

theorem runPipeline_verdicts_gallery :
    let r : Rehearsal := { fixture := some (.ofString "f") }
    let config : Config := {
      templatesRoot := .ofString "T"
      repositories := [⟨"a", "r", none⟩]
      keepGoing := true }
    let layout : Layout := ⟨config.templatesRoot⟩
    let run : Run (List ToolCall) Unit := ⟨⟨gallery, []⟩, ⟨(), []⟩⟩
    let fails : TemplateFolder → Bool := fun folder =>
      folder.fails exhibited.files config.entryPoint
    Writer.accepting.Accepts ∧ config.keepGoing = true ∧ config.templatesRoot.NeverUp ∧
      gallery.LinkFree [] ∧
      gallery.stat? layout.referenceMetadata = .ok
        ([Text.Utf8.bytes "T", Text.Utf8.bytes "Empty.sr", Text.Utf8.bytes "Serifian.plist"],
          .file (Text.Utf8.bytes "m") false) ∧
      fetchAll r.toolchain layout config.host config.repositories run.world = .ok () exhibited ∧
      discover exhibited.files layout.reposDir config.entryPoint = .ok exhibits ∧
      (∀ folder ∈ exhibits, ∀ name, folder.Builds name →
        folder.WithinLimits layout config.entryPoint name exhibited.files) ∧
      exhibits.filter fails = exhibits.take 2 ∧
      ∃ report run', runPipeline r.toolchain Writer.accepting config run = .ok report run' ∧
        report.failed.map FailedTemplate.folder = exhibits.filter fails ∧
        report.generated.map some = (exhibits.filter fun folder => !fails folder).map fun folder =>
          folder.package? layout config.entryPoint := by
  intro r config layout run fails
  have hup : config.templatesRoot.NeverUp := by decide
  have hfree : gallery.LinkFree [] := linkFree_of_entries (by decide +kernel) _
  have hmeta : gallery.stat? layout.referenceMetadata = .ok
      ([Text.Utf8.bytes "T", Text.Utf8.bytes "Empty.sr", Text.Utf8.bytes "Serifian.plist"],
        .file (Text.Utf8.bytes "m") false) := by decide +kernel
  have hfetch : fetchAll r.toolchain layout config.host config.repositories run.world =
      .ok () exhibited := by
    have hok : Disk.outcome (fetchAll r.toolchain layout config.host config.repositories
        run.world) = .ok () := by decide +kernel
    obtain ⟨w, hw⟩ := Disk.outcome_eq_ok.1 hok
    have hleft : exhibited = w := congrArg Disk.left hw
    rw [hw, hleft]
  have hlimits : ∀ folder ∈ exhibits, ∀ name, folder.Builds name →
      folder.WithinLimits layout config.entryPoint name exhibited.files := by
    intro folder hmem name hb
    simp only [exhibits, List.mem_cons, List.not_mem_nil, or_false] at hmem
    rcases hmem with rfl | rfl | rfl
    · have hname : TemplateFolder.name? ⟨.ofString "T/repos/a/r/Empty"⟩ =
          some (Text.Utf8.bytes Layout.referencePackage) := by decide +kernel
      exact absurd (Option.some.inj (hb.1.symm.trans hname)) hb.2
    · have hname : TemplateFolder.name? ⟨.ofString "T/repos/a/r/bad"⟩ =
          some (Text.Utf8.bytes "bad") := by decide +kernel
      obtain rfl := Option.some.inj (hb.1.symm.trans hname)
      exact ⟨by decide +kernel, by decide +kernel, fits_of_entries (by decide +kernel)⟩
    · have hname : TemplateFolder.name? ⟨.ofString "T/repos/a/r/good"⟩ =
          some (Text.Utf8.bytes "good") := by decide +kernel
      obtain rfl := Option.some.inj (hb.1.symm.trans hname)
      exact ⟨by decide +kernel, by decide +kernel, fits_of_entries (by decide +kernel)⟩
  have hfails : exhibits.filter fails = exhibits.take 2 := by decide +kernel
  exact ⟨accepts_accepting, rfl, hup, hfree, hmeta, hfetch, discover_exhibited, hlimits, hfails,
    runPipeline_verdicts accepts_accepting rfl hup hfree hmeta hfetch discover_exhibited hlimits⟩

end TemplatePress
