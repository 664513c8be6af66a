import TemplatePress.Pipeline
import TemplatePress.Proofs.Packages

/-!
# Which packages a run leaves complete

A run builds one package per folder, and folders of one name share one place: a later folder takes
the place of an earlier one, and when it fails it leaves an incomplete package there. This file
fixes:

* `Course`: the folders of a run with what came of each, in the order of the run. Its report is read
  off it (`Course.Reports`);
* `attempts`: builds one after the other, whatever comes of each. They are what a run makes that
  reaches its end (`buildOnto_attempts`);
* `Kept`: what is known of the place of a name for which a package was built once. It is kept by
  folders of other names and renewed by folders of the same (`Kept.of_generate`), so attempts keep
  track of all packages (`attempts_tracked`);
* `generateAll_isComplete_iff`: at the end a reported package is complete exactly if the last folder
  of its name was built.
-/

namespace TemplatePress

open FileSystem

/-! ## 1. Complete packages -/

/-- Whether a path leads to a file. -/
def FileSystem.leadsToFile (fs : FileSystem) (p : Path) : Bool :=
  match fs.stat? p with
  | .ok (_, .file _ _) => true
  | _ => false

/-- Whether a package has its source, its metadata, its document and its preview. -/
def TemplatePackage.isComplete (p : TemplatePackage) (fs : FileSystem) : Bool :=
  fs.leadsToDirectory (p.dir.join (.ofString "Typst")) &&
    fs.leadsToFile (p.dir.join (.ofString "Serifian.plist")) &&
    fs.leadsToFile p.document && fs.leadsToFile p.preview

section LeadsTo

variable {fs : FileSystem} {p : Path} {dir : Location} {n : Name}

theorem leadsToDirectory_join (hl : fs.Leads p dir) (hn : Name.isOrdinary n = true)
    (hc : nameCheck p n = .ok ()) (hat : fs.at? (dir ++ [n]) = some .directory) :
    fs.leadsToDirectory (p.join ⟨n⟩) = true := by
  simp [leadsToDirectory, stat?_join hl hn hc (by simp [hat]), hat]

theorem leadsToFile_join (hl : fs.Leads p dir) (hn : Name.isOrdinary n = true)
    (hc : nameCheck p n = .ok ()) {content : Bytes} {executable : Bool}
    (hat : fs.at? (dir ++ [n]) = some (.file content executable)) :
    fs.leadsToFile (p.join ⟨n⟩) = true := by
  simp [leadsToFile, stat?_join hl hn hc (by simp [hat]), hat]

theorem leadsToFile_join_none (hl : fs.Leads p dir) (hn : Name.isOrdinary n = true)
    (hat : fs.at? (dir ++ [n]) = none) : fs.leadsToFile (p.join ⟨n⟩) = false := by
  cases hc : nameCheck p n with
  | ok => simp [leadsToFile, stat?_join hl hn hc (by simp [hat]), hat]
  | error e => simp [leadsToFile, stat?_join_error hl hn hc]

end LeadsTo

/-! ## 2. What is kept at the place of a package -/

/-- The entries of a complete package at its place. -/
structure Holds (fs : FileSystem) (layout : Layout) (name : Name) (place : Location) : Prop where
  check : ∀ n ∈ Package.entryNames, nameCheck (layout.packageDir name) n = .ok ()
  source : fs.at? (place ++ [Package.sourceName]) = some .directory
  file : ∀ n ∈ [Package.metadataName, Package.documentName, Package.previewName],
    ∃ content executable, fs.at? (place ++ [n]) = some (.file content executable)

/-- What stands at the place of a name for which a package was built once: the package, if the last
    folder of the name was built, and else a directory without a preview. -/
structure Kept (fs : FileSystem) (layout : Layout) (dir : Location) (name : Name) (built : Bool) :
    Prop where
  leads : fs.Leads layout.root dir
  ordinary : Name.isOrdinary (Package.dirName name) = true
  check : nameCheck layout.root (Package.dirName name) = .ok ()
  directory : fs.at? (dir ++ [Package.dirName name]) = some .directory
  holds : built = true → Holds fs layout name (dir ++ [Package.dirName name])
  noPreview : built = false →
    fs.at? (dir ++ [Package.dirName name] ++ [Package.previewName]) = none

section Kept

variable {fs fs' : FileSystem} {layout : Layout} {dir : Location} {name : Name} {built : Bool}

/-- **A package is complete exactly if it was built last.** -/
theorem Kept.isComplete_iff (h : Kept fs layout dir name built) (entryPoint : String) :
    (Package.report name (layout.package name entryPoint)).isComplete fs = built := by
  have hl : fs.Leads (layout.packageDir name) (dir ++ [Package.dirName name]) :=
    h.leads.join h.ordinary (length_le_of_nameCheck h.check) h.directory
  cases built with
  | true =>
    obtain ⟨hcheck, hsource, hfile⟩ := h.holds rfl
    have hfiles : ∀ n ∈ [Package.metadataName, Package.documentName, Package.previewName],
        Name.isOrdinary n = true → fs.leadsToFile ((layout.packageDir name).join ⟨n⟩) = true := by
      intro n hn hord
      obtain ⟨content, executable, hat⟩ := hfile n hn
      exact leadsToFile_join hl hord (hcheck n (List.mem_cons_of_mem _ hn)) hat
    have hdir : fs.leadsToDirectory ((layout.packageDir name).join ⟨Package.sourceName⟩) = true :=
      leadsToDirectory_join hl (by decide) (hcheck _ (by decide)) hsource
    have hmeta := hfiles Package.metadataName (by decide) (by decide)
    have hdoc := hfiles Package.documentName (by decide) (by decide)
    have hpre := hfiles Package.previewName (by decide) (by decide)
    simp only [TemplatePackage.isComplete, Bool.and_eq_true]
    exact ⟨⟨⟨hdir, hmeta⟩, hdoc⟩, hpre⟩
  | false =>
    have hpre : fs.leadsToFile ((layout.packageDir name).join ⟨Package.previewName⟩) = false :=
      leadsToFile_join_none hl (by decide) (h.noPreview rfl)
    simp only [TemplatePackage.isComplete, Bool.and_eq_false_iff]
    exact Or.inr hpre

/-- **What happens at the place of another name leaves the place as it is.** -/
theorem Kept.of_framed (h : Kept fs layout dir name built) {other : Name} (hne : other ≠ name)
    (hh : Hosts fs (Below (dir ++ [Package.dirName other])) layout.root dir)
    (hf : Framed (dir ++ [Package.dirName other]) fs fs') : Kept fs' layout dir name built := by
  have hsame := hf.sameOutside rfl h.leads.isDirectory
  have hkeep : ∀ ns, fs'.at? (dir ++ [Package.dirName name] ++ ns) =
      fs.at? (dir ++ [Package.dirName name] ++ ns) := fun ns =>
    hsame.entry _ fun hb => hne (Package.dirName_injective (eq_of_below hb (List.prefix_append _ _)))
  have hself := hkeep []
  rw [List.append_nil] at hself
  refine ⟨hh.steady h.leads fs' hsame, h.ordinary, h.check, ?_, fun hb => ?_, fun hb => ?_⟩
  · rw [hself, h.directory]
  · obtain ⟨hcheck, hsource, hfile⟩ := h.holds hb
    refine ⟨hcheck, by rw [hkeep, hsource], fun n hn => ?_⟩
    rw [hkeep]
    exact hfile n hn
  · rw [hkeep, h.noPreview hb]

end Kept

section Generate

variable {σ : Type} {tools : Toolchain σ} {r : Rehearsal} (ht : tools.Rehearses r)
  {layout : Layout} {options : PackageOptions} {folder : TemplateFolder} {w w' : World σ}
  {dir : Location} {name : Name}

include ht

/-- A package that is built is kept. -/
theorem kept_of_generate_ok (hb : folder.Builds name)
    (hh : Hosts w.files (Below (dir ++ [Package.dirName name])) layout.root dir)
    {package : TemplatePackage} (h : generate tools layout options folder w = .ok package w') :
    package = Package.report name (layout.package name options.entryPoint) ∧
      Kept w'.files layout dir name true := by
  obtain ⟨hreport, fs₁, fs₂, hp, -, -, -, hg, hfilled⟩ := generate_ok_filled ht hb hh h
  refine ⟨hreport, hp.leads.mono hg.keepsWays, hb.isOrdinary, hp.check,
    hg.directory _ hp.directory, fun _ => ⟨hfilled.check, hfilled.directory, ?_⟩, nofun⟩
  obtain ⟨_, content, executable, -, hmeta⟩ := hfilled.metadata
  obtain ⟨text, -, hdoc⟩ := hfilled.document
  simp only [List.forall_mem_cons, List.not_mem_nil, false_implies, implies_true, and_true]
  exact ⟨⟨_, _, hmeta⟩, ⟨_, _, hdoc⟩, ⟨_, _, hfilled.preview⟩⟩

/-- A place where a package was built once is kept when a folder of the same name fails. -/
theorem kept_of_generate_error (hb : folder.Builds name)
    (hh : Hosts w.files (Below (dir ++ [Package.dirName name])) layout.root dir) {built : Bool}
    (hk : Kept w.files layout dir name built) {e : PackageError}
    (h : generate tools layout options folder w = .error e w') :
    Kept w'.files layout dir name false := by
  have hframed : Framed (dir ++ [Package.dirName name]) w.files
      (Disk.left (generate tools layout options folder w)).files := generate_framed ht hb hh
  rw [h] at hframed
  have hsame := hframed.sameOutside rfl hk.leads.isDirectory
  obtain ⟨hdir, hnone⟩ := generate_error_noPreview ht hb hh hk.leads hk.check h
  exact ⟨hh.steady hk.leads _ hsame, hk.ordinary, hk.check, hdir, nofun, fun _ => hnone⟩

/-- A folder of another name, or of none, leaves the place as it is. -/
theorem Kept.of_generate {built : Bool} (hk : Kept w.files layout dir name built)
    (hne : folder.name? ≠ some name)
    (hh : ∀ other, folder.Builds other →
      Hosts w.files (Below (dir ++ [Package.dirName other])) layout.root dir) :
    Kept (Disk.left (generate tools layout options folder w)).files layout dir name built := by
  by_cases hb : ∃ other, folder.Builds other
  · obtain ⟨other, hb⟩ := hb
    refine hk.of_framed (fun heq => hne ?_) (hh other hb) (generate_framed ht hb (hh other hb))
    rw [hb.1, heq]
  · rw [generate_refused hb]
    exact hk

end Generate

/-! ## 3. Courses -/

/-- The folders that a run took, with what came of each, in the order of the run. -/
abbrev Course := List (TemplateFolder × Except PackageError TemplatePackage)

namespace Course

/-- The packages that were built. -/
def generated (c : Course) : List TemplatePackage :=
  c.filterMap fun x => x.2.toOption

/-- The folders whose package was not built. -/
def failed (c : Course) : List FailedTemplate :=
  c.filterMap fun x =>
    match x.2 with
    | .ok _ => none
    | .error e => some ⟨x.1, e⟩

/-- Whether the last folder of a name was built. -/
def lastBuilt (c : Course) (name : Option Name) : Bool :=
  match (c.filter fun x => x.1.name? = name).getLast? with
  | some (_, .ok _) => true
  | _ => false

theorem lastBuilt_concat_self (c : Course) (folder : TemplateFolder)
    (o : Except PackageError TemplatePackage) :
    lastBuilt (c ++ [(folder, o)]) folder.name? = o.toBool := by
  cases o <;> simp [lastBuilt, Except.toBool]

theorem lastBuilt_concat_of_ne (c : Course) {folder : TemplateFolder} {name : Option Name}
    (h : folder.name? ≠ name) (o : Except PackageError TemplatePackage) :
    lastBuilt (c ++ [(folder, o)]) name = lastBuilt c name := by
  simp [lastBuilt, List.filter_append, h]

/-- The report of a run. -/
structure Reports (c : Course) (report : PipelineReport) : Prop where
  generated : report.generated = c.generated
  failed : report.failed = c.failed

theorem Reports.nil : Reports [] {} :=
  ⟨rfl, rfl⟩

theorem Reports.built {c : Course} {report : PipelineReport} (h : c.Reports report)
    (folder : TemplateFolder) (package : TemplatePackage) :
    Reports (c ++ [(folder, .ok package)])
      { report with generated := report.generated ++ [package] } :=
  ⟨by simp [Course.generated, h.generated, Except.toOption], by simp [Course.failed, h.failed]⟩

theorem Reports.notBuilt {c : Course} {report : PipelineReport} (h : c.Reports report)
    (folder : TemplateFolder) (e : PackageError) :
    Reports (c ++ [(folder, .error e)])
      { report with failed := report.failed ++ [⟨folder, e⟩] } :=
  ⟨by simp [Course.generated, h.generated, Except.toOption], by simp [Course.failed, h.failed]⟩

end Course

section Attempts

variable {σ : Type}

/-- Builds one more folder and notes what came of it. -/
def attempt (tools : Toolchain σ) (layout : Layout) (state : Course × World σ)
    (x : PackageOptions × TemplateFolder) : Course × World σ :=
  match generate tools layout x.1 x.2 state.2 with
  | .ok package w => (state.1 ++ [(x.2, .ok package)], w)
  | .error e w => (state.1 ++ [(x.2, .error e)], w)

/-- Builds folders in turn, whatever comes of each. -/
def attempts (tools : Toolchain σ) (layout : Layout) (xs : List (PackageOptions × TemplateFolder))
    (w : World σ) : Course × World σ :=
  xs.foldl (attempt tools layout) ([], w)

variable (tools : Toolchain σ) (layout : Layout)

/-- What one more build adds to a course. -/
theorem attempt_eq (c : Course) (w : World σ) (x : PackageOptions × TemplateFolder) :
    attempt tools layout (c, w) x =
      (c ++ [(x.2, Disk.outcome (generate tools layout x.1 x.2 w))],
        Disk.left (generate tools layout x.1 x.2 w)) := by
  unfold attempt
  cases generate tools layout x.1 x.2 w <;> rfl

theorem attempts_concat (xs : List (PackageOptions × TemplateFolder))
    (x : PackageOptions × TemplateFolder) (w : World σ) :
    attempts tools layout (xs ++ [x]) w = attempt tools layout
      ((attempts tools layout xs w).1, (attempts tools layout xs w).2) x :=
  List.foldl_concat ..

/-- The course of some builds is that of their folders. -/
theorem map_fst_attempts (xs : List (PackageOptions × TemplateFolder)) (w : World σ) :
    (attempts tools layout xs w).1.map Prod.fst = xs.map Prod.snd := by
  induction xs using List.reverseRecOn with
  | nil => rfl
  | append_singleton xs x ih =>
    rw [attempts_concat, attempt_eq, List.map_append, List.map_append, ih]
    rfl

/-- A package that was built is the one of the folder's name. -/
theorem exists_of_mem_attempts {xs : List (PackageOptions × TemplateFolder)} {w : World σ}
    {folder : TemplateFolder} {package : TemplatePackage}
    (h : (folder, .ok package) ∈ (attempts tools layout xs w).1) :
    ∃ options name, (options, folder) ∈ xs ∧ folder.Builds name ∧
      package = Package.report name (layout.package name options.entryPoint) := by
  induction xs using List.reverseRecOn with
  | nil => cases h
  | append_singleton xs x ih =>
    rw [attempts_concat, attempt_eq] at h
    rcases List.mem_append.1 h with h | h
    · obtain ⟨options, name, hmem, hbuilds⟩ := ih h
      exact ⟨options, name, List.mem_append_left _ hmem, hbuilds⟩
    · obtain ⟨rfl, houtcome⟩ := Prod.mk.inj (List.mem_singleton.1 h)
      cases hg : generate tools layout x.1 x.2 (attempts tools layout xs w).2 with
      | error e w' =>
        rw [hg] at houtcome
        cases houtcome
      | ok _ w' =>
        rw [hg] at houtcome
        cases houtcome
        obtain ⟨name, _, hb, -, -, hpackage⟩ := generate_eq_ok hg
        exact ⟨x.1, name, List.mem_append_right _ (List.mem_singleton_self _), hb, hpackage⟩

end Attempts

/-- After a course every package that it built is kept. -/
structure Tracked (fs : FileSystem) (layout : Layout) (options : PackageOptions) (dir : Location)
    (region : Location → Prop) (c : Course) : Prop where
  hosts : Hosts fs region layout.root dir
  kept : ∀ folder package, (folder, .ok package) ∈ c → ∃ name, folder.Builds name ∧
    package = Package.report name (layout.package name options.entryPoint) ∧
    Kept fs layout dir name (c.lastBuilt (some name))

/-- The places of the packages of folders. -/
def PackagePlaces (folders : List TemplateFolder) (dir : Location) (loc : Location) : Prop :=
  ∃ folder ∈ folders, ∃ name, folder.Builds name ∧ Below (dir ++ [Package.dirName name]) loc

section Course

variable {σ ω : Type} {tools : Toolchain σ} {r : Rehearsal} (ht : tools.Rehearses r)
  {layout : Layout} {options : PackageOptions} {dir : Location} {region : Location → Prop}

include ht

theorem hosts_of_generate {folder : TemplateFolder} {w : World σ}
    (hh : Hosts w.files region layout.root dir)
    (hr : ∀ name, folder.Builds name → ∀ k, Below (dir ++ [Package.dirName name]) k → region k) :
    Hosts (Disk.left (generate tools layout options folder w)).files region layout.root dir := by
  by_cases hb : ∃ name, folder.Builds name
  · obtain ⟨name, hb⟩ := hb
    exact hh.of_framed (hr name hb) (generate_framed ht hb (hh.mono (hr name hb)))
  · rw [generate_refused hb]
    exact hh

/-- **Building one more folder keeps track of all packages.** -/
theorem Tracked.of_generate {c : Course} {folder : TemplateFolder} {w w' : World σ}
    (h : Tracked w.files layout options dir region c)
    (hr : ∀ name, folder.Builds name → ∀ k, Below (dir ++ [Package.dirName name]) k → region k)
    {o : Except PackageError TemplatePackage}
    (hg : generate tools layout options folder w =
      match o with
      | .ok package => .ok package w'
      | .error e => .error e w') :
    Tracked w'.files layout options dir region (c ++ [(folder, o)]) := by
  have hleft : Disk.left (generate tools layout options folder w) = w' := by
    rw [hg]
    cases o <;> rfl
  have hhosts : Hosts (Disk.left (generate tools layout options folder w)).files region
      layout.root dir := hosts_of_generate ht h.hosts hr
  rw [hleft] at hhosts
  refine ⟨hhosts, fun g package hmem => ?_⟩
  rw [List.mem_append, List.mem_singleton] at hmem
  rcases hmem with hmem | hnew
  · obtain ⟨name, hb, hreport, hk⟩ := h.kept g package hmem
    refine ⟨name, hb, hreport, ?_⟩
    by_cases hname : folder.name? = some name
    · have hb' : folder.Builds name := ⟨hname, hb.2⟩
      rw [← hname, Course.lastBuilt_concat_self]
      cases o with
      | ok p => exact (kept_of_generate_ok ht hb' (h.hosts.mono (hr name hb')) hg).2
      | error e => exact kept_of_generate_error ht hb' (h.hosts.mono (hr name hb')) hk hg
    · rw [Course.lastBuilt_concat_of_ne c hname, ← hleft]
      exact hk.of_generate ht hname fun other hb => h.hosts.mono (hr other hb)
  · cases hnew
    obtain ⟨name, _, hb, -⟩ := generate_eq_ok hg
    obtain ⟨hreport, hk⟩ := kept_of_generate_ok ht hb (h.hosts.mono (hr name hb)) hg
    refine ⟨name, hb, hreport, ?_⟩
    rw [← hb.1, Course.lastBuilt_concat_self]
    exact hk

omit ht in
/-- Writing leaves the world as it is. -/
theorem world_of_inOutput (act : EStateM IoError (Output ω) Unit) (run : Run σ ω) :
    (Disk.left (Pipeline.inOutput act run)).world = run.world := by
  unfold Pipeline.inOutput
  split <;> rfl

omit ht in
/-- A folder that a run gets past was built, or the run keeps going and its failure is reported. -/
theorem buildOne_eq_ok {writer : Writer ω} {keepGoing : Bool} {folder : TemplateFolder}
    {report report' : PipelineReport} {run run' : Run σ ω}
    (h : Pipeline.buildOne tools writer layout options keepGoing folder report run =
      .ok report' run') :
    (∃ package, generate tools layout options folder run.world = .ok package run'.world ∧
        report' = { report with generated := report.generated ++ [package] }) ∨
      ∃ e, generate tools layout options folder run.world = .error e run'.world ∧
        report' = { report with failed := report.failed ++ [⟨folder, e⟩] } ∧ keepGoing = true := by
  have hworld := world_of_inOutput (Pipeline.announce writer folder) run
  unfold Pipeline.buildOne at h
  split at h
  · cases h
  · rename_i run₁ hout
    rw [hout, Disk.left_ok] at hworld
    rw [hworld] at h
    split at h
    · rename_i package world hg
      cases h
      exact Or.inl ⟨package, hg, rfl⟩
    · rename_i e world hg
      split at h <;> cases h
      rename_i hkeep
      exact Or.inr ⟨e, hg, rfl, hkeep⟩

omit ht in
/-- A run that stops at a folder could not write its line, or could not build it and does not keep
    going. -/
theorem buildOne_eq_error {writer : Writer ω} {keepGoing : Bool} {folder : TemplateFolder}
    {report : PipelineReport} {run run' : Run σ ω} {e : PipelineError}
    (h : Pipeline.buildOne tools writer layout options keepGoing folder report run =
      .error e run') :
    (∃ e', e = .output e' ∧ run'.world = run.world) ∨
      ∃ e', generate tools layout options folder run.world = .error e' run'.world ∧
        e = .generate folder e' ∧ keepGoing = false := by
  have hworld := world_of_inOutput (Pipeline.announce writer folder) run
  unfold Pipeline.buildOne at h
  split at h
  · rename_i hout
    cases h
    rw [hout, Disk.left_error] at hworld
    unfold Pipeline.inOutput at hout
    split at hout <;> cases hout
    exact Or.inl ⟨_, rfl, hworld⟩
  · rename_i run₁ hout
    rw [hout, Disk.left_ok] at hworld
    rw [hworld] at h
    split at h
    · cases h
    · rename_i e' world hg
      split at h <;> cases h
      rename_i hkeep
      exact Or.inr ⟨e', hg, rfl, by simpa using hkeep⟩

omit ht in
/-- **A run that reaches its end made one attempt after the other**, and reports what came of them. -/
theorem buildOnto_attempts {writer : Writer ω} {keepGoing : Bool} {folders : List TemplateFolder}
    {report report' : PipelineReport} {run run' : Run σ ω} {c : Course} (hreport : c.Reports report)
    (h : Pipeline.buildOnto tools writer layout options keepGoing folders report run =
      .ok report' run') :
    let built := (folders.map fun folder => (options, folder)).foldl (attempt tools layout)
      (c, run.world)
    built.2 = run'.world ∧ built.1.Reports report' := by
  induction folders generalizing report run c with
  | nil =>
    cases h
    exact ⟨rfl, hreport⟩
  | cons folder rest ih =>
    unfold Pipeline.buildOnto at h
    split at h
    · cases h
    · rename_i report₁ run₁ hone
      simp only [List.map_cons, List.foldl_cons, attempt_eq]
      rcases buildOne_eq_ok hone with ⟨package, hg, rfl⟩ | ⟨e, hg, rfl, -⟩ <;>
        simp only [hg, Disk.outcome_ok, Disk.left_ok, Disk.outcome_error, Disk.left_error]
      · exact ih (hreport.built folder package) h
      · exact ih (hreport.notBuilt folder e) h

/-- One more attempt keeps track of all packages. -/
theorem Tracked.attempt {c : Course} {folder : TemplateFolder} {w : World σ}
    (h : Tracked w.files layout options dir region c)
    (hr : ∀ name, folder.Builds name → ∀ k, Below (dir ++ [Package.dirName name]) k → region k) :
    Tracked (attempt tools layout (c, w) (options, folder)).2.files layout options dir region
      (attempt tools layout (c, w) (options, folder)).1 := by
  rw [attempt_eq]
  cases hg : generate tools layout options folder w with
  | ok package w' => exact h.of_generate ht hr hg
  | error e w' => exact h.of_generate ht hr hg

/-- **Attempts keep track of all packages from folder to folder.** -/
theorem attempts_tracked {folders : List TemplateFolder} {w : World σ}
    (hh : Hosts w.files (PackagePlaces folders dir) layout.root dir) :
    let built := attempts tools layout (folders.map fun folder => (options, folder)) w
    Tracked built.2.files layout options dir (PackagePlaces folders dir) built.1 := by
  -- the region is that of all folders, those behind included
  suffices h : ∀ front : List TemplateFolder, (∀ folder ∈ front, folder ∈ folders) →
      let built := attempts tools layout (front.map fun folder => (options, folder)) w
      Tracked built.2.files layout options dir (PackagePlaces folders dir) built.1 from
    h folders fun _ => id
  intro front hfront
  induction front using List.reverseRecOn with
  | nil => exact ⟨hh, nofun⟩
  | append_singleton front folder ih =>
    rw [List.map_append, List.map_singleton, attempts_concat]
    have hbefore := ih fun g hg => hfront g (List.mem_append_left _ hg)
    have hmem : folder ∈ folders := hfront folder (by simp)
    exact hbefore.attempt ht fun name hb k hk => ⟨folder, hmem, name, hb, hk⟩

/-- **A reported package is complete at the end exactly if the last folder of its name was built.**
    What came of each folder is what its own attempt came to, in the world that the attempts before
    it left. The root leads to the directory of the packages whatever stands at their places, or it
    is straight. -/
theorem generateAll_isComplete_iff {writer : Writer ω} {keepGoing : Bool}
    {folders : List TemplateFolder} {run run' : Run σ ω} {report : PipelineReport}
    (hh : Hosts run.world.files (PackagePlaces folders dir) layout.root dir)
    (h : generateAll tools writer layout options keepGoing folders run = .ok report run') :
    let built := attempts tools layout (folders.map fun folder => (options, folder)) run.world
    built.1.map Prod.fst = folders ∧ built.2 = run'.world ∧ built.1.Reports report ∧
      ∀ folder package, (folder, .ok package) ∈ built.1 →
        package.isComplete run'.world.files = built.1.lastBuilt folder.name? := by
  intro built
  obtain ⟨hworld, hreports⟩ : built.2 = run'.world ∧ built.1.Reports report :=
    buildOnto_attempts Course.Reports.nil h
  refine ⟨by simp [built, map_fst_attempts, Function.comp_def], hworld, hreports,
    fun folder package hmem => ?_⟩
  have htracked : Tracked built.2.files layout options dir (PackagePlaces folders dir) built.1 :=
    attempts_tracked ht hh
  obtain ⟨name, hb, rfl, hk⟩ := htracked.kept folder package hmem
  rw [← hworld, hk.isComplete_iff, hb.1]

end Course

/-! ## 4. Runs that lose a package -/

/-- Two folders of one name, of which the second does not compile. -/
def namesakes : FileSystem :=
  .written [("T", .directory), ("T/Empty.sr", .directory),
    ("T/Empty.sr/Serifian.plist", .file (Text.Utf8.bytes "m") false),
    ("a", .directory), ("a/x", .directory),
    ("a/x/main.typ", .file (Text.Utf8.bytes "one") false),
    ("b", .directory), ("b/x", .directory),
    ("b/x/main.typ", .file (Text.Utf8.bytes "// fail-compile") false)]

/-- A package's place with a link that leads back to the root, and folders of two names. -/
def passage : FileSystem :=
  .written [("T", .directory), ("T/Empty.sr", .directory),
    ("T/Empty.sr/Serifian.plist", .file (Text.Utf8.bytes "m") false),
    ("T/b.sr", .link (.ofString ".")),
    ("s", .directory), ("s/a", .directory),
    ("s/a/main.typ", .file (Text.Utf8.bytes "one") false),
    ("s/b", .directory), ("s/b/main.typ", .file (Text.Utf8.bytes "two") false)]

/-- A run that rehearses, keeps going and writes its lines to an accepting stream. -/
def rehearsed (fs : FileSystem) (root : String) (folders : List String) :
    EStateM.Result PipelineError (Run (Counted (List ToolCall)) Unit) PipelineReport :=
  generateAll ((Rehearsal.toolchain {}).withFaults []) Writer.accepting ⟨.ofString root⟩ {} true
    (folders.map fun folder => ⟨.ofString folder⟩) ⟨⟨fs, ⟨[], []⟩⟩, ⟨(), []⟩⟩

theorem generateAll_isComplete_iff_namesakes :
    let tools := (Rehearsal.toolchain {}).withFaults []
    let folders : List TemplateFolder := [⟨.ofString "a/x"⟩, ⟨.ofString "b/x"⟩]
    let built := attempts tools ⟨.ofString "T"⟩ (folders.map fun folder => ({}, folder))
      ⟨namesakes, ⟨[], []⟩⟩
    ∃ report run', rehearsed namesakes "T" ["a/x", "b/x"] = .ok report run' ∧
      built.1.map Prod.fst = folders ∧ built.2 = run'.world ∧ built.1.Reports report ∧
        ∀ folder package, (folder, .ok package) ∈ built.1 →
          package.isComplete run'.world.files = built.1.lastBuilt folder.name? := by
  intro tools folders built
  obtain ⟨report, run', h, -⟩ : ∃ report run',
      rehearsed namesakes "T" ["a/x", "b/x"] = .ok report run' ∧ true = true :=
    Disk.succeeds_iff.1 (by decide +kernel)
  have hstraight : namesakes.Straight (.ofString "T") := by decide +kernel
  have hrun : generateAll tools Writer.accepting ⟨.ofString "T"⟩ {} true folders
      ⟨⟨namesakes, ⟨[], []⟩⟩, ⟨(), []⟩⟩ = .ok report run' := h
  have ht : tools.Rehearses {} := rehearses_withFaults (rehearses_toolchain {}) []
  have hall := generateAll_isComplete_iff ht (Or.inr ⟨hstraight, rfl⟩) hrun
  exact ⟨report, run', h, hall⟩

/-- **A package that a run reports may be incomplete when the run ends.** A later folder of the same
    name failed, or a later folder took the place through which the root leads. -/
theorem generateAll_loses_packages :
    (∃ report run', rehearsed namesakes "T" ["a/x", "b/x"] = .ok report run' ∧
      ∃ package ∈ report.generated, package.isComplete run'.world.files = false) ∧
    ∃ report run', rehearsed passage "T/b.sr" ["s/a", "s/b"] = .ok report run' ∧
      ∃ package ∈ report.generated, package.isComplete run'.world.files = false := by
  have hlost : ∀ x : EStateM.Result PipelineError (Run (Counted (List ToolCall)) Unit)
        PipelineReport,
      Disk.succeeds (fun report run' =>
        report.generated.any fun package => !package.isComplete run'.world.files) x = true →
      ∃ report run', x = .ok report run' ∧
        ∃ package ∈ report.generated, package.isComplete run'.world.files = false := by
    intro x hx
    obtain ⟨report, run', heq, hany⟩ := Disk.succeeds_iff.1 hx
    obtain ⟨package, hmem, hnot⟩ := List.any_eq_true.1 hany
    exact ⟨report, run', heq, package, hmem, by simpa using hnot⟩
  exact ⟨hlost _ (by decide +kernel), hlost _ (by decide +kernel)⟩

end TemplatePress
