import TemplatePress.Proofs.CallOrder
import TemplatePress.Proofs.Discovery
import TemplatePress.Proofs.Separation

/-!
# Where templates come from and where packages go

Nothing checks the entry document's name of a configuration: it may be empty, absolute, or lead out
of a directory. It only ever is joined to a path because a search has found an entry of that name.
This file fixes:

* `Layout.Houses`: a folder stands below the directory of all clones, and its package beside that
  directory, so neither lies inside the other; the document that is compiled stands in the package.
  Ordinary names make such folders (`exists_houses_under`), and a search finds only such
  (`exists_houses_of_discover`);
* `BuildAttempt.IsHoused`: what is asked for such a folder, and what comes of it
  (`isHoused_of_isInOrder`);
* `runPipeline_houses`: what a run builds, under every configuration.
-/

namespace TemplatePress

open FileSystem

/-! ## 1. Folders below the clones -/

/-- A folder of a name stands below the directory of all clones, and its package beside that
    directory. -/
structure Layout.Houses (l : Layout) (entryPoint : String) (folder : TemplateFolder) (name : Name) :
    Prop where
  below : ∃ ns : List Name, (∀ n ∈ ns, Name.isOrdinary n = true) ∧
    folder.path.components = l.reposDir.components ++ ns.map .normal
  named : folder.name? = some name
  ordinary : Name.isOrdinary name = true
  place : (l.package name entryPoint).dir.components =
    l.root.components ++ [.normal (name ++ Text.Utf8.bytes ".sr")]
  /-- Neither lies inside the other. -/
  apart : folder.path.Disjoint (l.package name entryPoint).dir
  /-- The document stands directly in the package's copy of the source. -/
  document : (l.package name entryPoint).entryDocument.components =
    (l.package name entryPoint).typst.components ++ [.normal (Text.Utf8.bytes entryPoint)]

namespace Layout

variable {l : Layout} {entryPoint : String}

/-- **Ordinary names below the clones make a folder that is housed**, if the entry document has an
    ordinary name. -/
theorem exists_houses_under {ns : List Name} (hns : ∀ n ∈ ns, Name.isOrdinary n = true)
    (hentry : Name.isOrdinary (Text.Utf8.bytes entryPoint) = true) :
    ∃ name, l.Houses entryPoint ⟨l.reposDir.under ns⟩ name := by
  have hrepos : Name.isOrdinary reposName = true := by decide
  have hway : ∀ n ∈ reposName :: ns, Name.isOrdinary n = true :=
    List.forall_mem_cons.2 ⟨hrepos, hns⟩
  obtain ⟨name, hmem, hname⟩ := Path.exists_fileName_under l.root hway (List.cons_ne_nil _ _)
  have hordinary := hway name hmem
  have hdir := Package.isOrdinary_dirName hordinary
  refine ⟨name, ⟨ns, hns, Path.components_under _ hns⟩, hname, hordinary,
    Path.components_join_name l.root hdir, ?_, Path.components_join_name _ hentry⟩
  -- the folder lies inside the directory of all clones, and there no package stands
  have hinside : l.reposDir.components <+: (l.reposDir.under ns).components :=
    ⟨_, (Path.components_under _ hns).symm⟩
  exact ((packageDir_disjoint_reposDir hordinary).of_inside hinside).symm

/-- **What a search finds is housed**, whatever the name of the entry document is said to be. -/
theorem exists_houses_of_discover {fs : FileSystem} {folders : List TemplateFolder}
    (h : discover fs l.reposDir entryPoint = .ok folders) {folder : TemplateFolder}
    (hmem : folder ∈ folders) : ∃ name, l.Houses entryPoint folder name := by
  obtain ⟨ns, hns, rfl, entries, hread, e, hentry, -⟩ := Discovery.visitLevels_sound h hmem
  obtain ⟨loc, -, rfl⟩ := readDirectory_eq_ok hread
  exact exists_houses_under hns (isOrdinary_of_mem_children hentry)

end Layout

/-! ## 2. Attempts -/

/-- What is asked for a folder that is housed are calls of its plan, and what comes of it is its
    package or an error other than that the folder has no name. -/
structure BuildAttempt.IsHoused {σ : Type} (layout : Layout) (options : PackageOptions)
    (a : BuildAttempt σ) (name : Name) : Prop where
  houses : layout.Houses options.entryPoint a.subject name
  planned : ∀ c ∈ a.calls,
    ∃ planned ∈ (layout.package name options.entryPoint).plan options a.subject.path,
      c.call = planned.call
  reported : ∀ package, a.outcome = .ok package →
    package = Package.report name (layout.package name options.entryPoint)
  named : ∀ path, a.outcome ≠ .error (.unnamedFolder path)

section Attempts

variable {σ : Type} {tools : Toolchain σ} {layout : Layout} {options : PackageOptions}

/-- The package of a folder does not fail for want of a name. -/
theorem ne_unnamedFolder_of_inOrder {paths : PackagePaths} {folder : Path} {begun : World σ}
    {answer : TemplatePackage} {calls : List AnsweredCall} {e : PackageError}
    (h : InOrder (paths.plan options folder) (paths.Hinders tools layout folder begun) answer calls
      (.error e))
    (path : Path) : e ≠ .unnamedFolder path := by
  rcases h.error_cases with ⟨planned, hplanned, cause, rfl⟩ | ⟨made, hhinders⟩
  · simp only [PackagePaths.plan, List.mem_cons, List.not_mem_nil, or_false] at hplanned
    rcases hplanned with rfl | rfl | rfl <;> nofun
  · rcases hhinders with ⟨-, source, fs, -, rfl⟩ | ⟨fs, -, -, copied, source, -, -, rfl⟩ <;> nofun

/-- **Calls in order for a folder that is housed** are calls of its plan, and what comes of them is
    its package or an error other than that the folder has no name. -/
theorem BuildInOrder.of_houses {folder : TemplateFolder} {begun : World σ}
    {calls : List AnsweredCall} {outcome : Except PackageError TemplatePackage}
    (h : BuildInOrder tools layout options folder begun calls outcome) {name : Name}
    (hhouses : layout.Houses options.entryPoint folder name) :
    (∀ c ∈ calls, ∃ planned ∈ (layout.package name options.entryPoint).plan options folder.path,
        c.call = planned.call) ∧
      (∀ package, outcome = .ok package →
        package = Package.report name (layout.package name options.entryPoint)) ∧
      ∀ path, outcome ≠ .error (.unnamedFolder path) := by
  cases h with
  | unnamed hnone => cases hnone.symm.trans hhouses.named
  | reserved hreserved => exact ⟨nofun, nofun, nofun⟩
  | planned hb h =>
    obtain rfl := Option.some.inj (hb.1.symm.trans hhouses.named)
    refine ⟨fun c hc => h.exists_planned hc, ?_, ?_⟩
    · rintro package rfl
      cases h
      rfl
    · rintro path rfl
      exact ne_unnamedFolder_of_inOrder h path rfl

theorem isHoused_of_isInOrder {a : BuildAttempt σ}
    (h : BuildAttempt.IsInOrder tools layout options a) {name : Name}
    (hhouses : layout.Houses options.entryPoint a.subject name) :
    BuildAttempt.IsHoused layout options a name := by
  obtain ⟨hplanned, hreported, hnamed⟩ := BuildInOrder.of_houses h hhouses
  exact ⟨hhouses, hplanned, hreported, hnamed⟩

theorem Course.exists_of_mem_generated {c : Course} {package : TemplatePackage}
    (h : package ∈ c.generated) : ∃ folder, (folder, .ok package) ∈ c := by
  obtain ⟨⟨folder, outcome⟩, hmem, hok⟩ := List.mem_filterMap.1 h
  cases outcome with
  | ok _ =>
    cases hok
    exact ⟨folder, hmem⟩
  | error e => cases hok

theorem Course.mem_of_mem_failed {c : Course} {failed : FailedTemplate} (h : failed ∈ c.failed) :
    (failed.folder, .error failed.error) ∈ c := by
  obtain ⟨⟨folder, outcome⟩, hmem, herror⟩ := List.mem_filterMap.1 h
  cases outcome with
  | ok _ => cases herror
  | error e =>
    cases herror
    exact hmem

/-- Only folders that were found are attempted. -/
theorem BuildsEnd.subject_mem {folders : List TemplateFolder} {keepGoing : Bool} {before : Course}
    {builds : List (BuildAttempt σ)} {outcome : Except PipelineError PipelineReport}
    (h : BuildsEnd folders keepGoing before builds outcome) {a : BuildAttempt σ} (ha : a ∈ builds) :
    a.subject ∈ folders := by
  have hmem : a.subject ∈ builds.map (·.subject) := List.mem_map_of_mem ha
  match outcome, h with
  | .ok _, h => exact h.1 ▸ hmem
  | .error (.generate _ _), h => exact h.1.subset hmem
  | .error (.output _), ⟨⟨_, hprefix⟩, _⟩ => exact hprefix.subset (List.mem_append_left _ hmem)

end Attempts

/-! ## 3. Runs -/

section Runs

variable {σ ω : Type} (tools : Toolchain σ) (writer : Writer ω) (config : Config)

/-- **Behind fetching, a run is made of attempts at folders that are housed**, and what it reports
    is what came of them. -/
theorem runPipeline_attempts (run : Run (Logged σ) ω) :
    let layout : Layout := ⟨config.templatesRoot⟩
    let fetched := Disk.left
      (fetchAll tools.logged layout config.host config.repositories run.world)
    let ended := runPipeline tools.logged writer config run
    ∃ builds : List (BuildAttempt σ),
      (Disk.left ended).world.tools.log = fetched.tools.log ++ Attempt.log builds ∧
        (∀ a ∈ builds, ∃ name, BuildAttempt.IsHoused layout config.packageOptions a name) ∧
        (∀ folder e, Disk.outcome ended = .error (.generate folder e) →
          ∃ a ∈ builds, a.subject = folder ∧ a.outcome = .error e) ∧
        ∀ report, Disk.outcome ended = .ok report →
          (BuildAttempt.course builds).Reports report := by
  intro layout fetched ended
  simp only [ended, fetched, runPipeline_eq]
  cases fetchAll tools.logged layout config.host config.repositories run.world with
  | error e world => exact ⟨[], by simp [Attempt.log], nofun, by simp, by simp⟩
  | ok _ world =>
    simp only [buildFound, Disk.left_ok]
    cases hfound : discover world.files layout.reposDir config.entryPoint with
    | error e => exact ⟨[], by simp [Attempt.log], nofun, by simp, by simp⟩
    | ok folders =>
      obtain ⟨builds, hchain, hend⟩ := buildOnto_inOrder tools writer layout
        config.packageOptions config.keepGoing folders Course.Reports.nil { run with world }
      refine ⟨builds, hchain.log_eq, fun a ha => ?_, fun folder e hout => ?_, fun report hout => ?_⟩
      · obtain ⟨name, hhouses⟩ := Layout.exists_houses_of_discover hfound (hend.subject_mem ha)
        exact ⟨name, isHoused_of_isInOrder (BuildAttempt.isInOrder (hchain.isOf a ha)) hhouses⟩
      · simp only [generateAll] at hout
        rw [hout] at hend
        obtain ⟨-, ⟨front, last, rfl, hsubject, houtcome, -⟩, -⟩ := hend
        exact ⟨last, List.mem_append_right _ List.mem_cons_self, hsubject, houtcome⟩
      · simp only [generateAll] at hout
        rw [hout] at hend
        exact hend.2.1

/-- **Every folder that a run builds stands below `<root>/repos` by ordinary names**, whatever root
    and entry document the configuration names. So its package stands beside that directory, neither
    lies inside the other, and the document that is compiled stands in the package. No run reports
    that a folder has no name. -/
theorem runPipeline_houses (run : Run (Logged σ) ω) :
    let layout : Layout := ⟨config.templatesRoot⟩
    let fetched := Disk.left
      (fetchAll tools.logged layout config.host config.repositories run.world)
    let ended := runPipeline tools.logged writer config run
    layout.reposDir.components =
        layout.root.components ++ [.normal (Text.Utf8.bytes "repos")] ∧
      (∀ folders, discover fetched.files layout.reposDir config.entryPoint = .ok folders →
        ∀ folder ∈ folders, ∃ name, layout.Houses config.entryPoint folder name) ∧
      (∃ made, (Disk.left ended).world.tools.log = fetched.tools.log ++ made ∧
        ∀ c ∈ made, ∃ folder name, layout.Houses config.entryPoint folder name ∧
          ∃ planned ∈
            (layout.package name config.entryPoint).plan config.packageOptions folder.path,
            c.call = planned.call) ∧
      (∀ folder e, Disk.outcome ended = .error (.generate folder e) →
        (∃ name, layout.Houses config.entryPoint folder name) ∧ ∀ path, e ≠ .unnamedFolder path) ∧
      ∀ report, Disk.outcome ended = .ok report →
        (∀ failed ∈ report.failed,
          (∃ name, layout.Houses config.entryPoint failed.folder name) ∧
            ∀ path, failed.error ≠ .unnamedFolder path) ∧
          ∀ package ∈ report.generated, ∃ folder name,
            layout.Houses config.entryPoint folder name ∧
              package = Package.report name (layout.package name config.entryPoint) := by
  intro layout fetched ended
  obtain ⟨builds, hlog, hhoused, hfailed, hreport⟩ := runPipeline_attempts tools writer config run
  refine ⟨Path.components_join_name layout.root (by decide),
    fun folders h folder => Layout.exists_houses_of_discover h, ⟨_, hlog, fun c hc => ?_⟩, ?_, ?_⟩
  · obtain ⟨a, ha, hc⟩ := List.mem_flatMap.1 hc
    obtain ⟨name, ha⟩ := hhoused a ha
    exact ⟨a.subject, name, ha.houses, ha.planned c hc⟩
  · intro folder e hout
    obtain ⟨a, ha, rfl, houtcome⟩ := hfailed folder e hout
    obtain ⟨name, ha⟩ := hhoused a ha
    exact ⟨⟨name, ha.houses⟩, fun path heq => ha.named path (heq ▸ houtcome)⟩
  · intro report hout
    have hreports := hreport report hout
    refine ⟨fun failed hmem => ?_, fun package hmem => ?_⟩
    · rw [hreports.failed] at hmem
      obtain ⟨a, ha, heq⟩ := List.mem_map.1 (Course.mem_of_mem_failed hmem)
      obtain ⟨hsubject, houtcome⟩ := Prod.mk.inj heq
      obtain ⟨name, ha⟩ := hhoused a ha
      exact ⟨⟨name, hsubject ▸ ha.houses⟩, fun path hpath => ha.named path (hpath ▸ houtcome)⟩
    · rw [hreports.generated] at hmem
      obtain ⟨folder, hmem⟩ := Course.exists_of_mem_generated hmem
      obtain ⟨a, ha, heq⟩ := List.mem_map.1 hmem
      obtain ⟨rfl, houtcome⟩ := Prod.mk.inj heq
      obtain ⟨name, ha⟩ := hhoused a ha
      exact ⟨a.subject, name, ha.houses, ha.reported package houtcome⟩

end Runs

/-- One template, below a root whose spelling is not the shortest. -/
def shed : FileSystem :=
  .written [("T", .directory), ("T/repos", .directory), ("T/repos/x", .directory),
    ("T/repos/x/main.typ", .file (Text.Utf8.bytes "= X") false)]

theorem runPipeline_houses_shed :
    let config : Config := { templatesRoot := .ofString "./T//", repositories := [] }
    let layout : Layout := ⟨config.templatesRoot⟩
    let run : Run (Logged (List ToolCall)) Unit := ⟨⟨shed, [], []⟩, ⟨(), []⟩⟩
    let folder : TemplateFolder := ⟨.ofString "./T//repos/x"⟩
    discover shed layout.reposDir config.entryPoint = .ok [folder] ∧
      (∃ name, layout.Houses config.entryPoint folder name) ∧
      ∀ failed path,
        Disk.outcome (runPipeline (Rehearsal.toolchain {}).logged Writer.accepting config run) ≠
          .error (.generate failed (.unnamedFolder path)) := by
  intro config layout run folder
  have hrepos : shed.readDirectory layout.reposDir = .ok [(Text.Utf8.bytes "x", .directory)] := by
    decide +kernel
  have hfolder : shed.readDirectory folder.path =
      .ok [(Text.Utf8.bytes "main.typ", .file (Text.Utf8.bytes "= X") false)] := by decide +kernel
  have hjoin : layout.reposDir.join ⟨Text.Utf8.bytes "x"⟩ = folder.path := by decide +kernel
  have hvisit : ∀ depth, Discovery.visitLevels shed.readDirectory (Text.Utf8.bytes "main.typ")
      (depth + 2) layout.reposDir = .ok [folder] := by
    intro depth
    simp only [Discovery.visitLevels, hrepos, hfolder, Discovery.visitEntries,
      Discovery.visitEntry, List.mergeSort_singleton, hjoin, if_true, List.append_nil]
  have hfound : discover shed layout.reposDir config.entryPoint = .ok [folder] := hvisit 4094
  obtain ⟨-, hhoused, -, hstops, -⟩ :=
    runPipeline_houses (Rehearsal.toolchain {}) Writer.accepting config run
  exact ⟨hfound, hhoused [folder] hfound folder (List.mem_singleton_self _),
    fun failed path hout => (hstops failed _ hout).2 path rfl⟩

end TemplatePress
