import TemplatePress.Proofs.Announcements
import TemplatePress.Proofs.Repetition

/-!
# The listing and the run

The command that lists the template folders and the one that builds them compute the directory to
search, search it and write lines each in its own way. Where nothing is to be fetched, the listing
says what the run will write. This file fixes:

* `list_accepts`: the listing writes one line for each folder, which are all that the command writes
  (`accepted_of_listing`);
* `generateAll_announced`: what a run writes are the lines of the folders that it comes to, all of
  them if it keeps going, and otherwise up to the first folder that fails;
* `runProgram_listing`: both commands, from the same files and settings.
-/

namespace TemplatePress

/-! ## 1. What a listing writes -/

section Listing

variable {σ ω : Type} {writer : Writer ω}

/-- **A listing writes one line for each folder**, and touches nothing else. -/
theorem list_accepts (hw : writer.Accepts) (folders : List TemplateFolder) (run : Run σ ω) :
    ∃ s, Request.list writer folders run = .ok () { run with
      output := ⟨s, run.output.accepted ++ folders.flatMap TemplateFolder.line⟩ } := by
  induction folders generalizing run with
  | nil => exact ⟨run.output.state, by simp [Request.list, pure, EStateM.pure]⟩
  | cons folder rest ih =>
    obtain ⟨s, hs⟩ := writePieces_accepts hw (Pipeline.linePieces folder) run.output
    rw [flatten_linePieces] at hs
    obtain ⟨s', hs'⟩ := ih { run with output := ⟨s, run.output.accepted ++ folder.line⟩ }
    refine ⟨s', ?_⟩
    simp only [Request.list, hs, hs', List.flatMap_cons, List.append_assoc]

/-- What the program leaves is what the request leaves. -/
theorem runProgram_left {toolchain : ToolsConfig → Toolchain σ} {env : Environment}
    {arguments : List Bytes} {request : Request}
    (hrequest : Request.ofArguments arguments = .ok request) (run : Run σ ω) :
    (runProgram toolchain writer env arguments run).2 =
      Disk.left (request.perform toolchain writer env run) := by
  simp only [runProgram, hrequest]
  cases request.perform toolchain writer env run <;> rfl

end Listing

/-! ## 2. What a run writes -/

/-- How a run ends that wrote the lines of the folders in `front` and not of those in `back`. -/
inductive Announced {σ ω : Type} (keepGoing : Bool) (front back : List TemplateFolder) :
    EStateM.Result PipelineError (Run σ ω) PipelineReport → Prop where
  /-- It came to all folders. -/
  | all (report : PipelineReport) (run' : Run σ ω) :
      back = [] → Announced keepGoing front back (.ok report run')
  /-- It stopped, as the package of the last folder in `front` could not be built. -/
  | upTo {folder : TemplateFolder} (e : PackageError) (run' : Run σ ω) :
      keepGoing = false → front.getLast? = some folder →
      Announced keepGoing front back (.error (.generate folder e) run')

/-- **A run writes the lines of the folders that it comes to.** -/
theorem generateAll_announced {σ ω : Type} (tools : Toolchain σ) {writer : Writer ω}
    (hw : writer.Accepts) (layout : Layout) (options : PackageOptions) (keepGoing : Bool)
    (folders : List TemplateFolder) (run : Run σ ω) :
    let ended := generateAll tools writer layout options keepGoing folders run
    ∃ front back, folders = front ++ back ∧ Announced keepGoing front back ended ∧
      (Disk.left ended).output.accepted =
        run.output.accepted ++ front.flatMap TemplateFolder.line := by
  obtain ⟨report, run', hkeep, hout, -⟩ :=
    buildOnto_keepGoing tools hw layout options folders {} run
  cases keepGoing with
  | true =>
    simp only [generateAll, hkeep]
    exact ⟨folders, [], by simp, .all _ _ rfl, hout⟩
  | false =>
    rcases buildOnto_stops hw hkeep with ⟨-, hstop⟩ |
      ⟨front, folder, e, back, report₁, run₁, rfl, hstop, hfront, -, -⟩
    · simp only [generateAll, hstop]
      exact ⟨folders, [], by simp, .all _ _ rfl, hout⟩
    · simp only [generateAll, hstop]
      exact ⟨front ++ [folder], back, by simp, .upTo _ _ rfl (by simp),
        accepted_of_buildOnto hfront⟩

/-! ## 3. Both commands -/

section Commands

variable {σ ω : Type} {toolchain : ToolsConfig → Toolchain σ} {writer : Writer ω}
  {env : Environment} {request : Request} {config : Config} {run : Run σ ω}
  (hconfig : resolveConfig run.world.files env request.config = .ok config)

include hconfig

/-- The listing searches the directory of the clones. -/
theorem perform_listing (htask : request.task = .discover none) :
    request.perform toolchain writer env run =
      match discover run.world.files (Layout.mk config.templatesRoot).reposDir config.entryPoint with
      | .error e => .error (.discovery e) run
      | .ok folders => Request.list writer folders run := by
  have hsettings : request.settings run.world.files env = .ok (request.withSettings config) := by
    rw [settings_eq, hconfig]
    rfl
  simp only [Request.perform, hsettings, htask]
  rfl

/-- What the listing writes are the lines of the folders that the search finds. -/
theorem accepted_of_listing (hw : writer.Accepts) {arguments : List Bytes}
    (hrequest : Request.ofArguments arguments = .ok request) (htask : request.task = .discover none)
    {folders : List TemplateFolder}
    (hfound : discover run.world.files (Layout.mk config.templatesRoot).reposDir config.entryPoint =
      .ok folders) :
    (runProgram toolchain writer env arguments run).2.output.accepted =
      run.output.accepted ++ folders.flatMap TemplateFolder.line := by
  obtain ⟨s, hlist⟩ := list_accepts hw folders run
  have hperform : request.perform toolchain writer env run = _ := perform_listing hconfig htask
  simp only [hfound, hlist] at hperform
  rw [runProgram_left hrequest, hperform, Disk.left_ok]

/-- A run without repositories begins with the same search. -/
theorem perform_building (htask : request.task = .generate) (hnone : config.repositories = []) :
    request.perform toolchain writer env run =
      match discover run.world.files (Layout.mk config.templatesRoot).reposDir config.entryPoint with
      | .error e => .error (.pipeline (.discovery e)) run
      | .ok folders =>
        match generateAll (toolchain config.tools) writer ⟨config.templatesRoot⟩
          config.packageOptions (config.keepGoing || request.keepGoing) folders run with
        | .error e run' => .error (.pipeline e) run'
        | .ok report run' =>
          if report.isSuccess then .ok () run'
          else .error (.incomplete report.failed.length report.total) run' := by
  have hsettings : request.settings run.world.files env = .ok (request.withSettings config) := by
    rw [settings_eq, hconfig]
    rfl
  have hpipeline : runPipeline (toolchain config.tools) writer (request.withSettings config) run =
      buildFound (toolchain config.tools) writer (request.withSettings config) run := by
    have hfetched : (request.withSettings config).repositories = [] := hnone
    rw [runPipeline_eq, hfetched]
    rfl
  simp only [Request.perform, hsettings, htask, Request.generateAll]
  rw [show (request.withSettings config).tools = config.tools from rfl, hpipeline, buildFound]
  simp only [Request.withSettings]
  cases discover run.world.files (Layout.mk config.templatesRoot).reposDir config.entryPoint <;> rfl

end Commands

/-- **The listing says what the run will write.** Nothing is to be fetched, and everything that is
    written is taken. Then a run that keeps going writes the bytes that the listing writes, whatever
    the tools do to the files. Every run writes the lines of a first part of the folders that are
    listed; a part is left out only if the package of the last folder written could not be built.
    The search fails in one command exactly if it fails in the other, with the same error; then both
    end alike and nothing is written. -/
theorem runProgram_listing {σ ω : Type} (toolchain : ToolsConfig → Toolchain σ) {writer : Writer ω}
    (hw : writer.Accepts) (env : Environment) {listing building : List Bytes} {l b : Request}
    (hlisting : Request.ofArguments listing = .ok l) (hl : l.task = .discover none)
    (hbuilding : Request.ofArguments building = .ok b) (hb : b.task = .generate)
    {run : Run σ ω} {config : Config}
    (hlconfig : resolveConfig run.world.files env l.config = .ok config)
    (hbconfig : resolveConfig run.world.files env b.config = .ok config)
    (hnone : config.repositories = []) :
    let listed := runProgram toolchain writer env listing run
    let built := runProgram toolchain writer env building run
    (b.keepGoing = true ∨ config.keepGoing = true →
        built.2.output.accepted = listed.2.output.accepted) ∧
      (∃ front back : List TemplateFolder,
        listed.2.output.accepted =
          run.output.accepted ++ (front ++ back).flatMap TemplateFolder.line ∧
        built.2.output.accepted = run.output.accepted ++ front.flatMap TemplateFolder.line ∧
        (back ≠ [] → ∃ folder e, front.getLast? = some folder ∧
          b.perform toolchain writer env run = .error (.pipeline (.generate folder e)) built.2)) ∧
      (∀ e, Disk.outcome (l.perform toolchain writer env run) = .error (.discovery e) ↔
        Disk.outcome (b.perform toolchain writer env run) = .error (.pipeline (.discovery e))) ∧
      ∀ e, Disk.outcome (l.perform toolchain writer env run) = .error (.discovery e) →
        built = listed ∧ listed.2 = run := by
  intro listed built
  have hlistperform : l.perform toolchain writer env run = _ := perform_listing hlconfig hl
  have hbuildperform : b.perform toolchain writer env run = _ :=
    perform_building hbconfig hb hnone
  have hlisted : listed.2 = Disk.left (l.perform toolchain writer env run) :=
    runProgram_left hlisting run
  have hbuilt : built.2 = Disk.left (b.perform toolchain writer env run) :=
    runProgram_left hbuilding run
  cases hfound : discover run.world.files (Layout.mk config.templatesRoot).reposDir
    config.entryPoint with
  | error e =>
    simp only [hfound] at hlistperform hbuildperform
    have hsame : built = listed := by
      simp only [built, listed, runProgram, hlisting, hbuilding, hlistperform, hbuildperform]
      rfl
    rw [hlistperform, Disk.left_error] at hlisted
    rw [hsame, hlisted, hlistperform, hbuildperform]
    refine ⟨fun _ => rfl, ⟨[], [], by simp, by simp, by simp⟩, fun e' => ?_,
      fun _ _ => ⟨rfl, rfl⟩⟩
    simp
  | ok folders =>
    simp only [hfound] at hlistperform hbuildperform
    have hlines : listed.2.output.accepted =
        run.output.accepted ++ folders.flatMap TemplateFolder.line :=
      accepted_of_listing hlconfig hw hlisting hl hfound
    obtain ⟨s, hlist⟩ := list_accepts hw folders run
    rw [hlist] at hlistperform
    obtain ⟨front, back, rfl, hends, haccepted⟩ := generateAll_announced (toolchain config.tools) hw
      ⟨config.templatesRoot⟩ config.packageOptions (config.keepGoing || b.keepGoing) folders run
    rw [hlines, hlistperform, hbuilt, hbuildperform]
    generalize generateAll (toolchain config.tools) writer ⟨config.templatesRoot⟩
      config.packageOptions (config.keepGoing || b.keepGoing) (front ++ back) run = ended at *
    cases hends with
    | all report run' hback =>
      subst hback
      have hleft : Disk.left (if report.isSuccess then EStateM.Result.ok () run'
          else .error (RunError.incomplete report.failed.length report.total) run') = run' := by
        split <;> rfl
      refine ⟨fun _ => ?_, ⟨front, [], rfl, ?_, by simp⟩, fun e => ?_, by simp⟩
      · simp only [hleft, List.append_nil]
        exact haccepted
      · simp only [hleft]
        exact haccepted
      · simp only [Disk.outcome_ok, reduceCtorEq, false_iff]
        split <;> simp
    | @upTo folder e run' hstops hlast =>
      refine ⟨fun hkeep => ?_, ⟨front, back, rfl, haccepted, fun _ => ⟨folder, e, hlast, rfl⟩⟩,
        fun e' => by simp, by simp⟩
      rcases hkeep with h | h <;> simp [h] at hstops

/-- A run that does not keep going stops at a first folder with a reserved name, behind its line. -/
theorem generateAll_stops_at_reserved {σ ω : Type} (tools : Toolchain σ) {writer : Writer ω}
    (hw : writer.Accepts) (layout : Layout) (options : PackageOptions) {folder : TemplateFolder}
    (hname : folder.name? = some (Text.Utf8.bytes Layout.referencePackage))
    (rest : List TemplateFolder) (run : Run σ ω) :
    ∃ s, generateAll tools writer layout options false (folder :: rest) run =
      .error (.generate folder (.reservedName folder.path)) { run with
        output := ⟨s, run.output.accepted ++ folder.line⟩ } := by
  obtain ⟨s, hs⟩ := announce_accepts hw folder run.output
  refine ⟨s, ?_⟩
  simp only [generateAll, Pipeline.buildOnto, Pipeline.buildOne, Pipeline.inOutput, hs, generate,
    hname, if_true]
  rfl

/-- Two template folders, the first of them named like the reference package, and settings that name
    no repository. -/
def yard : FileSystem :=
  .written [("c.yaml", .file (Text.Utf8.bytes "repositories: []\n") false),
    ("Templates", .directory), ("Templates/repos", .directory), ("Templates/repos/Empty", .directory),
    ("Templates/repos/Empty/main.typ", .file [] false), ("Templates/repos/x", .directory),
    ("Templates/repos/x/main.typ", .file [] false)]

theorem discover_yard : discover yard (Layout.mk (.ofString "Templates")).reposDir "main.typ" =
    .ok [⟨.ofString "Templates/repos/Empty"⟩, ⟨.ofString "Templates/repos/x"⟩] := by
  let root : Path := (Layout.mk (.ofString "Templates")).reposDir
  have hrepos : yard.readDirectory root =
      .ok [(Text.Utf8.bytes "Empty", .directory), (Text.Utf8.bytes "x", .directory)] := by
    decide +kernel
  have hsorted : List.mergeSort [(Text.Utf8.bytes "Empty", Entry.directory),
      (Text.Utf8.bytes "x", .directory)] Discovery.byName = _ :=
    List.mergeSort_of_pairwise (by decide +kernel)
  have hfirst : yard.readDirectory (.ofString "Templates/repos/Empty") =
      .ok [(Text.Utf8.bytes "main.typ", .file [] false)] := by decide +kernel
  have hsecond : yard.readDirectory (.ofString "Templates/repos/x") =
      .ok [(Text.Utf8.bytes "main.typ", .file [] false)] := by decide +kernel
  have hjoin : root.join ⟨Text.Utf8.bytes "Empty"⟩ = .ofString "Templates/repos/Empty" := by
    decide +kernel
  have hjoin' : root.join ⟨Text.Utf8.bytes "x"⟩ = .ofString "Templates/repos/x" := by decide +kernel
  have hvisit : ∀ depth, Discovery.visitLevels yard.readDirectory (Text.Utf8.bytes "main.typ")
      (depth + 2) root =
        .ok [⟨.ofString "Templates/repos/Empty"⟩, ⟨.ofString "Templates/repos/x"⟩] := by
    intro depth
    simp only [Discovery.visitLevels, hrepos, hsorted, hfirst, hsecond, hjoin, hjoin',
      Discovery.visitEntries, Discovery.visitEntry, List.mergeSort_singleton, if_true,
      List.append_nil, List.singleton_append]
  exact hvisit 4094

set_option maxRecDepth 10000 in
theorem runProgram_listing_yard :
    let toolchain : ToolsConfig → Toolchain Unit := fun _ => Toolchain.idle
    let listing := ["discover", "--config", "c.yaml"].map Text.Utf8.bytes
    let building := ["--config", "c.yaml"].map Text.Utf8.bytes
    let keeping := ["--keep-going", "--config", "c.yaml"].map Text.Utf8.bytes
    let l : Request := ⟨some (.ofString "c.yaml"), false, .discover none⟩
    let b : Request := ⟨some (.ofString "c.yaml"), false, .generate⟩
    let k : Request := ⟨some (.ofString "c.yaml"), true, .generate⟩
    let run : Run Unit Unit := ⟨⟨yard, ()⟩, ⟨(), []⟩⟩
    let listed := runProgram toolchain .accepting {} listing run
    let built := runProgram toolchain .accepting {} building run
    let kept := runProgram toolchain .accepting {} keeping run
    (Request.ofArguments listing = .ok l ∧ Request.ofArguments building = .ok b ∧
      Request.ofArguments keeping = .ok k ∧
      resolveConfig yard {} (some (.ofString "c.yaml")) = .ok { repositories := [] }) ∧
    listed.2.output.accepted =
      Text.Utf8.bytes "Templates/repos/Empty/\nTemplates/repos/x/\n" ∧
    kept.2.output.accepted = listed.2.output.accepted ∧
    built.2.output.accepted = Text.Utf8.bytes "Templates/repos/Empty/\n" ∧
    (∃ front back : List TemplateFolder,
      listed.2.output.accepted = [] ++ (front ++ back).flatMap TemplateFolder.line ∧
      built.2.output.accepted = [] ++ front.flatMap TemplateFolder.line ∧
      (back ≠ [] → ∃ folder e, front.getLast? = some folder ∧
        b.perform toolchain .accepting {} run = .error (.pipeline (.generate folder e)) built.2)) ∧
    (∀ e, Disk.outcome (l.perform toolchain .accepting {} run) = .error (.discovery e) ↔
      Disk.outcome (b.perform toolchain .accepting {} run) = .error (.pipeline (.discovery e))) ∧
    ∀ e, Disk.outcome (l.perform toolchain .accepting {} run) = .error (.discovery e) →
      built = listed ∧ listed.2 = run := by
  intro toolchain listing building keeping l b k run listed built kept
  have hlisting : Request.ofArguments listing = .ok l := by decide +kernel
  have hbuilding : Request.ofArguments building = .ok b := by decide +kernel
  have hkeeping : Request.ofArguments keeping = .ok k := by decide +kernel
  have hconfig : resolveConfig yard {} (some (.ofString "c.yaml")) = .ok { repositories := [] } := by
    decide +kernel
  have hlconfig : resolveConfig run.world.files {} l.config = .ok { repositories := [] } := hconfig
  have hbconfig : resolveConfig run.world.files {} b.config = .ok { repositories := [] } := hconfig
  have hkconfig : resolveConfig run.world.files {} k.config = .ok { repositories := [] } := hconfig
  have hstops := runProgram_listing toolchain accepts_accepting {} hlisting rfl hbuilding rfl
    hlconfig hbconfig rfl
  have hkeeps := runProgram_listing toolchain accepts_accepting {} hlisting rfl hkeeping rfl
    hlconfig hkconfig rfl
  let first : TemplateFolder := ⟨.ofString "Templates/repos/Empty"⟩
  let second : TemplateFolder := ⟨.ofString "Templates/repos/x"⟩
  have hfound : discover run.world.files (Layout.mk (.ofString "Templates")).reposDir "main.typ" =
      .ok [first, second] := discover_yard
  have hlist : listed.2.output.accepted = [] ++ [first, second].flatMap TemplateFolder.line :=
    accepted_of_listing hlconfig accepts_accepting hlisting rfl hfound
  have hbuild : built.2.output.accepted = [] ++ first.line := by
    obtain ⟨s, hstop⟩ := generateAll_stops_at_reserved Toolchain.idle accepts_accepting
      ⟨.ofString "Templates"⟩ (Config.packageOptions { repositories := [] })
      (show first.name? = some (Text.Utf8.bytes Layout.referencePackage) by decide +kernel)
      [second] run
    have hperform : b.perform toolchain .accepting {} run = _ := perform_building hbconfig rfl rfl
    rw [hfound] at hperform
    simp only [toolchain, b, Bool.or_self, hstop] at hperform
    rw [show built.2 = Disk.left (b.perform toolchain .accepting {} run) from
      runProgram_left hbuilding run, hperform, Disk.left_error]
  exact ⟨⟨hlisting, hbuilding, hkeeping, hconfig⟩, by rw [hlist]; decide +kernel,
    hkeeps.1 (.inl rfl), by rw [hbuild]; decide +kernel, hstops.2⟩

end TemplatePress
