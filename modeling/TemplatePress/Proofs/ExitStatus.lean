import TemplatePress.CommandLine.Run
import TemplatePress.Proofs.Policies
import TemplatePress.Proofs.Renewals

/-!
# The exit status

A failure of a tool, of the disk or of the output passes through fetching, packaging, the pipeline
and its report before it becomes an exit status. None is lost on the way. This file fixes:

* `Fetches`, `Packs`, `PacksAll`: the steps of a run, one by one, each without an error;
* fetching and packaging end well exactly if they went through these steps (`fetchAll_eq_ok`,
  `generate_eq_ok_iff`, `buildOnto_eq_ok`), whether the run keeps going or not;
* `buildOnto_total`: every folder is reported, as built or as failed;
* `runProgram_generate`: when the status is 0, what that says of the calls, and what is said when
  packages failed.
-/

namespace TemplatePress

/-! ## 1. Steps without an error -/

section Steps

variable {σ ω : Type} (tools : Toolchain σ) (layout : Layout)

/-- The wanted reference is checked out, if there is one. -/
def ChecksOut (clone : Path) (wanted : Option String) (w w' : World σ) : Prop :=
  match wanted with
  | none => w' = w
  | some reference => tools.run (.checkout clone reference) w = .ok () w'

/-- **Repositories are fetched in turn**, each in all its steps. -/
inductive Fetches (host : String) : List RepositoryRef → World σ → World σ → Prop where
  | nil (w : World σ) : Fetches host [] w w
  | cons {r : RepositoryRef} {rest : List RepositoryRef} {w : World σ} {fs : FileSystem}
      {w₁ w₂ w' : World σ} : r.isWellFormed = true →
      FileSystem.removeIfPresent (layout.cloneDir r) w.files = .ok () fs →
      tools.run (.clone (r.cloneUrl host) (layout.cloneDir r)) { w with files := fs } =
        .ok () w₁ →
      ChecksOut tools (layout.cloneDir r) r.reference w₁ w₂ →
      Fetches host rest w₂ w' → Fetches host (r :: rest) w w'

/-- **A folder goes through all the steps of a package.** -/
inductive Packs (options : PackageOptions) (folder : TemplateFolder) (w w' : World σ) : Prop where
  | steps {name : Name} {fs fs₂ : FileSystem} {w₁ w₃ : World σ} : folder.Builds name →
      Package.prepare (layout.packageDir name) w.files = .ok () fs →
      tools.run (.copyTree folder.path (layout.package name options.entryPoint).typst)
        { w with files := fs } = .ok () w₁ →
      w₁.files.copyFile layout.referenceMetadata
        (layout.package name options.entryPoint).metadata = .ok fs₂ →
      tools.run (.compile (layout.package name options.entryPoint).entryDocument
        (layout.package name options.entryPoint).document) { w₁ with files := fs₂ } = .ok () w₃ →
      tools.run (.rasterize (layout.package name options.entryPoint).document options.previewPage
        options.previewDpi (layout.package name options.entryPoint).preview) w₃ = .ok () w' →
      Packs options folder w w'

/-- **Folders are taken in turn**: the line of each is written and flushed, and it goes through all
    the steps of a package. -/
inductive PacksAll (writer : Writer ω) (options : PackageOptions) :
    List TemplateFolder → Run σ ω → Run σ ω → Prop where
  | nil (run : Run σ ω) : PacksAll writer options [] run run
  | cons {folder : TemplateFolder} {rest : List TemplateFolder} {run run' : Run σ ω}
      {written flushed : Output ω} {w : World σ} :
      writer.writePieces (Pipeline.linePieces folder) run.output = .ok () written →
      writer.flushAll written = .ok () flushed →
      Packs tools layout options folder run.world w →
      PacksAll writer options rest ⟨w, flushed⟩ run' →
      PacksAll writer options (folder :: rest) run run'

/-- **What a run finds**: all its repositories are fetched, and the search in the clones succeeds. -/
def Finds (config : Config) (w : World σ) (folders : List TemplateFolder) (w' : World σ) : Prop :=
  Fetches tools ⟨config.templatesRoot⟩ config.host config.repositories w w' ∧
    discover w'.files (Layout.reposDir ⟨config.templatesRoot⟩) config.entryPoint = .ok folders

end Steps

/-! ## 2. Fetching and packaging -/

section Fetch

variable {σ : Type} {tools : Toolchain σ} {layout : Layout} {host : String} {w w' : World σ}

theorem checkoutReference_eq_ok {r : RepositoryRef} {clone : Path} :
    checkoutReference tools r clone w = .ok () w' ↔ ChecksOut tools clone r.reference w w' := by
  unfold checkoutReference ChecksOut
  cases r.reference with
  | none => simp [pure, EStateM.pure, eq_comm]
  | some reference =>
    simp only
    cases tools.run (.checkout clone reference) w <;> simp

/-- **All is fetched exactly if every fetch went through its steps.** -/
theorem fetchAll_eq_ok {repositories : List RepositoryRef} :
    fetchAll tools layout host repositories w = .ok () w' ↔
      Fetches tools layout host repositories w w' := by
  induction repositories generalizing w with
  | nil =>
    constructor
    · rintro ⟨⟩
      exact .nil _
    · rintro ⟨⟩
      rfl
  | cons r rest ih =>
    simp only [fetchAll, fetch, World.onFiles]
    constructor
    · intro h
      by_cases hwell : r.isWellFormed = true
      case neg => simp [hwell] at h
      rw [if_pos hwell] at h
      cases hclean : FileSystem.removeIfPresent (layout.cloneDir r) w.files with
      | error e fs => simp [hclean] at h
      | ok _ fs =>
        simp only [hclean] at h
        cases hclone : tools.run (.clone (r.cloneUrl host) (layout.cloneDir r))
            { w with files := fs } with
        | error e w₁ => simp [hclone] at h
        | ok _ w₁ =>
          simp only [hclone] at h
          cases hcheckout : checkoutReference tools r (layout.cloneDir r) w₁ with
          | error e w₂ => simp [hcheckout] at h
          | ok _ w₂ =>
            simp only [hcheckout] at h
            exact .cons hwell hclean hclone (checkoutReference_eq_ok.1 hcheckout) (ih.1 h)
    · rintro (_ | ⟨hwell, hclean, hclone, hcheckout, hrest⟩)
      simp only [if_pos hwell, hclean, hclone, checkoutReference_eq_ok.2 hcheckout, ih.2 hrest]

end Fetch

section Build

variable {σ ω : Type} {tools : Toolchain σ} {layout : Layout} {options : PackageOptions}

/-- **A package is built exactly if its folder went through all the steps.** -/
theorem generate_eq_ok_iff {folder : TemplateFolder} {w w' : World σ} :
    (∃ package, generate tools layout options folder w = .ok package w') ↔
      Packs tools layout options folder w w' := by
  constructor
  · rintro ⟨package, h⟩
    obtain ⟨name, fs, hb, hprepare, hfill, -⟩ := generate_eq_ok h
    obtain ⟨w₁, fs₂, w₃, hcopy, hmeta, hcompile, hdraw⟩ := fill_eq_ok.1 hfill
    exact .steps hb hprepare hcopy hmeta hcompile hdraw
  · rintro ⟨hb, hprepare, hcopy, hmeta, hcompile, hdraw⟩
    rw [generate_prepared hb hprepare, fill_eq_ok.2 ⟨_, _, _, hcopy, hmeta, hcompile, hdraw⟩]
    exact ⟨_, rfl⟩

variable {writer : Writer ω}

theorem announce_eq_ok {folder : TemplateFolder} {out out' : Output ω} :
    Pipeline.announce writer folder out = .ok () out' ↔
      ∃ written, writer.writePieces (Pipeline.linePieces folder) out = .ok () written ∧
        writer.flushAll written = .ok () out' := by
  unfold Pipeline.announce
  cases writer.writePieces (Pipeline.linePieces folder) out <;> simp

/-- A folder that a run gets past has its line written. -/
theorem announce_of_buildOne {keepGoing : Bool} {folder : TemplateFolder}
    {report report' : PipelineReport} {run run' : Run σ ω}
    (h : Pipeline.buildOne tools writer layout options keepGoing folder report run =
      .ok report' run') :
    Pipeline.announce writer folder run.output = .ok () run'.output := by
  unfold Pipeline.buildOne Pipeline.inOutput at h
  cases hout : Pipeline.announce writer folder run.output with
  | error e out => simp [hout] at h
  | ok _ out =>
    simp only [hout] at h
    split at h
    · cases h
      rfl
    · split at h <;> cases h
      rfl

/-- A run gets past a folder whose line is written and whose package is built. -/
theorem buildOne_of_steps (keepGoing : Bool) {folder : TemplateFolder} (report : PipelineReport)
    {run : Run σ ω} {out : Output ω} {w : World σ} {package : TemplatePackage}
    (hout : Pipeline.announce writer folder run.output = .ok () out)
    (hg : generate tools layout options folder run.world = .ok package w) :
    Pipeline.buildOne tools writer layout options keepGoing folder report run =
      .ok { report with generated := report.generated ++ [package] } ⟨w, out⟩ := by
  simp only [Pipeline.buildOne, Pipeline.inOutput, hout, hg]

/-- **Every folder is reported**, as built or as failed, and no failure is taken back. -/
theorem buildOnto_total {keepGoing : Bool} {folders : List TemplateFolder}
    {report report' : PipelineReport} {run run' : Run σ ω}
    (h : Pipeline.buildOnto tools writer layout options keepGoing folders report run =
      .ok report' run') :
    report'.total = report.total + folders.length ∧ report.failed <+: report'.failed := by
  induction folders generalizing report run with
  | nil =>
    cases h
    exact ⟨rfl, List.prefix_rfl⟩
  | cons folder rest ih =>
    unfold Pipeline.buildOnto at h
    split at h
    · cases h
    · rename_i report₁ run₁ hone
      obtain ⟨htotal, hfailed⟩ := ih h
      rw [htotal, List.length_cons]
      rcases buildOne_eq_ok hone with ⟨package, -, rfl⟩ | ⟨e, -, rfl, -⟩
      · refine ⟨?_, hfailed⟩
        simp only [PipelineReport.total, List.length_append, List.length_singleton]
        omega
      · refine ⟨?_, (List.prefix_append _ _).trans hfailed⟩
        simp only [PipelineReport.total, List.length_append, List.length_singleton]
        omega

/-- **A run adds no failure exactly if all folders went through their steps**, whether it keeps going
    or not. -/
theorem buildOnto_eq_ok {keepGoing : Bool} {folders : List TemplateFolder}
    {report : PipelineReport} {run run' : Run σ ω} :
    (∃ report', Pipeline.buildOnto tools writer layout options keepGoing folders report run =
        .ok report' run' ∧ report'.failed = report.failed) ↔
      PacksAll tools layout writer options folders run run' := by
  induction folders generalizing report run with
  | nil =>
    constructor
    · rintro ⟨report', ⟨⟩, -⟩
      exact .nil _
    · rintro ⟨⟩
      exact ⟨report, rfl, rfl⟩
  | cons folder rest ih =>
    constructor
    · rintro ⟨report', h, hfailed⟩
      unfold Pipeline.buildOnto at h
      split at h
      · cases h
      · rename_i report₁ run₁ hone
        rcases buildOne_eq_ok hone with ⟨package, hg, rfl⟩ | ⟨e, -, rfl, -⟩
        · obtain ⟨written, hwrite, hflush⟩ := announce_eq_ok.1 (announce_of_buildOne hone)
          exact .cons hwrite hflush (generate_eq_ok_iff.1 ⟨package, hg⟩)
            (ih.1 ⟨report', h, hfailed⟩)
        · -- the failure would still be there
          have hlonger := (buildOnto_total h).2.length_le
          rw [hfailed, List.length_append, List.length_singleton] at hlonger
          omega
    · rintro (_ | ⟨hwrite, hflush, hpacks, hrest⟩)
      obtain ⟨package, hg⟩ := generate_eq_ok_iff.2 hpacks
      have hone := buildOne_of_steps keepGoing report (announce_eq_ok.2 ⟨_, hwrite, hflush⟩) hg
      have hmore : ∃ report', Pipeline.buildOnto tools writer layout options keepGoing rest
          { report with generated := report.generated ++ [package] } ⟨_, _⟩ = .ok report' run' ∧
            report'.failed = report.failed := ih.2 hrest
      obtain ⟨report', h, hfailed⟩ := hmore
      exact ⟨report', by simp only [Pipeline.buildOnto, hone, h], hfailed⟩

end Build

/-! ## 3. The pipeline -/

section Pipeline

variable {σ ω : Type} {tools : Toolchain σ} {writer : Writer ω} {config : Config}

/-- **A run that ends built what it found**, or failed to and kept going. -/
theorem runPipeline_eq_ok {report : PipelineReport} {run run' : Run σ ω} :
    runPipeline tools writer config run = .ok report run' ↔
      ∃ folders w, Finds tools config run.world folders w ∧
        generateAll tools writer ⟨config.templatesRoot⟩ config.packageOptions config.keepGoing
          folders { run with world := w } = .ok report run' := by
  simp only [runPipeline_eq, buildFound, Finds, ← fetchAll_eq_ok]
  cases fetchAll tools ⟨config.templatesRoot⟩ config.host config.repositories run.world with
  | error e w => simp
  | ok _ w =>
    cases hfound : discover w.files (Layout.reposDir ⟨config.templatesRoot⟩) config.entryPoint with
    | error e => simp [hfound]
    | ok folders => simp [hfound]

/-- **Every folder that was found is reported**, as built or as failed. -/
theorem total_of_runPipeline {report : PipelineReport} {run run' : Run σ ω}
    (h : runPipeline tools writer config run = .ok report run') :
    ∃ folders w, Finds tools config run.world folders w ∧ report.total = folders.length := by
  obtain ⟨folders, w, hfinds, hbuild⟩ := runPipeline_eq_ok.1 h
  exact ⟨folders, w, hfinds, by simpa [PipelineReport.total] using (buildOnto_total hbuild).1⟩

/-- **No failure is reported exactly if all folders that were found went through their steps.** -/
theorem runPipeline_complete {run run' : Run σ ω} :
    (∃ report, runPipeline tools writer config run = .ok report run' ∧ report.failed = []) ↔
      ∃ folders w, Finds tools config run.world folders w ∧
        PacksAll tools ⟨config.templatesRoot⟩ writer config.packageOptions folders
          { run with world := w } run' := by
  constructor
  · rintro ⟨report, h, hfailed⟩
    obtain ⟨folders, w, hfinds, hbuild⟩ := runPipeline_eq_ok.1 h
    exact ⟨folders, w, hfinds, buildOnto_eq_ok.1 ⟨report, hbuild, hfailed⟩⟩
  · rintro ⟨folders, w, hfinds, hpacks⟩
    obtain ⟨report, hbuild, hfailed⟩ := buildOnto_eq_ok.2 hpacks
    exact ⟨report, runPipeline_eq_ok.2 ⟨folders, w, hfinds, hbuild⟩, hfailed⟩

end Pipeline

/-! ## 4. The calls of a run without an error -/

section Calls

variable {σ ω : Type} {tools : Toolchain σ} {layout : Layout}

/-- Between the states these calls were made, and all of them succeeded. -/
def Logs (s s' : Logged σ) (calls : List ToolCall) : Prop :=
  s'.log = s.log ++ calls.map .succeeded

theorem Logs.refl (s : Logged σ) : Logs s s [] :=
  (List.append_nil _).symm

theorem Logs.trans {s s₁ s' : Logged σ} {calls more : List ToolCall} (h : Logs s s₁ calls)
    (h' : Logs s₁ s' more) : Logs s s' (calls ++ more) := by
  unfold Logs at h h' ⊢
  rw [h', h, List.map_append, List.append_assoc]

theorem logs_of_run {call : ToolCall} {w w' : World (Logged σ)}
    (h : tools.logged.run call w = .ok () w') : Logs w.tools w'.tools [call] := by
  rcases log_of_run tools call w with ⟨w₁, h₁, hlog⟩ | ⟨e, w₁, h₁, -⟩ <;> cases h₁.symm.trans h
  exact hlog

/-- How many of the calls are of a kind. -/
def countKind (calls : List ToolCall) (kind : ToolCall.Kind) : Nat :=
  (calls.map ToolCall.kind).count kind

theorem countKind_append (calls more : List ToolCall) (kind : ToolCall.Kind) :
    countKind (calls ++ more) kind = countKind calls kind + countKind more kind := by
  rw [countKind, List.map_append, List.count_append]
  rfl

/-- **Fetching calls for clones and checkouts only.** -/
theorem Fetches.logs {host : String} {repositories : List RepositoryRef} {w w' : World (Logged σ)}
    (h : Fetches tools.logged layout host repositories w w') :
    ∃ calls, Logs w.tools w'.tools calls ∧ ∀ kind ∈ buildKinds, countKind calls kind = 0 := by
  induction h with
  | nil w => exact ⟨[], Logs.refl _, fun _ _ => rfl⟩
  | @cons r rest w fs w₁ w₂ w' _ _ hclone hcheckout _ ih =>
    obtain ⟨calls, hlogs, hcount⟩ := ih
    have hcloned := logs_of_run hclone
    obtain ⟨checked, hchecked, hnone⟩ : ∃ checked, Logs w₁.tools w₂.tools checked ∧
        ∀ kind ∈ buildKinds, countKind checked kind = 0 := by
      unfold ChecksOut at hcheckout
      split at hcheckout
      · rw [hcheckout]
        exact ⟨[], Logs.refl _, fun _ _ => rfl⟩
      · exact ⟨_, logs_of_run hcheckout, by simp [buildKinds, countKind, ToolCall.kind]⟩
    refine ⟨_, (hcloned.trans hchecked).trans hlogs, fun kind hkind => ?_⟩
    rw [countKind_append, countKind_append, hnone kind hkind, hcount kind hkind]
    revert kind
    simp [buildKinds, countKind, ToolCall.kind]

/-- **A package is built with one call of each kind.** -/
theorem Packs.logs {options : PackageOptions} {folder : TemplateFolder} {w w' : World (Logged σ)}
    (h : Packs tools.logged layout options folder w w') :
    ∃ calls, Logs w.tools w'.tools calls ∧ ∀ kind ∈ buildKinds, countKind calls kind = 1 := by
  obtain ⟨-, -, hcopy, -, hcompile, hdraw⟩ := h
  have hcopied := logs_of_run hcopy
  have hcompiled := logs_of_run hcompile
  exact ⟨_, (hcopied.trans hcompiled).trans (logs_of_run hdraw),
    by simp [buildKinds, countKind, ToolCall.kind]⟩

/-- **For each folder one call of each kind is made.** -/
theorem PacksAll.logs {writer : Writer ω} {options : PackageOptions}
    {folders : List TemplateFolder} {run run' : Run (Logged σ) ω}
    (h : PacksAll tools.logged layout writer options folders run run') :
    ∃ calls, Logs run.world.tools run'.world.tools calls ∧
      ∀ kind ∈ buildKinds, countKind calls kind = folders.length := by
  induction h with
  | nil run => exact ⟨[], Logs.refl _, fun _ _ => rfl⟩
  | cons _ _ hpacks _ ih =>
    obtain ⟨calls, hlogs, hcount⟩ := ih
    obtain ⟨first, hfirst, hone⟩ := hpacks.logs
    refine ⟨first ++ calls, hfirst.trans hlogs, fun kind hkind => ?_⟩
    rw [countKind_append, hone kind hkind, hcount kind hkind, List.length_cons, Nat.add_comm]

end Calls

/-! ## 5. The program -/

theorem chain_nil (message : String) : chain message [] = message := by
  simp [chain]

/-- What is said when packages failed. -/
def saidIncomplete (failed total : Nat) : String :=
  "Error: " ++ toString failed ++ " of " ++ toString total ++ " templates failed\n"

theorem said_incomplete (failed total : Nat) :
    "Error: " ++ chain (RunError.incomplete failed total).message
      (RunError.incomplete failed total).sources ++ "\n" = saidIncomplete failed total := by
  have hend : (" templates failed\n" : String) = " templates failed" ++ "\n" := rfl
  rw [saidIncomplete, hend]
  simp only [RunError.sources, chain_nil, RunError.message, String.append_assoc]

/-- The settings that a request comes to: its own word for keeping going counts as well. -/
def Request.withSettings (r : Request) (config : Config) : Config :=
  { config with keepGoing := config.keepGoing || r.keepGoing }

theorem settings_eq (r : Request) (fs : FileSystem) (env : Environment) :
    r.settings fs env = (resolveConfig fs env r.config).map r.withSettings := by
  unfold Request.settings Request.withSettings
  cases resolveConfig fs env r.config with
  | error e => rfl
  | ok config => cases r.keepGoing <;> simp [Except.map]

section Program

variable {σ ω : Type} {toolchain : ToolsConfig → Toolchain σ} {writer : Writer ω}
  {env : Environment} {arguments : List Bytes} {request : Request}
  (hrequest : Request.ofArguments arguments = .ok request) (htask : request.task = .generate)
  {run : Run σ ω}

include hrequest

/-- What a run comes to whose settings are not resolved. -/
theorem runProgram_unresolved {e : ConfigError}
    (hconfig : resolveConfig run.world.files env request.config = .error e) :
    runProgram toolchain writer env arguments run =
      (⟨1, "Error: " ++ chain e.message [] ++ "\n"⟩, run) := by
  have hsettings : request.settings run.world.files env = .error e := by
    rw [settings_eq, hconfig]
    rfl
  simp only [runProgram, hrequest, Request.perform, hsettings, RunError.message, RunError.sources]

include htask

/-- What a run comes to whose settings are resolved. -/
theorem runProgram_resolved {config : Config}
    (hconfig : resolveConfig run.world.files env request.config = .ok config) :
    runProgram toolchain writer env arguments run =
      match runPipeline (toolchain config.tools) writer (request.withSettings config) run with
      | .error e run' => (⟨1, "Error: " ++ chain e.message e.sources ++ "\n"⟩, run')
      | .ok report run' =>
        if report.failed = [] then (⟨0, ""⟩, run')
        else (⟨1, saidIncomplete report.failed.length report.total⟩, run') := by
  have hsettings : request.settings run.world.files env = .ok (request.withSettings config) := by
    rw [settings_eq, hconfig]
    rfl
  have htools : (request.withSettings config).tools = config.tools := rfl
  simp only [runProgram, hrequest, Request.perform, hsettings, htask, Request.generateAll, htools]
  cases runPipeline (toolchain config.tools) writer (request.withSettings config) run with
  | error e run' => rfl
  | ok report run' =>
    by_cases h : report.failed = []
    · simp [PipelineReport.isSuccess, h]
    · simp [PipelineReport.isSuccess, h, said_incomplete]

/-- **The status is 0 exactly if the settings are resolved and the run reports no failure.** -/
theorem status_eq_zero : (runProgram toolchain writer env arguments run).1.status = 0 ↔
    ∃ config report, resolveConfig run.world.files env request.config = .ok config ∧
      runPipeline (toolchain config.tools) writer (request.withSettings config) run =
        .ok report (runProgram toolchain writer env arguments run).2 ∧ report.failed = [] := by
  cases hconfig : resolveConfig run.world.files env request.config with
  | error e => simp [runProgram_unresolved hrequest hconfig]
  | ok config =>
    rw [runProgram_resolved hrequest htask hconfig]
    simp only [Except.ok.injEq, exists_and_left, exists_eq_left']
    cases runPipeline (toolchain config.tools) writer (request.withSettings config) run with
    | error e run' => simp
    | ok report run' => by_cases h : report.failed = [] <;> simp [h]

end Program

/-- **No failure is lost on the way to the exit status.** Building ends with 0 exactly if the
    settings are resolved, all repositories are fetched, the search succeeds, and every folder that
    it found has its line written and goes through all the steps of its package. Every call was
    answered without an error then, and there are as many calls of each kind and as many packages
    as folders; the log that tells so changes nothing else. A run that keeps going and ends with
    failures says how many of the folders failed. -/
theorem runProgram_generate {σ ω : Type} (toolchain : ToolsConfig → Toolchain σ)
    (writer : Writer ω) (env : Environment) {arguments : List Bytes} {request : Request}
    (hrequest : Request.ofArguments arguments = .ok request) (htask : request.task = .generate) :
    (∀ run : Run σ ω,
      let ended := runProgram toolchain writer env arguments run
      ended.1.status = 0 ↔
        ∃ config folders w, resolveConfig run.world.files env request.config = .ok config ∧
          Finds (toolchain config.tools) config run.world folders w ∧
          PacksAll (toolchain config.tools) ⟨config.templatesRoot⟩ writer config.packageOptions
            folders { run with world := w } ended.2) ∧
    (∀ run : Run (Logged σ) ω,
      let logged := fun settings => (toolchain settings).logged
      let ended := runProgram logged writer env arguments run
      runProgram toolchain writer env arguments run.unlogged = (ended.1, ended.2.unlogged) ∧
        (ended.1.status = 0 →
          ∃ config folders w report calls,
            resolveConfig run.world.files env request.config = .ok config ∧
            Finds (logged config.tools) config run.world folders w ∧
            runPipeline (logged config.tools) writer (request.withSettings config) run =
              .ok report ended.2 ∧
            ended.2.world.tools.log = run.world.tools.log ++ calls.map .succeeded ∧
            report.generated.length = folders.length ∧
            ∀ kind ∈ buildKinds, countKind calls kind = folders.length)) ∧
    ∀ (run run' : Run σ ω) (config : Config) (report : PipelineReport),
      resolveConfig run.world.files env request.config = .ok config →
      request.keepGoing = true ∨ config.keepGoing = true →
      runPipeline (toolchain config.tools) writer { config with keepGoing := true } run =
        .ok report run' →
      0 < report.failed.length →
        ∃ folders w, Finds (toolchain config.tools) config run.world folders w ∧
          runProgram toolchain writer env arguments run =
            (⟨1, saidIncomplete report.failed.length folders.length⟩, run') := by
  refine ⟨fun run => ?_, fun run => ?_, fun run run' config report hconfig hkeep hrun hfailed => ?_⟩
  · intro ended
    rw [status_eq_zero hrequest htask]
    constructor
    · rintro ⟨config, report, hconfig, hrun, hfailed⟩
      obtain ⟨folders, w, hfinds, hpacks⟩ := runPipeline_complete.1 ⟨report, hrun, hfailed⟩
      exact ⟨config, folders, w, hconfig, hfinds, hpacks⟩
    · rintro ⟨config, folders, w, hconfig, hfinds, hpacks⟩
      have hcomplete : ∃ report, runPipeline (toolchain config.tools) writer
          (request.withSettings config) run = .ok report ended.2 ∧ report.failed = [] :=
        runPipeline_complete.2 ⟨folders, w, hfinds, hpacks⟩
      obtain ⟨report, hrun, hfailed⟩ := hcomplete
      exact ⟨config, report, hconfig, hrun, hfailed⟩
  · intro logged ended
    refine ⟨runProgram_erases (fun settings => logged_erases (toolchain settings)) (.refl writer)
      env arguments run, fun hstatus => ?_⟩
    obtain ⟨config, report, hconfig, hrun, hfailed⟩ := (status_eq_zero hrequest htask).1 hstatus
    obtain ⟨folders, w, hfinds, hbuild⟩ := runPipeline_eq_ok.1 hrun
    have hpacks := buildOnto_eq_ok.1 ⟨report, hbuild, hfailed⟩
    obtain ⟨fetching, hfetches, hnone⟩ := hfinds.1.logs
    obtain ⟨building, hbuilds, hcount⟩ := hpacks.logs
    have htotal := (buildOnto_total hbuild).1
    refine ⟨config, folders, w, report, fetching ++ building, hconfig, hfinds, hrun,
      hfetches.trans hbuilds, ?_, fun kind hkind => ?_⟩
    · simpa [PipelineReport.total, hfailed] using htotal
    · rw [countKind_append, hnone kind hkind, hcount kind hkind, Nat.zero_add]
  · have hsettings : request.withSettings config = { config with keepGoing := true } := by
      rcases hkeep with h | h <;> simp [Request.withSettings, h]
    rw [← hsettings] at hrun
    obtain ⟨folders, w, hfinds, htotal⟩ := total_of_runPipeline hrun
    refine ⟨folders, w, hfinds, ?_⟩
    rw [runProgram_resolved hrequest htask hconfig, hrun]
    simp only [if_neg (List.length_pos_iff.1 hfailed), htotal]

/-- A folder that is named like the reference package. -/
def pretender : FileSystem :=
  .written [("Templates", .directory), ("Templates/repos", .directory),
    ("Templates/repos/Empty", .directory), ("Templates/repos/Empty/main.typ", .file [] false)]

/-- Tools that do nothing, without an error. -/
def Toolchain.idle : Toolchain Unit where
  run _ := fun w => .ok () w

theorem finds_pretender : Finds Toolchain.idle {} ⟨pretender, ()⟩
    [⟨.ofString "Templates/repos/Empty"⟩] ⟨pretender, ()⟩ := by
  have hclean : FileSystem.removeIfPresent (.ofString "Templates/repos/typst/templates") pretender =
      .ok () pretender := by
    have hnone : pretender.lstat? (.ofString "Templates/repos/typst/templates") =
        .error (.os .notFound) := by decide +kernel
    simp only [FileSystem.removeIfPresent, hnone]
    rfl
  have htop : pretender.readDirectory (.ofString "Templates/repos") =
      .ok [(Text.Utf8.bytes "Empty", .directory)] := by decide +kernel
  have hfolder : pretender.readDirectory (.ofString "Templates/repos/Empty") =
      .ok [(Text.Utf8.bytes "main.typ", .file [] false)] := by decide +kernel
  have hjoin : (Path.ofString "Templates/repos").join ⟨Text.Utf8.bytes "Empty"⟩ =
      .ofString "Templates/repos/Empty" := by decide +kernel
  have hvisit : ∀ depth, Discovery.visitLevels pretender.readDirectory (Text.Utf8.bytes "main.typ")
      (depth + 2) (.ofString "Templates/repos") = .ok [⟨.ofString "Templates/repos/Empty"⟩] := by
    intro depth
    simp only [Discovery.visitLevels, htop, hfolder, Discovery.visitEntries, Discovery.visitEntry,
      List.mergeSort_singleton, hjoin, if_true, List.append_nil]
  exact ⟨.cons (by decide +kernel) hclean rfl rfl (.nil _), hvisit 4094⟩

theorem runProgram_generate_pretender :
    let arguments := [Text.Utf8.bytes "--keep-going"]
    let run : Run Unit Unit := ⟨⟨pretender, ()⟩, ⟨(), []⟩⟩
    Request.ofArguments arguments = .ok ⟨none, true, .generate⟩ ∧
      resolveConfig run.world.files {} none = .ok {} ∧
      ∃ report run', runPipeline Toolchain.idle Writer.accepting { keepGoing := true } run =
          .ok report run' ∧
        0 < report.failed.length ∧
        ∃ folders w, Finds Toolchain.idle {} run.world folders w ∧
          runProgram (fun _ => Toolchain.idle) Writer.accepting {} arguments run =
            (⟨1, saidIncomplete report.failed.length folders.length⟩, run') := by
  intro arguments run
  have hrequest : Request.ofArguments arguments = .ok ⟨none, true, .generate⟩ := by decide +kernel
  have hconfig : resolveConfig run.world.files {} none = .ok {} := by
    simp [resolveConfig, Config.override, Config.overrideRoot, Config.overrideTimeout,
      Environment.text?, Environment.get?]
  let folder : TemplateFolder := ⟨.ofString "Templates/repos/Empty"⟩
  have hname : folder.name? = some (Text.Utf8.bytes Layout.referencePackage) := by decide +kernel
  obtain ⟨s, hs⟩ := announce_accepts accepts_accepting folder run.output
  obtain ⟨report, run', hbuild, hfailed⟩ : ∃ report run',
      generateAll Toolchain.idle Writer.accepting ⟨.ofString "Templates"⟩ {} true [folder] run =
        .ok report run' ∧ 0 < report.failed.length := by
    simp only [generateAll, Pipeline.buildOnto, Pipeline.buildOne, Pipeline.inOutput, hs, generate,
      hname, if_true]
    exact ⟨_, _, rfl, by simp⟩
  have hrun : runPipeline Toolchain.idle Writer.accepting { keepGoing := true } run =
      .ok report run' := runPipeline_eq_ok.2 ⟨_, _, finds_pretender, hbuild⟩
  obtain ⟨-, -, hsays⟩ :=
    runProgram_generate (fun _ => Toolchain.idle) Writer.accepting {} hrequest rfl
  exact ⟨hrequest, hconfig, report, run', hrun, hfailed,
    hsays run run' {} report hconfig (Or.inl rfl) hrun hfailed⟩

end TemplatePress
