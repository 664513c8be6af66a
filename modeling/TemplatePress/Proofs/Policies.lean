import TemplatePress.Proofs.CallOrder

/-!
# Stopping at a failure and going on

A run that keeps going and one that stops at the first failure take the same steps up to there. The
output is taken by a writer that accepts everything (`Writer.Accepts`). This file fixes:

* `announce_accepts`: such a writer takes a folder's line, whole;
* `buildOnto_keepGoing`: a run that keeps going reaches its end, with one line for each folder;
* `buildOnto_stops`: what stopping changes, from folder to folder;
* `generateAll_stops`: the run that stops, told from the run that keeps going.
-/

namespace TemplatePress

/-! ## 1. Writers that accept everything -/

/-- The writer takes at least one byte of what it is offered unless it is interrupted, and
    flushes. -/
structure Writer.Accepts {ω : Type} (writer : Writer ω) : Prop where
  write : ∀ bytes s, bytes ≠ [] → (∃ n s', writer.write bytes s = (.ok (n + 1), s')) ∨
    ∃ e s', writer.write bytes s = (.error e, s') ∧ e.isInterrupted = true
  flush : ∀ s, ∃ s', writer.flush s = (.ok (), s')

theorem accepts_accepting : Writer.accepting.Accepts := by
  refine ⟨fun bytes s hne => Or.inl ?_, fun s => ⟨s, rfl⟩⟩
  obtain ⟨b, rest, rfl⟩ := List.exists_cons_of_ne_nil hne
  exact ⟨rest.length, s, rfl⟩

/-- The line of a folder. -/
def TemplateFolder.line (folder : TemplateFolder) : Bytes :=
  Text.Utf8.bytes (folder.display ++ "\n")

theorem flatten_linePieces (folder : TemplateFolder) :
    (Pipeline.linePieces folder).flatten = folder.line := by
  simp [Pipeline.linePieces, TemplateFolder.line, TemplateFolder.display, Text.Utf8.bytes]

section Accepts

variable {ω : Type} {writer : Writer ω} (hw : writer.Accepts)

include hw

/-- **What is offered is taken in part**, however often the writer is interrupted before. -/
theorem offer_accepts {bytes : Bytes} (hne : bytes ≠ []) (s : ω) :
    ∃ n s', writer.offer bytes s = (.ok (n + 1), s') := by
  fun_induction Writer.offer writer bytes s with
  | case1 s n s₁ h =>
    rcases hw.write bytes s hne with ⟨m, s', h'⟩ | ⟨e, s', h', -⟩ <;> cases h.symm.trans h'
    exact ⟨m, s₁, rfl⟩
  | case2 s e s₁ h he ih => exact ih
  | case3 s e s₁ h he =>
    rcases hw.write bytes s hne with ⟨m, s', h'⟩ | ⟨e', s', h', he'⟩ <;> cases h.symm.trans h'
    exact absurd he' he

/-- **All the bytes are written**, however few are taken at once. -/
theorem writeAll_accepts (bytes : Bytes) (out : Output ω) :
    ∃ s, writer.writeAll bytes out = .ok () ⟨s, out.accepted ++ bytes⟩ := by
  fun_induction Writer.writeAll writer bytes out with
  | case1 out => exact ⟨out.state, by simp⟩
  | case2 out b rest e s h =>
    obtain ⟨n, s', h'⟩ := offer_accepts hw (List.cons_ne_nil b rest) out.state
    cases h.symm.trans h'
  | case3 out b rest s h =>
    obtain ⟨n, s', h'⟩ := offer_accepts hw (List.cons_ne_nil b rest) out.state
    cases h.symm.trans h'
  | case4 out b rest n s h ih =>
    obtain ⟨s', hs'⟩ := ih
    refine ⟨s', ?_⟩
    rw [hs']
    simp

theorem writePieces_accepts (pieces : List Bytes) (out : Output ω) :
    ∃ s, writer.writePieces pieces out = .ok () ⟨s, out.accepted ++ pieces.flatten⟩ := by
  induction pieces generalizing out with
  | nil => exact ⟨out.state, by simp [Writer.writePieces, pure, EStateM.pure]⟩
  | cons piece rest ih =>
    obtain ⟨s, hs⟩ := writeAll_accepts hw piece out
    obtain ⟨s', hs'⟩ := ih ⟨s, out.accepted ++ piece⟩
    exact ⟨s', by simp [Writer.writePieces, hs, hs']⟩

/-- **A folder's line is written, whole.** -/
theorem announce_accepts (folder : TemplateFolder) (out : Output ω) :
    ∃ s, Pipeline.announce writer folder out = .ok () ⟨s, out.accepted ++ folder.line⟩ := by
  obtain ⟨s, hs⟩ := writePieces_accepts hw (Pipeline.linePieces folder) out
  obtain ⟨s', hs'⟩ := hw.flush s
  exact ⟨s', by simp [Pipeline.announce, hs, Writer.flushAll, hs', flatten_linePieces]⟩

end Accepts

/-! ## 2. One folder -/

section Build

variable {σ ω : Type} (tools : Toolchain σ) {writer : Writer ω} (hw : writer.Accepts)
  (layout : Layout) (options : PackageOptions)

include hw

/-- **A folder is built behind its line.** A failure ends the run or is reported. -/
theorem buildOne_accepts (folder : TemplateFolder) (report : PipelineReport) (run : Run σ ω) :
    ∃ s, let out : Output ω := ⟨s, run.output.accepted ++ folder.line⟩
      (∃ package world, generate tools layout options folder run.world = .ok package world ∧
        ∀ keepGoing,
          Pipeline.buildOne tools writer layout options keepGoing folder report run =
            .ok { report with generated := report.generated ++ [package] } ⟨world, out⟩) ∨
      ∃ e world, generate tools layout options folder run.world = .error e world ∧
        Pipeline.buildOne tools writer layout options true folder report run =
          .ok { report with failed := report.failed ++ [⟨folder, e⟩] } ⟨world, out⟩ ∧
        Pipeline.buildOne tools writer layout options false folder report run =
          .error (.generate folder e) ⟨world, out⟩ := by
  obtain ⟨s, hs⟩ := announce_accepts hw folder run.output
  refine ⟨s, ?_⟩
  simp only [Pipeline.buildOne, Pipeline.inOutput, hs]
  cases generate tools layout options folder run.world with
  | ok package world => exact Or.inl ⟨package, world, rfl, fun _ => rfl⟩
  | error e world => exact Or.inr ⟨e, world, rfl, rfl, rfl⟩

/-- **A run that keeps going reaches its end**, with one line for each folder. What failed before
    stays reported first. -/
theorem buildOnto_keepGoing (folders : List TemplateFolder) (report : PipelineReport)
    (run : Run σ ω) :
    ∃ report' run',
      Pipeline.buildOnto tools writer layout options true folders report run = .ok report' run' ∧
        run'.output.accepted = run.output.accepted ++ folders.flatMap TemplateFolder.line ∧
        report.failed <+: report'.failed := by
  induction folders generalizing report run with
  | nil => exact ⟨report, run, rfl, by simp, List.prefix_rfl⟩
  | cons folder rest ih =>
    have hstep : ∃ report₁ run₁,
        Pipeline.buildOne tools writer layout options true folder report run = .ok report₁ run₁ ∧
          run₁.output.accepted = run.output.accepted ++ folder.line ∧
          report.failed <+: report₁.failed := by
      obtain ⟨s, ⟨package, world, -, h⟩ | ⟨e, world, -, h, -⟩⟩ :=
        buildOne_accepts tools hw layout options folder report run
      · exact ⟨_, _, h true, rfl, List.prefix_rfl⟩
      · exact ⟨_, _, h, rfl, List.prefix_append _ _⟩
    obtain ⟨report₁, run₁, h₁, hout₁, hfailed₁⟩ := hstep
    obtain ⟨report', run', h', hout', hfailed'⟩ := ih report₁ run₁
    refine ⟨report', run', by simp only [Pipeline.buildOnto, h₁, h'], ?_, hfailed₁.trans hfailed'⟩
    rw [hout', hout₁, List.flatMap_cons, List.append_assoc]

/-! ## 3. Where a run stops -/

variable {tools layout options} in
/-- **What stopping changes:** nothing if no folder fails. Otherwise the run ends behind the first
    folder that fails, in the state in which the other run goes on from there. -/
theorem buildOnto_stops {folders : List TemplateFolder} {report report' : PipelineReport}
    {run run' : Run σ ω}
    (h : Pipeline.buildOnto tools writer layout options true folders report run =
      .ok report' run') :
    (report'.failed = report.failed ∧
        Pipeline.buildOnto tools writer layout options false folders report run =
          .ok report' run') ∨
      ∃ front folder e back report₁ run₁, folders = front ++ folder :: back ∧
        Pipeline.buildOnto tools writer layout options false folders report run =
          .error (.generate folder e) run₁ ∧
        Pipeline.buildOnto tools writer layout options true (front ++ [folder]) report run =
          .ok report₁ run₁ ∧
        report₁.failed = report.failed ++ [⟨folder, e⟩] ∧
        Pipeline.buildOnto tools writer layout options true back report₁ run₁ =
          .ok report' run' := by
  induction folders generalizing report run with
  | nil =>
    cases h
    exact Or.inl ⟨rfl, rfl⟩
  | cons folder rest ih =>
    obtain ⟨s, ⟨package, world, -, hone⟩ | ⟨e, world, -, hkeep, hstop⟩⟩ :=
      buildOne_accepts tools hw layout options folder report run
    · simp only [Pipeline.buildOnto, hone] at h
      rcases ih h with ⟨hfailed, hrest⟩ |
        ⟨front, failing, e, back, report₁, run₁, rfl, hrest, hfront, hfailed, hback⟩
      · exact Or.inl ⟨hfailed, by simp only [Pipeline.buildOnto, hone, hrest]⟩
      · refine Or.inr ⟨folder :: front, failing, e, back, report₁, run₁, rfl, ?_, ?_, hfailed, hback⟩
        · simp only [Pipeline.buildOnto, hone, hrest]
        · simp only [List.cons_append, Pipeline.buildOnto, hone, hfront]
    · simp only [Pipeline.buildOnto, hkeep] at h
      refine Or.inr ⟨[], folder, e, rest, _, _, rfl, ?_, ?_, rfl, h⟩
      · simp only [Pipeline.buildOnto, hstop]
      · simp only [List.nil_append, Pipeline.buildOnto, hkeep]
        rfl

end Build

/-- **The run that stops, told from the run that keeps going.** The run that keeps going reaches its
    end. If it reports no failure, the run that stops is the same run. Otherwise that run ends with
    the first failure that is reported, in the state in which the other run was when this folder
    had failed and from which it went on; its last line is the folder's. -/
theorem generateAll_stops {σ ω : Type} (tools : Toolchain σ) {writer : Writer ω}
    (hw : writer.Accepts) (layout : Layout) (options : PackageOptions)
    (folders : List TemplateFolder) (run : Run (Logged σ) ω) :
    ∃ report run', generateAll tools.logged writer layout options true folders run =
        .ok report run' ∧
      (report.failed = [] →
        generateAll tools.logged writer layout options false folders run = .ok report run') ∧
      ∀ first others, report.failed = first :: others →
        ∃ front back report₁ run₁, folders = front ++ first.folder :: back ∧
          generateAll tools.logged writer layout options false folders run =
            .error (.generate first.folder first.error) run₁ ∧
          generateAll tools.logged writer layout options true (front ++ [first.folder]) run =
            .ok report₁ run₁ ∧
          report₁.failed = [first] ∧
          Pipeline.buildOnto tools.logged writer layout options true back report₁ run₁ =
            .ok report run' ∧
          run₁.output.accepted = run.output.accepted ++ front.flatMap TemplateFolder.line ++
            first.folder.line ∧
          run₁.output.accepted <+: run'.output.accepted ∧
          run₁.world.tools.log <+: run'.world.tools.log := by
  obtain ⟨report, run', hkeep, hout, -⟩ :=
    buildOnto_keepGoing tools.logged hw layout options folders {} run
  refine ⟨report, run', hkeep, fun hnone => ?_, fun first others hsome => ?_⟩ <;>
    rcases buildOnto_stops hw hkeep with ⟨hfailed, hstop⟩ |
      ⟨front, folder, e, back, report₁, run₁, rfl, hstop, hfront, hfailed, hback⟩
  · exact hstop
  · obtain ⟨report₂, run₂, hback₂, -, hprefix⟩ :=
      buildOnto_keepGoing tools.logged hw layout options back report₁ run₁
    cases hback.symm.trans hback₂
    simp [hnone, hfailed] at hprefix
  · rw [hsome] at hfailed
    cases hfailed
  · obtain ⟨report₂, run₂, hback₂, houtput, hprefix⟩ :=
      buildOnto_keepGoing tools.logged hw layout options back report₁ run₁
    cases hback.symm.trans hback₂
    obtain rfl : first = ⟨folder, e⟩ := by
      simpa [hsome, hfailed, eq_comm] using hprefix
    obtain ⟨report₃, run₃, hfront₃, hlines, -⟩ :=
      buildOnto_keepGoing tools.logged hw layout options (front ++ [folder]) {} run
    cases hfront.symm.trans hfront₃
    obtain ⟨before, -, hend⟩ := buildOnto_inOrder tools writer layout options true
      (front ++ [folder]) Course.Reports.nil run
    rw [hfront] at hend
    obtain ⟨builds, hchain, -⟩ := buildOnto_inOrder tools writer layout options true back
      hend.2.1 run₁
    refine ⟨front, back, report₁, run₁, rfl, hstop, hfront, by simpa using hfailed, hback, ?_, ?_, ?_⟩
    · simpa using hlines
    · rw [houtput]
      exact List.prefix_append _ _
    · rw [hback] at hchain
      exact ⟨_, hchain.log_eq.symm⟩

/-- Three folders of which the second does not compile. -/
def stumbling : FileSystem :=
  .written [("T", .directory), ("T/Empty.sr", .directory),
    ("T/Empty.sr/Serifian.plist", .file (Text.Utf8.bytes "m") false),
    ("s", .directory), ("s/a", .directory),
    ("s/a/main.typ", .file (Text.Utf8.bytes "one") false),
    ("s/b", .directory), ("s/b/main.typ", .file (Text.Utf8.bytes "// fail-compile") false),
    ("s/c", .directory), ("s/c/main.typ", .file (Text.Utf8.bytes "three") false)]

theorem generateAll_stops_stumbling :
    let tools := (Rehearsal.toolchain {}).logged
    let folders : List TemplateFolder := ["s/a", "s/b", "s/c"].map fun folder => ⟨.ofString folder⟩
    let run : Run (Logged (List ToolCall)) Unit := ⟨⟨stumbling, ⟨[], []⟩⟩, ⟨(), []⟩⟩
    Writer.accepting.Accepts ∧
      ∃ report run', generateAll tools Writer.accepting ⟨.ofString "T"⟩ {} true folders run =
          .ok report run' ∧
        (report.failed = [] →
          generateAll tools Writer.accepting ⟨.ofString "T"⟩ {} false folders run =
            .ok report run') ∧
        ∀ first others, report.failed = first :: others →
          ∃ front back report₁ run₁, folders = front ++ first.folder :: back ∧
            generateAll tools Writer.accepting ⟨.ofString "T"⟩ {} false folders run =
              .error (.generate first.folder first.error) run₁ ∧
            generateAll tools Writer.accepting ⟨.ofString "T"⟩ {} true (front ++ [first.folder]) run =
              .ok report₁ run₁ ∧
            report₁.failed = [first] ∧
            Pipeline.buildOnto tools Writer.accepting ⟨.ofString "T"⟩ {} true back report₁ run₁ =
              .ok report run' ∧
            run₁.output.accepted = run.output.accepted ++ front.flatMap TemplateFolder.line ++
              first.folder.line ∧
            run₁.output.accepted <+: run'.output.accepted ∧
            run₁.world.tools.log <+: run'.world.tools.log :=
  ⟨accepts_accepting, generateAll_stops _ accepts_accepting _ _ _ _⟩

end TemplatePress
