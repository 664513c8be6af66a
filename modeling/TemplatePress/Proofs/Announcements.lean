import TemplatePress.Proofs.ExitStatus

/-!
# Lines and packages

A run writes the line of a folder and flushes before it turns to the folder's package. The writer may
take what is offered in parts, stop anywhere, refuse, or fail to flush. This file fixes:

* `Writer.tallied`: a writer that counts its flushes and keeps what it takes, and behaves the same
  otherwise (`tallied_erases`). What a run remembers to have written is what the writer took
  (`buildOnto_took`);
* `Writes`: what was taken of some bytes was taken from the front, and all of them if nothing failed.
  A folder's line is written in this way (`announce_writes`);
* `ComesTo`: how a run comes to one of its folders. It stops before, or at the folder's line, or it
  turns to the package when this line and all lines before it are written and flushed
  (`generateAll_comesTo`);
* `generateAll_announces`: with the lines of a whole run and the folders of its report.
-/

namespace TemplatePress

/-! ## 1. What a writer took, and how often it flushed -/

/-- The state of a writer with how often it has flushed, and with the bytes it took. -/
structure Tallied (ω : Type) where
  inner : ω
  flushes : Nat
  taken : Bytes

/-- The writer, with its flushes counted and the bytes kept that its answers take. A flush that fails
    does not count. -/
def Writer.tallied {ω : Type} (writer : Writer ω) : Writer (Tallied ω) where
  write bytes s :=
    match writer.write bytes s.inner with
    | (.ok n, inner) => (.ok n, { s with inner, taken := s.taken ++ bytes.take n })
    | (.error e, inner) => (.error e, { s with inner })
  flush s :=
    match writer.flush s.inner with
    | (.ok (), inner) => (.ok (), { s with inner, flushes := s.flushes + 1 })
    | (.error e, inner) => (.error e, { s with inner })
  interruptions s := writer.interruptions s.inner
  interruptions_lt bytes s e h he := by
    have hlt := writer.interruptions_lt bytes s.inner e
    generalize writer.write bytes s.inner = answer at h hlt ⊢
    obtain ⟨_ | n, inner⟩ := answer
    · exact hlt h he
    · cases h

/-- The output of the writer itself. -/
def Output.untallied {ω : Type} (out : Output (Tallied ω)) : Output ω :=
  ⟨out.state.inner, out.accepted⟩

/-- The run of the writer itself. -/
def Run.untallied {σ ω : Type} (run : Run σ (Tallied ω)) : Run σ ω :=
  ⟨run.world, run.output.untallied⟩

/-- **The output remembers what the writer took**, and nothing else. -/
structure Took {ω : Type} (out out' : Output (Tallied ω)) (bytes : Bytes) : Prop where
  accepted : out'.accepted = out.accepted ++ bytes
  taken : out'.state.taken = out.state.taken ++ bytes

section Took

variable {ω : Type} {out out₁ out' : Output (Tallied ω)} {bytes more : Bytes}

theorem Took.refl (out : Output (Tallied ω)) : Took out out [] :=
  ⟨(List.append_nil _).symm, (List.append_nil _).symm⟩

theorem Took.trans (h : Took out out₁ bytes) (h' : Took out₁ out' more) :
    Took out out' (bytes ++ more) :=
  ⟨by rw [h'.accepted, h.accepted, List.append_assoc],
    by rw [h'.taken, h.taken, List.append_assoc]⟩

/-- What the output remembers tells what was taken. -/
theorem Took.of_accepted (h : Took out out' more) (heq : out'.accepted = out.accepted ++ bytes) :
    Took out out' bytes :=
  List.append_cancel_left (h.accepted.symm.trans heq) ▸ h

end Took

section Tallied

variable {σ ω : Type} (writer : Writer ω)

/-- **Counting the flushes and keeping what is taken changes nothing else.** -/
theorem tallied_erases : writer.tallied.Erases Tallied.inner writer := by
  refine ⟨fun bytes s => ?_, fun s => ?_⟩
  · simp only [Writer.tallied]
    obtain ⟨_ | n, inner⟩ := writer.write bytes s.inner <;> rfl
  · simp only [Writer.tallied]
    obtain ⟨_ | _, inner⟩ := writer.flush s.inner <;> rfl

/-- What one write takes. -/
theorem write_tallied (bytes : Bytes) (s : Tallied ω) :
    (writer.tallied.write bytes s).2.flushes = s.flushes ∧
      match writer.tallied.write bytes s with
      | (.ok n, s') => s'.taken = s.taken ++ bytes.take n
      | (.error _, s') => s'.taken = s.taken := by
  simp only [Writer.tallied]
  obtain ⟨_ | n, inner⟩ := writer.write bytes s.inner <;> exact ⟨rfl, rfl⟩

/-- Interrupted writes take nothing. -/
theorem offer_tallied (bytes : Bytes) (s : Tallied ω) :
    (writer.tallied.offer bytes s).2.flushes = s.flushes ∧
      match writer.tallied.offer bytes s with
      | (.ok n, s') => s'.taken = s.taken ++ bytes.take n
      | (.error _, s') => s'.taken = s.taken := by
  fun_induction Writer.offer writer.tallied bytes s with
  | case1 s n s₁ h =>
    have hwrite := write_tallied writer bytes s
    rwa [h] at hwrite
  | case2 s e s₁ h he ih =>
    have hwrite := write_tallied writer bytes s
    rw [h] at hwrite
    obtain ⟨hflushes, htaken⟩ := hwrite
    rwa [hflushes, htaken] at ih
  | case3 s e s₁ h he =>
    have hwrite := write_tallied writer bytes s
    rwa [h] at hwrite

/-- **All that is written is taken from the writer's answers**, and counts no flush. -/
theorem writeAll_tallied (bytes : Bytes) (out : Output (Tallied ω)) :
    let out' := Disk.left (writer.tallied.writeAll bytes out)
    (∃ taken, Took out out' taken) ∧ out'.state.flushes = out.state.flushes := by
  fun_induction Writer.writeAll writer.tallied bytes out with
  | case1 out => exact ⟨⟨[], Took.refl out⟩, rfl⟩
  | case2 out b rest e s h =>
    have hoffer := offer_tallied writer (b :: rest) out.state
    rw [h] at hoffer
    exact ⟨⟨[], by simp, by simpa using hoffer.2⟩, hoffer.1⟩
  | case3 out b rest s h =>
    have hoffer := offer_tallied writer (b :: rest) out.state
    rw [h] at hoffer
    exact ⟨⟨[], by simp, by simpa using hoffer.2⟩, hoffer.1⟩
  | case4 out b rest n s h ih =>
    have hoffer := offer_tallied writer (b :: rest) out.state
    rw [h] at hoffer
    obtain ⟨⟨taken, htook⟩, hflushes⟩ := ih
    have hfirst : Took out ⟨s, out.accepted ++ b :: rest.take n⟩ (b :: rest.take n) :=
      ⟨rfl, hoffer.2⟩
    exact ⟨⟨_, hfirst.trans htook⟩, hflushes.trans hoffer.1⟩

theorem writePieces_tallied (pieces : List Bytes) (out : Output (Tallied ω)) :
    let out' := Disk.left (writer.tallied.writePieces pieces out)
    (∃ taken, Took out out' taken) ∧ out'.state.flushes = out.state.flushes := by
  induction pieces generalizing out with
  | nil => exact ⟨⟨[], Took.refl out⟩, rfl⟩
  | cons piece rest ih =>
    have hpiece := writeAll_tallied writer piece out
    unfold Writer.writePieces
    cases hall : writer.tallied.writeAll piece out with
    | error e out₁ =>
      rw [hall] at hpiece
      exact hpiece
    | ok _ out₁ =>
      rw [hall] at hpiece
      obtain ⟨⟨taken, htook⟩, hflushes⟩ := hpiece
      obtain ⟨⟨more, hmore⟩, hflushes'⟩ := ih out₁
      exact ⟨⟨_, htook.trans hmore⟩, hflushes'.trans hflushes⟩

/-- **A folder's line is written with one flush more**, if nothing fails. -/
theorem announce_tallied (folder : TemplateFolder) (out : Output (Tallied ω)) :
    (∃ taken, Took out (Disk.left (Pipeline.announce writer.tallied folder out)) taken) ∧
      ∀ out', Pipeline.announce writer.tallied folder out = .ok () out' →
        out'.state.flushes = out.state.flushes + 1 := by
  have hpieces := writePieces_tallied writer (Pipeline.linePieces folder) out
  unfold Pipeline.announce
  cases hall : writer.tallied.writePieces (Pipeline.linePieces folder) out with
  | error e out₁ =>
    rw [hall] at hpieces
    exact ⟨hpieces.1, by rintro _ ⟨⟩⟩
  | ok _ out₁ =>
    rw [hall] at hpieces
    obtain ⟨⟨taken, htook⟩, hflushes⟩ := hpieces
    simp only [Writer.flushAll, Writer.tallied]
    cases writer.flush out₁.state.inner with
    | mk result inner =>
      cases result with
      | ok _ =>
        refine ⟨⟨taken, htook.accepted, htook.taken⟩, ?_⟩
        rintro _ ⟨⟩
        exact congrArg (· + 1) hflushes
      | error e => exact ⟨⟨taken, htook.accepted, htook.taken⟩, by rintro _ ⟨⟩⟩

variable (tools : Toolchain σ) (layout : Layout) (options : PackageOptions) (keepGoing : Bool)

theorem buildOne_took (folder : TemplateFolder) (report : PipelineReport)
    (run : Run σ (Tallied ω)) :
    ∃ taken, Took run.output (Disk.left (Pipeline.buildOne tools writer.tallied layout options
      keepGoing folder report run)).output taken := by
  have hline := (announce_tallied writer folder run.output).1
  unfold Pipeline.buildOne Pipeline.inOutput
  cases hout : Pipeline.announce writer.tallied folder run.output with
  | error e out =>
    rw [hout] at hline
    exact hline
  | ok _ out =>
    rw [hout] at hline
    simp only
    cases generate tools layout options folder run.world with
    | ok package world => exact hline
    | error e world => cases keepGoing <;> exact hline

/-- **A run remembers what its writer took.** -/
theorem buildOnto_took (folders : List TemplateFolder) (report : PipelineReport)
    (run : Run σ (Tallied ω)) :
    ∃ taken, Took run.output (Disk.left (Pipeline.buildOnto tools writer.tallied layout options
      keepGoing folders report run)).output taken := by
  induction folders generalizing report run with
  | nil => exact ⟨[], Took.refl _⟩
  | cons folder rest ih =>
    obtain ⟨taken, htook⟩ :=
      buildOne_took writer tools layout options keepGoing folder report run
    unfold Pipeline.buildOnto
    cases hone : Pipeline.buildOne tools writer.tallied layout options keepGoing folder report run with
    | error e run₁ =>
      rw [hone] at htook
      exact ⟨taken, htook⟩
    | ok report₁ run₁ =>
      rw [hone] at htook
      obtain ⟨more, hmore⟩ := ih report₁ run₁
      exact ⟨_, htook.trans hmore⟩

end Tallied

/-! ## 2. Bytes in order -/

/-- Bytes are written: what was taken of them was taken from the front, and all of them was taken if
    nothing failed. -/
def Writes {ω : Type} (act : EStateM IoError (Output ω) Unit) (bytes : Bytes) : Prop :=
  ∀ out, match act out with
    | .ok () out' => out'.accepted = out.accepted ++ bytes
    | .error _ out' => ∃ part, part <+: bytes ∧ out'.accepted = out.accepted ++ part

section Writes

variable {ω : Type} (writer : Writer ω)

theorem writeAll_writes (bytes : Bytes) : Writes (writer.writeAll bytes) bytes := by
  intro out
  fun_induction Writer.writeAll writer bytes out with
  | case1 out => simp
  | case2 out b rest e s h => exact ⟨[], List.nil_prefix, by simp⟩
  | case3 out b rest s h => exact ⟨[], List.nil_prefix, by simp⟩
  | case4 out b rest n s h ih =>
    -- what was taken and what is left make up the bytes
    have hsplit : b :: rest.take n ++ rest.drop n = b :: rest := by simp
    generalize writer.writeAll (rest.drop n) ⟨s, out.accepted ++ b :: rest.take n⟩ = x at ih ⊢
    cases x with
    | ok _ out' =>
      simp only at ih ⊢
      rw [ih, List.append_assoc, hsplit]
    | error e out' =>
      obtain ⟨part, hpart, heq⟩ := ih
      refine ⟨b :: rest.take n ++ part, ?_, by rw [heq, List.append_assoc]⟩
      rw [← hsplit]
      exact (List.prefix_append_right_inj _).2 hpart

theorem writePieces_writes (pieces : List Bytes) :
    Writes (writer.writePieces pieces) pieces.flatten := by
  induction pieces with
  | nil => exact fun out => by simp [Writer.writePieces, pure, EStateM.pure]
  | cons piece rest ih =>
    intro out
    have hpiece := writeAll_writes writer piece out
    unfold Writer.writePieces
    rw [List.flatten_cons]
    cases hall : writer.writeAll piece out with
    | error e out' =>
      rw [hall] at hpiece
      obtain ⟨part, hpart, heq⟩ := hpiece
      exact ⟨part, hpart.trans (List.prefix_append _ _), heq⟩
    | ok _ out₁ =>
      rw [hall] at hpiece
      simp only at hpiece
      have hrest := ih out₁
      revert hrest
      simp only
      cases writer.writePieces rest out₁ with
      | ok _ out' =>
        intro hrest
        simp only at hrest ⊢
        rw [hrest, hpiece, List.append_assoc]
      | error e out' =>
        rintro ⟨part, hpart, heq⟩
        exact ⟨piece ++ part, (List.prefix_append_right_inj _).2 hpart,
          by rw [heq, hpiece, List.append_assoc]⟩

/-- **A folder's line is written from the front.** A failed flush comes behind the whole line. -/
theorem announce_writes (folder : TemplateFolder) :
    Writes (Pipeline.announce writer folder) folder.line := by
  intro out
  have hpieces := writePieces_writes writer (Pipeline.linePieces folder) out
  rw [flatten_linePieces] at hpieces
  unfold Pipeline.announce
  cases hall : writer.writePieces (Pipeline.linePieces folder) out with
  | error e out' =>
    rw [hall] at hpieces
    exact hpieces
  | ok _ out₁ =>
    rw [hall] at hpieces
    simp only [Writer.flushAll] at hpieces ⊢
    cases writer.flush out₁.state with
    | mk result s =>
      cases result with
      | ok _ => exact hpieces
      | error e => exact ⟨folder.line, List.prefix_rfl, hpieces⟩

end Writes

/-! ## 3. One folder after the other -/

section Runs

variable {σ ω : Type} {tools : Toolchain σ} {writer : Writer ω} {layout : Layout}
  {options : PackageOptions} {keepGoing : Bool}

variable (tools writer layout options keepGoing) in
/-- A run over two lists is the run over the second behind the run over the first. -/
theorem buildOnto_append (front back : List TemplateFolder) (report : PipelineReport)
    (run : Run σ ω) :
    Pipeline.buildOnto tools writer layout options keepGoing (front ++ back) report run =
      match Pipeline.buildOnto tools writer layout options keepGoing front report run with
      | .error e run' => .error e run'
      | .ok report' run' =>
        Pipeline.buildOnto tools writer layout options keepGoing back report' run' := by
  induction front generalizing report run with
  | nil => rfl
  | cons folder rest ih =>
    simp only [List.cons_append, Pipeline.buildOnto]
    cases Pipeline.buildOne tools writer layout options keepGoing folder report run with
    | error e run' => rfl
    | ok report' run' => exact ih report' run'

variable (tools writer layout options keepGoing) in
/-- A folder leaves no more of its line than was taken, from the front. -/
theorem buildOne_writes (folder : TemplateFolder) (report : PipelineReport) (run : Run σ ω) :
    ∃ part, part <+: folder.line ∧ (Disk.left (Pipeline.buildOne tools writer layout options
      keepGoing folder report run)).output.accepted = run.output.accepted ++ part := by
  have hline := announce_writes writer folder run.output
  unfold Pipeline.buildOne Pipeline.inOutput
  cases hout : Pipeline.announce writer folder run.output with
  | error e out =>
    rw [hout] at hline
    exact hline
  | ok _ out =>
    rw [hout] at hline
    refine ⟨folder.line, List.prefix_rfl, ?_⟩
    simp only at hline ⊢
    rw [← hline]
    cases generate tools layout options folder run.world with
    | ok package world => rfl
    | error e world => cases keepGoing <;> rfl

theorem accepted_of_announce {folder : TemplateFolder} {out out' : Output ω}
    (h : Pipeline.announce writer folder out = .ok () out') :
    out'.accepted = out.accepted ++ folder.line := by
  have hline := announce_writes writer folder out
  rwa [h] at hline

variable (tools writer layout options keepGoing) in
/-- **What a run writes are lines, in order**, of which the last may be cut short. -/
theorem buildOnto_writes (folders : List TemplateFolder) (report : PipelineReport)
    (run : Run σ ω) :
    ∃ written, written <+: folders.flatMap TemplateFolder.line ∧
      (Disk.left (Pipeline.buildOnto tools writer layout options keepGoing folders report
        run)).output.accepted = run.output.accepted ++ written := by
  induction folders generalizing report run with
  | nil => exact ⟨[], List.nil_prefix, by simp [Pipeline.buildOnto, pure, EStateM.pure]⟩
  | cons folder rest ih =>
    rw [List.flatMap_cons]
    unfold Pipeline.buildOnto
    cases hone : Pipeline.buildOne tools writer layout options keepGoing folder report run with
    | error e run' =>
      obtain ⟨part, hpart, heq⟩ :=
        buildOne_writes tools writer layout options keepGoing folder report run
      rw [hone] at heq
      exact ⟨part, hpart.trans (List.prefix_append _ _), heq⟩
    | ok report₁ run₁ =>
      obtain ⟨written, hwritten, heq⟩ := ih report₁ run₁
      refine ⟨folder.line ++ written, (List.prefix_append_right_inj _).2 hwritten, ?_⟩
      rw [← List.append_assoc, ← accepted_of_announce (announce_of_buildOne hone)]
      exact heq

/-- **A run that reaches its end has written all lines.** -/
theorem accepted_of_buildOnto {folders : List TemplateFolder} {report report' : PipelineReport}
    {run run' : Run σ ω}
    (h : Pipeline.buildOnto tools writer layout options keepGoing folders report run =
      .ok report' run') :
    run'.output.accepted = run.output.accepted ++ folders.flatMap TemplateFolder.line := by
  induction folders generalizing report run with
  | nil =>
    cases h
    simp
  | cons folder rest ih =>
    unfold Pipeline.buildOnto at h
    split at h
    · cases h
    · rename_i report₁ run₁ hone
      rw [ih h, accepted_of_announce (announce_of_buildOne hone), List.flatMap_cons,
        List.append_assoc]

/-- **A run that reaches its end has flushed behind each line.** -/
theorem flushes_of_buildOnto {folders : List TemplateFolder} {report report' : PipelineReport}
    {run run' : Run σ (Tallied ω)}
    (h : Pipeline.buildOnto tools writer.tallied layout options keepGoing folders report run =
      .ok report' run') :
    run'.output.state.flushes = run.output.state.flushes + folders.length := by
  induction folders generalizing report run with
  | nil =>
    cases h
    rfl
  | cons folder rest ih =>
    unfold Pipeline.buildOnto at h
    split at h
    · cases h
    · rename_i report₁ run₁ hone
      rw [ih h, (announce_tallied writer folder run.output).2 _ (announce_of_buildOne hone),
        List.length_cons]
      omega

end Runs

/-! ## 4. Packages behind their lines -/

section Announcements

variable {σ ω : Type} (tools : Toolchain σ) (writer : Writer ω) (layout : Layout)
  (options : PackageOptions) (keepGoing : Bool)

/-- How a run comes to one of its folders, and what it ends with from there. -/
inductive ComesTo (run : Run σ (Tallied ω)) (before : List TemplateFolder)
    (folder : TemplateFolder) (after : List TemplateFolder)
    (ended : EStateM.Result PipelineError (Run σ (Tallied ω)) PipelineReport) : Prop where
  /-- It stopped at a folder before. -/
  | stopped {e : PipelineError} {run' : Run σ (Tallied ω)} :
      generateAll tools writer.tallied layout options keepGoing before run = .error e run' →
      ended = .error e run' → ComesTo run before folder after ended
  /-- The folder's line could not be written or flushed. The run stops, and leaves the files and
      the tools as they were behind the folders before. -/
  | cut {report : PipelineReport} {mid : Run σ (Tallied ω)} {e : IoError}
      {out : Output (Tallied ω)} {part : Bytes} :
      generateAll tools writer.tallied layout options keepGoing before run = .ok report mid →
      Pipeline.announce writer.tallied folder mid.output = .error e out →
      part <+: folder.line →
      Took run.output out (before.flatMap TemplateFolder.line ++ part) →
      ended = .error (.output e) ⟨mid.world, out⟩ → ComesTo run before folder after ended
  /-- All lines up to the folder's are written, each with a flush, and the run turns to the
      folder's package and from there to the folders after. -/
  | turns {report : PipelineReport} {mid : Run σ (Tallied ω)} {out : Output (Tallied ω)} :
      generateAll tools writer.tallied layout options keepGoing before run = .ok report mid →
      Pipeline.announce writer.tallied folder mid.output = .ok () out →
      Took run.output out ((before ++ [folder]).flatMap TemplateFolder.line) →
      out.state.flushes = run.output.state.flushes + (before ++ [folder]).length →
      (ended =
        match generate tools layout options folder mid.world with
        | .ok package world =>
          Pipeline.buildOnto tools writer.tallied layout options keepGoing after
            { report with generated := report.generated ++ [package] } ⟨world, out⟩
        | .error e world =>
          if keepGoing then
            Pipeline.buildOnto tools writer.tallied layout options keepGoing after
              { report with failed := report.failed ++ [⟨folder, e⟩] } ⟨world, out⟩
          else .error (.generate folder e) ⟨world, out⟩) →
      ComesTo run before folder after ended

/-- **A run turns to a package only behind its line.** -/
theorem generateAll_comesTo (before : List TemplateFolder) (folder : TemplateFolder)
    (after : List TemplateFolder) (run : Run σ (Tallied ω)) :
    ComesTo tools writer layout options keepGoing run before folder after
      (generateAll tools writer.tallied layout options keepGoing (before ++ folder :: after)
        run) := by
  have hended := buildOnto_append tools writer.tallied layout options keepGoing before
    (folder :: after) {} run
  cases hbefore : Pipeline.buildOnto tools writer.tallied layout options keepGoing before {} run with
  | error e run' => exact .stopped hbefore (by rw [generateAll, hended, hbefore])
  | ok report mid =>
    have haccepted := accepted_of_buildOnto hbefore
    have hline := announce_writes writer.tallied folder mid.output
    obtain ⟨lines, hlines⟩ :=
      buildOnto_took writer tools layout options keepGoing before {} run
    obtain ⟨last, hlast⟩ := (announce_tallied writer folder mid.output).1
    rw [hbefore] at hlines
    have htook := hlines.trans hlast
    cases hout : Pipeline.announce writer.tallied folder mid.output with
    | error e out =>
      rw [hout] at hline htook
      obtain ⟨part, hpart, heq⟩ := hline
      refine .cut hbefore hout hpart (htook.of_accepted ?_) ?_
      · rw [Disk.left_error, heq, haccepted, List.append_assoc]
      simp only [generateAll, hended, hbefore, Pipeline.buildOnto, Pipeline.buildOne,
        Pipeline.inOutput, hout]
    | ok _ out =>
      rw [hout] at hline htook
      have hflushes := (announce_tallied writer folder mid.output).2 out hout
      refine .turns hbefore hout (htook.of_accepted ?_) ?_ ?_
      · simp only at hline
        simp [hline, haccepted]
      · rw [hflushes, flushes_of_buildOnto hbefore, List.length_append, List.length_singleton]
        omega
      · simp only [generateAll, hended, hbefore, Pipeline.buildOnto, Pipeline.buildOne,
          Pipeline.inOutput, hout]
        cases generate tools layout options folder mid.world with
        | ok package world => rfl
        | error e world => cases keepGoing <;> rfl

/-- **What a run writes and what it builds keep step.** The bytes its writer took, by its answers and
    as the output remembers, are the lines of the folders, in order, up to where the writer stopped.
    The run turns to a folder's package when the lines up to the folder's are written and flushed,
    and a line that fails ends the run with nothing done for its folder or any behind. A run that
    reaches its end has written all lines, and reports each folder once, in order, as its attempt came
    to be built or to fail. Flushes are counted and what is taken is kept, which changes nothing else. -/
theorem generateAll_announces (folders : List TemplateFolder) (run : Run σ (Tallied ω)) :
    let ended := generateAll tools writer.tallied layout options keepGoing folders run
    let built := attempts tools layout (folders.map fun folder => (options, folder)) run.world
    Agree (fun a b => a.untallied = b) ended
        (generateAll tools writer layout options keepGoing folders run.untallied) ∧
      (∃ written, written <+: folders.flatMap TemplateFolder.line ∧
        Took run.output (Disk.left ended).output written) ∧
      (∀ before folder after, folders = before ++ folder :: after →
        ComesTo tools writer layout options keepGoing run before folder after ended) ∧
      ∀ report run', ended = .ok report run' →
        Took run.output run'.output (folders.flatMap TemplateFolder.line) ∧
        run'.output.state.flushes = run.output.state.flushes + folders.length ∧
        built.1.map Prod.fst = folders ∧ built.2 = run'.world ∧ built.1.Reports report ∧
          ∀ folder package, (folder, .ok package) ∈ built.1 → ∃ name, folder.Builds name ∧
            package = Package.report name (layout.package name options.entryPoint) := by
  obtain ⟨taken, htook⟩ := buildOnto_took writer tools layout options keepGoing folders {} run
  obtain ⟨written, hwritten, heq⟩ :=
    buildOnto_writes tools writer.tallied layout options keepGoing folders {} run
  refine ⟨buildOnto_erases (.refl tools) (tallied_erases writer) layout options keepGoing folders {}
    run, ⟨written, hwritten, htook.of_accepted heq⟩, ?_, fun report run' h => ?_⟩
  · rintro before folder after rfl
    exact generateAll_comesTo tools writer layout options keepGoing before folder after run
  · have hbuild : Pipeline.buildOnto tools writer.tallied layout options keepGoing folders {} run =
        .ok report run' := h
    rw [hbuild] at htook
    obtain ⟨hworld, hreports⟩ := buildOnto_attempts Course.Reports.nil hbuild
    refine ⟨htook.of_accepted (accepted_of_buildOnto hbuild), flushes_of_buildOnto hbuild,
      by simp [map_fst_attempts, Function.comp_def], hworld, hreports, fun folder package hmem => ?_⟩
    obtain ⟨_, name, hxs, hb, hpackage⟩ := exists_of_mem_attempts tools layout hmem
    obtain ⟨_, -, heq⟩ := List.mem_map.1 hxs
    cases heq
    exact ⟨name, hb, hpackage⟩

end Announcements

end TemplatePress
