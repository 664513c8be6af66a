import TemplatePress.CommandLine.Run
import TemplatePress.Proofs.Changes

/-!
# Records that change nothing

A toolchain or a writer may keep a record in its state, of what it is asked or of what it took, and
do the same otherwise. Then a run with it is the run without, once the record is erased. This file
fixes:

* `Agree`: two actions answer the same and leave related states;
* `Erases`: one action does what the other does in the state that a function leaves of its own.
  Actions one after the other hand this on (`Erases.step`);
* `Toolchain.Erases` and `Writer.Erases`: the same of all calls of a toolchain and of all that a
  writer is offered. From there it goes on to fetching (`fetchAll_erases`), packages
  (`generate_erases`), runs (`runPipelineBy_erases`) and the program (`runProgram_erases`);
* `logged_erases`: a log of the calls is such a record.
-/

namespace TemplatePress

/-! ## 1. Actions that agree -/

/-- Both actions succeed with one answer or fail with one error, and leave related states. -/
inductive Agree {ε σ τ α : Type} (R : σ → τ → Prop) :
    EStateM.Result ε σ α → EStateM.Result ε τ α → Prop where
  | ok (a : α) {s : σ} {t : τ} (h : R s t) : Agree R (.ok a s) (.ok a t)
  | error (e : ε) {s : σ} {t : τ} (h : R s t) : Agree R (.error e s) (.error e t)

namespace Agree

variable {ε σ τ α β : Type} {R R' : σ → τ → Prop} {x : EStateM.Result ε σ α}
  {y : EStateM.Result ε τ α}

theorem outcome (h : Agree R x y) : Disk.outcome y = Disk.outcome x := by
  cases h <;> rfl

theorem left (h : Agree R x y) : R (Disk.left x) (Disk.left y) := by
  cases h <;> assumption

theorem of_left (h : Agree R x y) (h' : R' (Disk.left x) (Disk.left y)) : Agree R' x y := by
  cases h with
  | ok a _ => exact .ok a h'
  | error e _ => exact .error e h'

/-- **Actions that agree, one after the other, agree.** What the first leaves may be related more
    closely than what both leave. -/
theorem bind_of {f : EStateM ε σ α} {g : EStateM ε τ α} {f' : α → EStateM ε σ β}
    {g' : α → EStateM ε τ β} {s : σ} {t : τ} (h : Agree R (f s) (g t))
    (hR : ∀ s t, R s t → R' s t) (h' : ∀ a s t, R s t → Agree R' (f' a s) (g' a t)) :
    Agree R' ((f >>= f') s) ((g >>= g') t) := by
  change Agree R' (EStateM.bind f f' s) (EStateM.bind g g' t)
  unfold EStateM.bind
  generalize f s = x, g t = y at h ⊢
  cases h with
  | ok a h => exact h' a _ _ h
  | error e h => exact .error e (hR _ _ h)

theorem bind {f : EStateM ε σ α} {g : EStateM ε τ α} {f' : α → EStateM ε σ β}
    {g' : α → EStateM ε τ β} {s : σ} {t : τ} (h : Agree R (f s) (g t))
    (h' : ∀ a s t, R s t → Agree R (f' a s) (g' a t)) : Agree R ((f >>= f') s) ((g >>= g') t) :=
  h.bind_of (fun _ _ => id) h'

end Agree

/-! ## 2. Erasing -/

/-- **One action does what the other does** in the state that a function leaves of its own. -/
def Erases {ε ρ τ α : Type} (f : ρ → τ) (x : EStateM ε ρ α) (y : EStateM ε τ α) : Prop :=
  ∀ s, Agree (fun a b => f a = b) (x s) (y (f s))

namespace Erases

variable {ε δ ρ τ α β : Type} {f : ρ → τ} {x : EStateM ε ρ α} {y : EStateM ε τ α}

theorem pure (a : α) : Erases f (pure a : EStateM ε ρ α) (pure a) :=
  fun _ => .ok a rfl

/-- What is left is left by the other. -/
theorem left (h : Erases f x y) (s : ρ) : f (Disk.left (x s)) = Disk.left (y (f s)) :=
  (h s).left

theorem bind (h : Erases f x y) {k : α → EStateM ε ρ β} {k' : α → EStateM ε τ β}
    (hk : ∀ a, Erases f (k a) (k' a)) : Erases f (x >>= k) (y >>= k') :=
  fun s => (h s).bind fun a s' _ heq => heq ▸ hk a s'

/-- **Both succeed with one answer, or fail with one error**, and the other leaves what is left
    erased. -/
theorem cases (h : Erases f x y) (s : ρ) :
    (∃ a s', x s = .ok a s' ∧ y (f s) = .ok a (f s')) ∨
      ∃ e s', x s = .error e s' ∧ y (f s) = .error e (f s') := by
  have hs := h s
  generalize x s = r, y (f s) = r' at hs ⊢
  cases hs with
  | ok a heq => exact Or.inl ⟨a, _, rfl, by rw [heq]⟩
  | error e heq => exact Or.inr ⟨e, _, rfl, by rw [heq]⟩

end Erases

/-! ## 3. Tools -/

/-- The world with what a function leaves of the state of its tools. -/
def World.mapTools {σ τ : Type} (f : σ → τ) (w : World σ) : World τ :=
  ⟨w.files, f w.tools⟩

/-- Tools that do what others do, and keep besides what a function erases. -/
def Toolchain.Erases {σ τ : Type} (f : σ → τ) (tools : Toolchain σ) (tools' : Toolchain τ) : Prop :=
  ∀ call, TemplatePress.Erases (World.mapTools f) (tools.run call) (tools'.run call)

theorem Toolchain.Erases.refl {σ : Type} (tools : Toolchain σ) : tools.Erases id tools := by
  intro call w
  show Agree (fun a b => World.mapTools id a = b) (tools.run call w) (tools.run call w)
  cases tools.run call w with
  | ok a w' => exact .ok a rfl
  | error e w' => exact .error e rfl

section Tools

variable {σ τ : Type} {f : σ → τ} {tools : Toolchain σ} {tools' : Toolchain τ}
  (h : tools.Erases f tools')

/-- What acts on files does not see the tools. -/
theorem onFiles_erases {ε α : Type} (wrap : IoError → ε) (act : Disk α) :
    Erases (World.mapTools f) (World.onFiles wrap act) (World.onFiles wrap act) := by
  intro w
  simp only [World.onFiles, World.mapTools]
  cases act w.files with
  | ok a fs => exact .ok a rfl
  | error e fs => exact .error _ rfl

include h

theorem ask_erases (call : ToolCall) (wrap : ToolError → PackageError) :
    Erases (World.mapTools f) (Package.ask tools call wrap) (Package.ask tools' call wrap) := by
  intro w
  unfold Package.ask
  rcases (h call).cases w with ⟨_, w₁, hcall, hcall'⟩ | ⟨e, w₁, hcall, hcall'⟩ <;>
    rw [hcall, hcall']
  · exact .ok () rfl
  · exact .error _ rfl

variable (layout : Layout)

theorem fill_erases (options : PackageOptions) (folder : Path) (paths : PackagePaths) :
    Erases (World.mapTools f) (Package.fill tools layout options folder paths)
      (Package.fill tools' layout options folder paths) :=
  (ask_erases h _ _).bind fun _ => (onFiles_erases _ _).bind fun _ =>
    (ask_erases h _ _).bind fun _ => ask_erases h _ _

/-- **Building a package.** -/
theorem generate_erases (options : PackageOptions) (folder : TemplateFolder) :
    Erases (World.mapTools f) (generate tools layout options folder)
      (generate tools' layout options folder) := by
  intro w
  unfold generate
  cases folder.name? with
  | none => exact .error _ rfl
  | some name =>
    simp only
    split
    · exact .error _ rfl
    · let paths := layout.package name options.entryPoint
      have hprepare : Erases (World.mapTools f)
          (World.onFiles (.prepare paths.dir) (Package.prepare paths.dir) :
            EStateM PackageError (World σ) Unit)
          (World.onFiles (.prepare paths.dir) (Package.prepare paths.dir)) := onFiles_erases _ _
      rcases hprepare.cases w with ⟨_, w₁, hdone, hdone'⟩ | ⟨e, w₁, hdone, hdone'⟩ <;>
        simp only [paths] at hdone hdone' <;> simp only [hdone, hdone']
      case inr => exact .error e rfl
      rcases (fill_erases h layout options folder.path paths).cases w₁ with
        ⟨_, w₂, hfill, hfill'⟩ | ⟨e, w₂, hfill, hfill'⟩ <;>
        simp only [paths] at hfill hfill' <;> simp only [hfill, hfill']
      · exact .ok _ rfl
      · exact .error e rfl

theorem checkoutReference_erases (r : RepositoryRef) (clone : Path) :
    Erases (World.mapTools f) (checkoutReference tools r clone)
      (checkoutReference tools' r clone) := by
  intro w
  cases hreference : r.reference with
  | none =>
    simp only [checkoutReference, hreference]
    exact .ok () rfl
  | some reference =>
    simp only [checkoutReference, hreference]
    rcases (h (.checkout clone reference)).cases w with
      ⟨_, w₁, hcall, hcall'⟩ | ⟨e, w₁, hcall, hcall'⟩ <;> rw [hcall, hcall']
    · exact .ok () rfl
    · exact .error _ rfl

theorem fetch_erases (host : String) (r : RepositoryRef) :
    Erases (World.mapTools f) (fetch tools layout host r) (fetch tools' layout host r) := by
  intro w
  unfold fetch
  split
  case isFalse => exact .error _ rfl
  have hremove : Erases (World.mapTools f)
      (World.onFiles (.clean (layout.cloneDir r))
        (FileSystem.removeIfPresent (layout.cloneDir r)) : EStateM FetchError (World σ) Unit)
      (World.onFiles (.clean (layout.cloneDir r))
        (FileSystem.removeIfPresent (layout.cloneDir r))) := onFiles_erases _ _
  rcases hremove.cases w with ⟨_, w₁, hclean, hclean'⟩ | ⟨e, w₁, hclean, hclean'⟩ <;>
    simp only [hclean, hclean']
  case inr => exact .error e rfl
  rcases (h (.clone (r.cloneUrl host) (layout.cloneDir r))).cases w₁ with
    ⟨_, w₂, hclone, hclone'⟩ | ⟨e, w₂, hclone, hclone'⟩ <;> simp only [hclone, hclone']
  case inr => exact .error _ rfl
  rcases (checkoutReference_erases h r (layout.cloneDir r)).cases w₂ with
    ⟨_, w₃, hcheckout, hcheckout'⟩ | ⟨e, w₃, hcheckout, hcheckout'⟩ <;>
    simp only [hcheckout, hcheckout']
  · exact .ok _ rfl
  · exact .error e rfl

/-- **Fetching repositories.** -/
theorem fetchAll_erases (host : String) (repositories : List RepositoryRef) :
    Erases (World.mapTools f) (fetchAll tools layout host repositories)
      (fetchAll tools' layout host repositories) := by
  induction repositories with
  | nil => exact .pure ()
  | cons r rest ih =>
    intro w
    unfold fetchAll
    rcases (fetch_erases h layout host r).cases w with
      ⟨_, w₁, hfetch, hfetch'⟩ | ⟨e, w₁, hfetch, hfetch'⟩ <;> rw [hfetch, hfetch']
    · exact ih w₁
    · exact .error e rfl

end Tools

/-! ## 4. Writers -/

/-- The output with what a function leaves of the state of its writer. -/
def Output.mapState {ω ψ : Type} (g : ω → ψ) (out : Output ω) : Output ψ :=
  ⟨g out.state, out.accepted⟩

/-- A writer that does what another does, and keeps besides what a function erases. -/
structure Writer.Erases {ω ψ : Type} (g : ω → ψ) (writer : Writer ω) (writer' : Writer ψ) : Prop where
  write : ∀ bytes s,
    writer'.write bytes (g s) = ((writer.write bytes s).1, g (writer.write bytes s).2)
  flush : ∀ s, writer'.flush (g s) = ((writer.flush s).1, g (writer.flush s).2)

theorem Writer.Erases.refl {ω : Type} (writer : Writer ω) : writer.Erases id writer :=
  ⟨fun _ _ => rfl, fun _ => rfl⟩

section Writers

variable {ω ψ : Type} {g : ω → ψ} {writer : Writer ω} {writer' : Writer ψ}
  (h : writer.Erases g writer')

include h

theorem offer_erases (bytes : Bytes) (s : ω) :
    writer'.offer bytes (g s) = ((writer.offer bytes s).1, g (writer.offer bytes s).2) := by
  fun_induction Writer.offer writer bytes s with
  | case1 s n s₁ hwrite =>
    have hother := h.write bytes s
    rw [hwrite] at hother
    rw [Writer.offer, hother]
  | case2 s e s₁ hwrite he ih =>
    have hother := h.write bytes s
    rw [hwrite] at hother
    rw [Writer.offer, hother]
    simpa only [he, dif_pos] using ih
  | case3 s e s₁ hwrite he =>
    have hother := h.write bytes s
    rw [hwrite] at hother
    rw [Writer.offer, hother]
    simp [he]

/-- **All bytes are written alike.** -/
theorem writeAll_erases (bytes : Bytes) :
    Erases (Output.mapState g) (writer.writeAll bytes) (writer'.writeAll bytes) := by
  intro out
  fun_induction Writer.writeAll writer bytes out with
  | case1 out =>
    rw [Writer.writeAll]
    exact .ok () rfl
  | case2 out b rest e s hoffer =>
    have hother := offer_erases h (b :: rest) out.state
    rw [hoffer] at hother
    rw [Writer.writeAll, show (out.mapState g).state = g out.state from rfl, hother]
    exact .error e rfl
  | case3 out b rest s hoffer =>
    have hother := offer_erases h (b :: rest) out.state
    rw [hoffer] at hother
    rw [Writer.writeAll, show (out.mapState g).state = g out.state from rfl, hother]
    exact .error _ rfl
  | case4 out b rest n s hoffer ih =>
    have hother := offer_erases h (b :: rest) out.state
    rw [hoffer] at hother
    rw [Writer.writeAll, show (out.mapState g).state = g out.state from rfl, hother]
    exact ih

theorem writePieces_erases (pieces : List Bytes) :
    Erases (Output.mapState g) (writer.writePieces pieces) (writer'.writePieces pieces) := by
  induction pieces with
  | nil => exact .pure ()
  | cons piece rest ih =>
    intro out
    unfold Writer.writePieces
    rcases (writeAll_erases h piece).cases out with
      ⟨_, out₁, hpiece, hpiece'⟩ | ⟨e, out₁, hpiece, hpiece'⟩ <;> rw [hpiece, hpiece']
    · exact ih out₁
    · exact .error e rfl

/-- **A folder's line is written and flushed alike.** -/
theorem announce_erases (folder : TemplateFolder) :
    Erases (Output.mapState g) (Pipeline.announce writer folder)
      (Pipeline.announce writer' folder) := by
  intro out
  unfold Pipeline.announce
  rcases (writePieces_erases h (Pipeline.linePieces folder)).cases out with
    ⟨_, out₁, hline, hline'⟩ | ⟨e, out₁, hline, hline'⟩ <;> rw [hline, hline']
  case inr => exact .error e rfl
  simp only [Writer.flushAll, Output.mapState, h.flush out₁.state]
  cases writer.flush out₁.state with
  | mk result s =>
    cases result with
    | ok _ => exact .ok () rfl
    | error e => exact .error e rfl

end Writers

/-! ## 5. Runs -/

/-- The run with what two functions leave of the states of its tools and of its writer. -/
def Run.mapStates {σ τ ω ψ : Type} (f : σ → τ) (g : ω → ψ) (run : Run σ ω) : Run τ ψ :=
  ⟨run.world.mapTools f, run.output.mapState g⟩

section Runs

variable {σ τ ω ψ : Type} {f : σ → τ} {g : ω → ψ} {tools : Toolchain σ} {tools' : Toolchain τ}
  {writer : Writer ω} {writer' : Writer ψ} (ht : tools.Erases f tools')
  (hw : writer.Erases g writer')

include ht hw

theorem buildOne_erases (layout : Layout) (options : PackageOptions) (keepGoing : Bool)
    (folder : TemplateFolder) (report : PipelineReport) :
    Erases (Run.mapStates f g)
      (Pipeline.buildOne tools writer layout options keepGoing folder report)
      (Pipeline.buildOne tools' writer' layout options keepGoing folder report) := by
  intro run
  unfold Pipeline.buildOne Pipeline.inOutput
  rcases (announce_erases hw folder).cases run.output with
    ⟨_, out, hline, hline'⟩ | ⟨e, out, hline, hline'⟩ <;>
    simp only [Run.mapStates, hline, hline']
  case inr => exact .error _ rfl
  rcases (generate_erases ht layout options folder).cases run.world with
    ⟨package, w, hg, hg'⟩ | ⟨e, w, hg, hg'⟩ <;> simp only [hg, hg']
  · exact .ok _ rfl
  · cases keepGoing with
    | true => exact .ok _ rfl
    | false => exact .error _ rfl

/-- **Building folders.** -/
theorem buildOnto_erases (layout : Layout) (options : PackageOptions) (keepGoing : Bool)
    (folders : List TemplateFolder) (report : PipelineReport) :
    Erases (Run.mapStates f g)
      (Pipeline.buildOnto tools writer layout options keepGoing folders report)
      (Pipeline.buildOnto tools' writer' layout options keepGoing folders report) := by
  induction folders generalizing report with
  | nil => exact .pure report
  | cons folder rest ih =>
    intro run
    unfold Pipeline.buildOnto
    rcases (buildOne_erases ht hw layout options keepGoing folder report).cases run with
      ⟨report₁, run₁, hone, hone'⟩ | ⟨e, run₁, hone, hone'⟩ <;> rw [hone, hone']
    · exact ih report₁ run₁
    · exact .error e rfl

/-- **A whole run**, with any way of listing directories. -/
theorem runPipelineBy_erases (list : FileSystem → Discovery.Listing) (config : Config) :
    Erases (Run.mapStates f g) (runPipelineBy list tools writer config)
      (runPipelineBy list tools' writer' config) := by
  intro run
  unfold runPipelineBy Pipeline.inWorld
  rcases (fetchAll_erases ht ⟨config.templatesRoot⟩ config.host config.repositories).cases
    run.world with ⟨_, w, hfetch, hfetch'⟩ | ⟨e, w, hfetch, hfetch'⟩ <;>
    simp only [Run.mapStates, hfetch, hfetch']
  case inr => exact .error _ rfl
  simp only [World.mapTools]
  split
  · exact .error _ rfl
  · rename_i folders _
    exact buildOnto_erases ht hw _ _ _ folders {} { run with world := w }

omit ht in
/-- **Listing folders.** -/
theorem list_erases (folders : List TemplateFolder) :
    Erases (Run.mapStates f g) (Request.list writer folders : EStateM RunError (Run σ ω) Unit)
      (Request.list writer' folders) := by
  induction folders with
  | nil => exact .pure ()
  | cons folder rest ih =>
    intro run
    unfold Request.list
    rcases (writePieces_erases hw (Pipeline.linePieces folder)).cases run.output with
      ⟨_, out, hline, hline'⟩ | ⟨e, out, hline, hline'⟩ <;>
      simp only [Run.mapStates, hline, hline']
    · exact ih { run with output := out }
    · exact .error _ rfl

end Runs

section Program

variable {σ τ ω ψ : Type} {f : σ → τ} {g : ω → ψ} {toolchain : ToolsConfig → Toolchain σ}
  {toolchain' : ToolsConfig → Toolchain τ} {writer : Writer ω} {writer' : Writer ψ}
  (ht : ∀ settings, (toolchain settings).Erases f (toolchain' settings))
  (hw : writer.Erases g writer') (env : Environment)

include ht hw

theorem perform_erases (request : Request) :
    Erases (Run.mapStates f g) (request.perform toolchain writer env)
      (request.perform toolchain' writer' env) := by
  intro run
  unfold Request.perform
  simp only [show (run.mapStates f g).world.files = run.world.files from rfl]
  cases request.settings run.world.files env with
  | error e => exact .error _ rfl
  | ok config =>
    simp only
    cases request.task with
    | generate =>
      simp only [Request.generateAll]
      rcases (runPipelineBy_erases (ht config.tools) hw (fun fs => fs.readDirectory) config).cases
        run with ⟨report, run₁, hrun, hrun'⟩ | ⟨e, run₁, hrun, hrun'⟩ <;>
        simp only [runPipeline, hrun, hrun']
      · split
        · exact .ok () rfl
        · exact .error _ rfl
      · exact .error _ rfl
    | discover root =>
      simp only [Request.discoverAll, show (run.mapStates f g).world.files = run.world.files from rfl]
      split
      · exact .error _ rfl
      · exact list_erases hw _ run

/-- **A run of the program** ends alike. -/
theorem runProgram_erases (arguments : List Bytes) (run : Run σ ω) :
    let ended := runProgram toolchain writer env arguments run
    runProgram toolchain' writer' env arguments (run.mapStates f g) =
      (ended.1, ended.2.mapStates f g) := by
  unfold runProgram
  split
  · rename_i text _
    rcases (writeAll_erases hw (Text.Utf8.bytes text)).cases run.output with
      ⟨_, out, hshown, hshown'⟩ | ⟨e, out, hshown, hshown'⟩ <;>
      simp only [Run.mapStates, hshown, hshown']
  · rfl
  · rename_i request _
    rcases (perform_erases ht hw env request).cases run with
      ⟨_, run₁, hrun, hrun'⟩ | ⟨e, run₁, hrun, hrun'⟩ <;> simp only [hrun, hrun']

end Program

/-! ## 6. Logs -/

/-- The world without the log of the calls. -/
def World.unlogged {σ : Type} (w : World (Logged σ)) : World σ :=
  ⟨w.files, w.tools.inner⟩

/-- The run without the log of the calls. -/
def Run.unlogged {σ ω : Type} (run : Run (Logged σ) ω) : Run σ ω :=
  ⟨run.world.unlogged, run.output⟩

/-- **A log of the calls changes nothing else.** -/
theorem logged_erases {σ : Type} (tools : Toolchain σ) :
    tools.logged.Erases Logged.inner tools := by
  intro call w
  simp only [Toolchain.logged, World.mapTools]
  cases tools.run call ⟨w.files, w.tools.inner⟩ with
  | ok _ w' => exact .ok () rfl
  | error e w' => exact .error e rfl

end TemplatePress
