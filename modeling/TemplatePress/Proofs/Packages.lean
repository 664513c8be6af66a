import TemplatePress.Package
import TemplatePress.Proofs.Copying
import TemplatePress.Toolchain.Faults
import TemplatePress.Toolchain.Rehearsal

/-!
# What building a package does

* `Rehearses`: a toolchain whose calls do what a rehearsal does, or fail. Faults of any kind at any
  call keep that (`rehearses_withFaults`);
* the names in a package and of a package;
* preparing leaves an empty directory (`prepare_hosts`), and each step that fills it touches one
  entry (`perform_copyTree_grows`, `perform_compile_grows`, `perform_rasterize_grows`);
* `generate_framed`: building touches the package's place, and adds the directories missing above;
* what stands there afterwards: all four entries if the package is built (`generate_ok_filled`), and
  no preview if it is not (`generate_error_noPreview`).
-/

namespace TemplatePress

open FileSystem

/-! ## 1. Toolchains that rehearse -/

section Bind

variable {ε σ α β : Type} {x : EStateM ε σ α} {f : α → EStateM ε σ β} {s s' : σ}

theorem bind_eq_ok {b : β} :
    (x >>= f) s = .ok b s' ↔ ∃ a s₁, x s = .ok a s₁ ∧ f a s₁ = .ok b s' := by
  change EStateM.bind x f s = _ ↔ _
  unfold EStateM.bind
  cases x s with
  | ok a s₁ => simp [and_assoc]
  | error e s₁ => simp

theorem bind_eq_error {e : ε} :
    (x >>= f) s = .error e s' ↔
      x s = .error e s' ∨ ∃ a s₁, x s = .ok a s₁ ∧ f a s₁ = .error e s' := by
  change EStateM.bind x f s = _ ↔ _
  unfold EStateM.bind
  cases x s with
  | ok a s₁ => simp [and_assoc]
  | error e s₁ => simp

/-- What the first action leaves holding and the second keeps holds of what both leave. -/
theorem bind_left {P : σ → Prop} (hx : P (Disk.left (x s)))
    (hf : ∀ a s₁, P s₁ → P (Disk.left (f a s₁))) : P (Disk.left ((x >>= f) s)) := by
  change P (Disk.left (EStateM.bind x f s))
  unfold EStateM.bind
  cases h : x s with
  | ok a s₁ =>
    rw [h] at hx
    exact hf a s₁ hx
  | error e s₁ =>
    rw [h] at hx
    exact hx

end Bind

/-- A call that succeeds does what the rehearsal does. A call that fails leaves the files as they
    are, or as the rehearsal leaves them when it fails. -/
structure Toolchain.Rehearses {σ : Type} (t : Toolchain σ) (r : Rehearsal) : Prop where
  ok : ∀ call w w', t.run call w = .ok () w' → r.perform call w.files = .ok () w'.files
  error : ∀ call w e w', t.run call w = .error e w' →
    w'.files = w.files ∨ ∃ e', r.perform call w.files = .error e' w'.files

theorem rehearses_toolchain (r : Rehearsal) : r.toolchain.Rehearses r := by
  refine ⟨fun call w w' h => ?_, fun call w e w' h => ?_⟩ <;>
    simp only [Rehearsal.toolchain] at h <;> split at h <;> cases h
  · rename_i files heq
    exact heq
  · rename_i files heq
    exact Or.inr ⟨e, heq⟩

/-- **Whatever calls fail besides, the rest is done as rehearsed.** -/
theorem rehearses_withFaults {σ : Type} {t : Toolchain σ} {r : Rehearsal} (ht : t.Rehearses r)
    (faults : List Fault) : (t.withFaults faults).Rehearses r := by
  refine ⟨fun call w w' h => ?_, fun call w e w' h => ?_⟩ <;>
    simp only [Toolchain.withFaults] at h <;> split at h
  · cases h
  · split at h <;> cases h
    rename_i w₁ heq
    exact ht.ok call _ w₁ heq
  · cases h
    exact Or.inl rfl
  · split at h <;> cases h
    rename_i w₁ heq
    exact ht.error call _ e w₁ heq

/-- What holds of the files before a call and of what the rehearsal leaves holds of what the call
    leaves. -/
theorem Toolchain.Rehearses.left {σ : Type} {t : Toolchain σ} {r : Rehearsal} (ht : t.Rehearses r)
    {P : FileSystem → Prop} {call : ToolCall} {w : World σ} (hkept : P w.files)
    (hdone : P (Disk.left (r.perform call w.files))) : P (Disk.left (t.run call w)).files := by
  cases h : t.run call w with
  | ok _ w' =>
    rw [ht.ok call w w' h] at hdone
    exact hdone
  | error e w' =>
    rcases ht.error call w e w' h with heq | ⟨e', heq⟩
    · rw [Disk.left_error, heq]
      exact hkept
    · rw [heq] at hdone
      exact hdone

/-! ## 2. Names -/

namespace Package

/-- The name of the template's source in a package. -/
def sourceName : Name := Text.Utf8.bytes "Typst"

/-- The name of the metadata in a package. -/
def metadataName : Name := Text.Utf8.bytes "Serifian.plist"

/-- The name of the compiled document in a package. -/
def documentName : Name := Text.Utf8.bytes "preview.pdf"

/-- The name of the preview in a package. -/
def previewName : Name := Text.Utf8.bytes "preview.jpg"

/-- The names of the entries of a package. -/
def entryNames : List Name := [sourceName, metadataName, documentName, previewName]

/-- The name of a template's package. -/
def dirName (name : Name) : Name := name ++ Text.Utf8.bytes ".sr"

theorem dirName_injective : Function.Injective dirName :=
  fun _ _ h => List.append_cancel_right h

/-- **The package of an ordinary name has an ordinary name.** -/
theorem isOrdinary_dirName {name : Name} (h : Name.isOrdinary name = true) :
    Name.isOrdinary (dirName name) = true := by
  obtain ⟨hne, -, -, hsep⟩ := Name.isOrdinary_iff.1 h
  have hlen : 3 < (dirName name).length := by
    have := List.length_pos_iff.2 hne
    simp only [dirName, List.length_append, show (Text.Utf8.bytes ".sr").length = 3 from rfl]
    omega
  have hlong : ∀ short : Name, short.length ≤ 3 → dirName name ≠ short := by
    rintro short hshort rfl
    omega
  refine Name.isOrdinary_iff.2 ⟨hlong [] (by decide), hlong _ (by decide), hlong _ (by decide), ?_⟩
  rw [dirName, List.mem_append, not_or]
  exact ⟨hsep, by decide⟩

end Package

theorem isOrdinary_of_name? {folder : TemplateFolder} {name : Name}
    (h : folder.name? = some name) : Name.isOrdinary name = true := by
  unfold TemplateFolder.name? Path.fileName at h
  split at h
  · rename_i n hlast
    cases h
    exact Path.written_components _ _ (List.mem_of_mem_getLast? hlast)
  · cases h

/-! ## 3. Preparing -/

section Prepare

variable {fs fs' : FileSystem} {p : Path} {dir : Location} {n : Name}

/-- What stands at a package's place once it is prepared. -/
structure Prepared (fs : FileSystem) (p : Path) (dir : Location) (n : Name) : Prop where
  leads : fs.Leads p dir
  check : nameCheck p n = .ok ()
  directory : fs.at? (dir ++ [n]) = some .directory
  empty : ∀ ns, ns ≠ [] → fs.at? (dir ++ [n] ++ ns) = none

theorem Prepared.inside (h : Prepared fs p dir n) (hn : Name.isOrdinary n = true) :
    fs.Leads (p.join ⟨n⟩) (dir ++ [n]) :=
  h.leads.join hn (length_le_of_nameCheck h.check) h.directory

theorem Prepared.free (h : Prepared fs p dir n) : fs.LinkFree (dir ++ [n]) :=
  linkFree_of_empty (by simp [h.directory]) h.empty

/-- **Preparing touches the place only, and leaves an empty directory there.** -/
theorem prepare_hosts (h : Hosts fs (Below (dir ++ [n])) p dir) (hn : Name.isOrdinary n = true) :
    Framed (dir ++ [n]) fs (Disk.left (Package.prepare (p.join ⟨n⟩) fs)) ∧
      ∀ fs', Package.prepare (p.join ⟨n⟩) fs = .ok () fs' → Prepared fs' p dir n := by
  unfold Package.prepare
  have hkept := kept_prune fs (dir ++ [n])
  have hnone := at?_prune_self fs (dir ++ [n]) (by simp)
  rcases removeIfPresent_hosts h hn with heq | ⟨e, heq⟩ <;> simp only [heq]
  · obtain ⟨hadds, hok⟩ := makeDirectories_hosts (h.of_framed (fun _ => id) hkept.framed) hn hnone
    refine ⟨hkept.framed.trans hadds.framed, fun fs' hm => ?_⟩
    obtain ⟨hl, hc, hdir⟩ := hok fs' hm
    rw [hm, Disk.left_ok] at hadds
    refine ⟨hl, hc, hdir, fun ns hns => ?_⟩
    rw [hadds.below hns]
    exact at?_append_eq_none (by simp [hnone]) hns
  · exact ⟨Framed.refl _ _, fun fs' hm => by cases hm⟩

/-- Where a directory stands at the place, preparing succeeds. -/
theorem exists_prepare_eq_ok (h : Hosts fs (Below (dir ++ [n])) p dir)
    (hn : Name.isOrdinary n = true) (hl : fs.Leads p dir) (hc : nameCheck p n = .ok ()) :
    ∃ fs', Package.prepare (p.join ⟨n⟩) fs = .ok () fs' := by
  have hs := h.steady hl
  have hnone := at?_prune_self fs (dir ++ [n]) (by simp)
  refine ⟨(fs.prune (dir ++ [n])).put dir n .directory, ?_⟩
  simp only [Package.prepare, removeIfPresent_join hs hn hc,
    makeDirectories_join_none (hs _ (sameOutside_prune fs _)) hn hc hnone]

end Prepare

/-! ## 4. Filling -/

-- the proofs below share these equations, which are derived here once and not in each of them
attribute [local simp] Rehearsal.perform Package.fill

section Perform

variable {fs : FileSystem} {p : Path} {dir : Location} {n : Name} (hl : fs.Leads p dir)
  (hf : fs.LinkFree dir) (hn : Name.isOrdinary n = true) (r : Rehearsal)

include hl hf hn

theorem perform_copyTree_grows (source : Path) :
    Grows (dir ++ [n]) fs (Disk.left (r.perform (.copyTree source (p.join ⟨n⟩)) fs)) := by
  have hg := copyLevels_grows pathLimit fs source p dir n hl hn (hf.below [n])
  simp only [Rehearsal.perform, copyTree]
  split <;> rename_i heq <;> rw [heq] at hg <;> exact hg

theorem writeFile_grows {fs' : FileSystem} {content : Bytes}
    (h : fs.writeFile (p.join ⟨n⟩) content = .ok fs') : Grows (dir ++ [n]) fs fs' := by
  obtain ⟨_, _, hg, _⟩ := writeFile_join_ok hl hn (hf.below [n]).self h
  exact hg

theorem perform_compile_grows (source : Path) :
    Grows (dir ++ [n]) fs (Disk.left (r.perform (.compile source (p.join ⟨n⟩)) fs)) := by
  simp only [Rehearsal.perform]
  split
  · exact Grows.refl _ _
  · split
    · exact Grows.refl _ _
    · split
      · rename_i fs' h
        exact writeFile_grows hl hf hn h
      · exact Grows.refl _ _

theorem perform_rasterize_grows (document : Path) (page dpi : Nat) :
    Grows (dir ++ [n]) fs (Disk.left (r.perform (.rasterize document page dpi (p.join ⟨n⟩)) fs)) := by
  simp only [Rehearsal.perform]
  split
  · split
    · rename_i fs' h
      exact writeFile_grows hl hf hn h
    · exact Grows.refl _ _
  · exact Grows.refl _ _

end Perform

/-- A document that cannot be compiled leaves the files as they are. -/
theorem perform_compile_error {r : Rehearsal} {fs fs' : FileSystem} {source output : Path}
    {e : ToolError} (h : r.perform (.compile source output) fs = .error e fs') : fs' = fs := by
  simp only [Rehearsal.perform] at h
  split at h
  · cases h
    rfl
  · split at h
    · cases h
      rfl
    · split at h <;> cases h
      rfl

/-- A page that cannot be drawn leaves the files as they are. -/
theorem perform_rasterize_error {r : Rehearsal} {fs fs' : FileSystem} {document output : Path}
    {page dpi : Nat} {e : ToolError}
    (h : r.perform (.rasterize document page dpi output) fs = .error e fs') : fs' = fs := by
  simp only [Rehearsal.perform] at h
  split at h
  · split at h <;> cases h
    rfl
  · cases h
    rfl

section PerformOk

variable {r : Rehearsal} {fs fs' : FileSystem} {source document output : Path} {page dpi : Nat}

theorem copyTree_of_perform (h : r.perform (.copyTree source output) fs = .ok () fs') :
    FileSystem.copyTree source output fs = .ok () fs' := by
  simp only [Rehearsal.perform] at h
  split at h <;> cases h
  assumption

/-- What is compiled could be read. -/
theorem writeFile_of_perform_compile (h : r.perform (.compile source output) fs = .ok () fs') :
    ∃ text, fs.readText source = .ok text ∧
      fs.writeFile output (Rehearsal.compiled text) = .ok fs' := by
  simp only [Rehearsal.perform] at h
  split at h
  · cases h
  · rename_i text hread
    split at h
    · cases h
    · split at h <;> cases h
      exact ⟨text, hread, by assumption⟩

theorem writeFile_of_perform_rasterize
    (h : r.perform (.rasterize document page dpi output) fs = .ok () fs') :
    fs.writeFile output (Rehearsal.drawn page dpi) = .ok fs' := by
  simp only [Rehearsal.perform] at h
  split at h
  · split at h <;> cases h
    assumption
  · cases h

end PerformOk

/-- The kinds of the calls that a build makes, each at most once. -/
def buildKinds : List ToolCall.Kind := [.copyTree, .compile, .rasterize]

section Fill

variable {σ : Type} {tools : Toolchain σ} {layout : Layout} {options : PackageOptions}
  {folder : Path} {paths : PackagePaths} {w w' : World σ}

theorem ask_eq_ok {call : ToolCall} {wrap : ToolError → PackageError} {u : Unit} :
    Package.ask tools call wrap w = .ok u w' ↔ tools.run call w = .ok () w' := by
  unfold Package.ask
  split <;> rename_i heq <;> simp [heq]

theorem ask_eq_error {call : ToolCall} {wrap : ToolError → PackageError} {e : PackageError} :
    Package.ask tools call wrap w = .error e w' ↔
      ∃ e', tools.run call w = .error e' w' ∧ e = wrap e' := by
  unfold Package.ask
  split <;> rename_i heq <;> simp [heq]
  exact ⟨fun ⟨h, h'⟩ => ⟨h', h.symm⟩, fun ⟨h, h'⟩ => ⟨h'.symm, h⟩⟩

theorem ask_left (call : ToolCall) (wrap : ToolError → PackageError) :
    Disk.left (Package.ask tools call wrap w) = Disk.left (tools.run call w) := by
  unfold Package.ask
  split <;> rename_i heq <;> rw [heq] <;> rfl

theorem onFiles_left {ε α : Type} (wrap : IoError → ε) (act : Disk α) :
    (Disk.left (World.onFiles wrap act w)).files = Disk.left (act w.files) := by
  unfold World.onFiles
  split <;> rename_i heq <;> rw [heq] <;> rfl

theorem onFiles_change_eq_ok {f : FileSystem → Except IoError FileSystem}
    {wrap : IoError → PackageError} {u : Unit} :
    World.onFiles wrap (Disk.change f) w = .ok u w' ↔
      ∃ fs', f w.files = .ok fs' ∧ w' = { w with files := fs' } := by
  unfold World.onFiles Disk.change
  cases f w.files with
  | ok fs' => simp [eq_comm]
  | error e => simp

theorem onFiles_change_eq_error {f : FileSystem → Except IoError FileSystem}
    {wrap : IoError → PackageError} {e : PackageError} :
    World.onFiles wrap (Disk.change f) w = .error e w' ↔
      ∃ e', f w.files = .error e' ∧ e = wrap e' ∧ w' = w := by
  unfold World.onFiles Disk.change
  cases f w.files with
  | ok fs' => simp
  | error e' =>
    simp only [EStateM.Result.error.injEq, Except.error.injEq, exists_eq_left']
    exact ⟨fun ⟨h, h'⟩ => ⟨h.symm, h'.symm⟩, fun ⟨h, h'⟩ => ⟨h.symm, h'.symm⟩⟩

/-- **A package that is filled went through all four steps.** -/
theorem fill_eq_ok :
    Package.fill tools layout options folder paths w = .ok () w' ↔
      ∃ w₁ fs₂ w₃, tools.run (.copyTree folder paths.typst) w = .ok () w₁ ∧
        w₁.files.copyFile layout.referenceMetadata paths.metadata = .ok fs₂ ∧
        tools.run (.compile paths.entryDocument paths.document) { w₁ with files := fs₂ } =
          .ok () w₃ ∧
        tools.run (.rasterize paths.document options.previewPage options.previewDpi paths.preview)
          w₃ = .ok () w' := by
  simp only [Package.fill, bind_eq_ok, ask_eq_ok, onFiles_change_eq_ok]
  constructor
  · rintro ⟨-, w₁, h₁, -, w₂, ⟨fs₂, h₂, rfl⟩, -, w₃, h₃, h₄⟩
    exact ⟨w₁, fs₂, w₃, h₁, h₂, h₃, h₄⟩
  · rintro ⟨w₁, fs₂, w₃, h₁, h₂, h₃, h₄⟩
    exact ⟨(), w₁, h₁, (), _, ⟨fs₂, h₂, rfl⟩, (), w₃, h₃, h₄⟩

/-- **A package that is not filled failed at one of the four steps, after those before it.** -/
theorem fill_eq_error {e : PackageError}
    (h : Package.fill tools layout options folder paths w = .error e w') :
    (∃ e', tools.run (.copyTree folder paths.typst) w = .error e' w' ∧
        e = .copySource paths.typst e') ∨
      ∃ w₁, tools.run (.copyTree folder paths.typst) w = .ok () w₁ ∧
        ((∃ e', w₁.files.copyFile layout.referenceMetadata paths.metadata = .error e' ∧
            e = .copyMetadata layout.referenceMetadata paths.metadata e' ∧ w' = w₁) ∨
          ∃ fs₂, w₁.files.copyFile layout.referenceMetadata paths.metadata = .ok fs₂ ∧
            ((∃ e', tools.run (.compile paths.entryDocument paths.document)
                { w₁ with files := fs₂ } = .error e' w' ∧ e = .compile paths.entryDocument e') ∨
              ∃ w₃ e', tools.run (.compile paths.entryDocument paths.document)
                  { w₁ with files := fs₂ } = .ok () w₃ ∧
                tools.run (.rasterize paths.document options.previewPage options.previewDpi
                  paths.preview) w₃ = .error e' w' ∧ e = .rasterize paths.document e')) := by
  simp only [Package.fill, bind_eq_error, ask_eq_ok, ask_eq_error, onFiles_change_eq_ok,
    onFiles_change_eq_error] at h
  rcases h with h | ⟨-, w₁, h₁, h | ⟨-, w₂, ⟨fs₂, h₂, rfl⟩, h | ⟨-, w₃, h₃, e', h₄, he⟩⟩⟩
  · exact Or.inl h
  · exact Or.inr ⟨w₁, h₁, Or.inl h⟩
  · exact Or.inr ⟨w₁, h₁, Or.inr ⟨fs₂, h₂, Or.inl h⟩⟩
  · exact Or.inr ⟨w₁, h₁, Or.inr ⟨fs₂, h₂, Or.inr ⟨w₃, e', h₃, h₄, he⟩⟩⟩

end Fill

/-! ## 5. What filling leaves -/

/-- The path leads to the directory, and no link stands there or below. -/
structure Ready (fs : FileSystem) (p : Path) (dir : Location) : Prop where
  leads : fs.Leads p dir
  free : fs.LinkFree dir

theorem Ready.grows {fs fs' : FileSystem} {p : Path} {dir top : Location} (h : Ready fs p dir)
    (hg : Grows top fs fs') : Ready fs' p dir :=
  ⟨h.leads.mono hg.keepsWays, h.free.grows hg⟩

theorem Prepared.ready {fs : FileSystem} {p : Path} {dir : Location} {n : Name}
    (h : Prepared fs p dir n) (hn : Name.isOrdinary n = true) :
    Ready fs (p.join ⟨n⟩) (dir ++ [n]) :=
  ⟨h.inside hn, h.free⟩

section Steps

variable {σ : Type} {tools : Toolchain σ} {r : Rehearsal} (ht : tools.Rehearses r)
  {layout : Layout} {name : Name} {w : World σ} {place : Location}
  (hr : Ready w.files (layout.packageDir name) place) (entryPoint : String)

include ht hr

theorem run_copyTree_grows (folder : Path) :
    Grows (place ++ [Package.sourceName]) w.files
      (Disk.left (tools.run (.copyTree folder (layout.package name entryPoint).typst) w)).files :=
  ht.left (Grows.refl _ _) (perform_copyTree_grows hr.leads hr.free (by decide) r folder)

theorem run_compile_grows (document : Path) :
    Grows (place ++ [Package.documentName]) w.files
      (Disk.left
        (tools.run (.compile document (layout.package name entryPoint).document) w)).files :=
  ht.left (Grows.refl _ _) (perform_compile_grows hr.leads hr.free (by decide) r document)

theorem run_rasterize_grows (document : Path) (page dpi : Nat) :
    Grows (place ++ [Package.previewName]) w.files
      (Disk.left (tools.run
        (.rasterize document page dpi (layout.package name entryPoint).preview) w)).files :=
  ht.left (Grows.refl _ _) (perform_rasterize_grows hr.leads hr.free (by decide) r document page dpi)

/-- **Filling changes nothing but what is inside the package's place**, which grows, whatever
    fails. -/
theorem fill_left (options : PackageOptions) (folder : Path) :
    let filled := (Disk.left
      (Package.fill tools layout options folder (layout.package name entryPoint) w)).files
    Grows place w.files filled ∧ Kept (Inside place) w.files filled := by
  let inv (fs : FileSystem) : Prop := Grows place w.files fs ∧ Kept (Inside place) w.files fs
  have hstep : ∀ {n : Name} {fs : FileSystem} {w₁ : World σ}, inv w₁.files →
      Grows (place ++ [n]) w₁.files fs → inv fs :=
    fun {n} _ _ h hg => ⟨h.1.trans (hg.mono (List.prefix_append _ _)),
      h.2.trans (hg.kept.mono fun _ hk => ⟨n, hk⟩)⟩
  have hstart : inv w.files := ⟨Grows.refl _ _, Kept.refl _ _⟩
  unfold Package.fill
  refine bind_left (P := fun w₁ : World σ => inv w₁.files) ?_ fun _ w₁ h₁ => ?_
  · rw [ask_left]
    exact hstep hstart (run_copyTree_grows ht hr entryPoint folder)
  · have hr₁ := hr.grows h₁.1
    refine bind_left (P := fun w₂ : World σ => inv w₂.files) ?_ fun _ w₂ h₂ => ?_
    · rw [onFiles_left]
      exact hstep h₁ (copyFile_grows hr₁.leads (by decide)
        (hr₁.free.below [Package.metadataName]) layout.referenceMetadata)
    · refine bind_left (P := fun w₃ : World σ => inv w₃.files) ?_ fun _ w₃ h₃ => ?_
      · rw [ask_left]
        exact hstep h₂ (run_compile_grows ht (hr.grows h₂.1) entryPoint _)
      · rw [ask_left]
        exact hstep h₃ (run_rasterize_grows ht (hr.grows h₃.1) entryPoint _ _ _)

/-- **Filling lets the package's place grow, whatever fails.** -/
theorem fill_grows (options : PackageOptions) (folder : Path) :
    Grows place w.files (Disk.left
      (Package.fill tools layout options folder (layout.package name entryPoint) w)).files :=
  (fill_left ht hr entryPoint options folder).1

end Steps

/-- What a package that was filled holds, where `copied` is the state after the source was copied:
    the copied source, what the reference metadata led to then, the compiled document, the drawn
    page, and nothing else that is new. -/
structure Filled (layout : Layout) (options : PackageOptions) (name : Name) (place : Location)
    (copied filled : FileSystem) : Prop where
  check : ∀ n ∈ Package.entryNames, nameCheck (layout.packageDir name) n = .ok ()
  directory : filled.at? (place ++ [Package.sourceName]) = some .directory
  source : ∀ k, Below (place ++ [Package.sourceName]) k → filled.at? k = copied.at? k
  metadata : ∃ loc content executable,
    copied.stat? layout.referenceMetadata = .ok (loc, .file content executable) ∧
      filled.at? (place ++ [Package.metadataName]) = some (.file content executable)
  document : ∃ text,
    filled.readText (layout.package name options.entryPoint).entryDocument = .ok text ∧
      filled.at? (place ++ [Package.documentName]) =
        some (.file (Rehearsal.compiled text) false)
  preview : filled.at? (place ++ [Package.previewName]) =
    some (.file (Rehearsal.drawn options.previewPage options.previewDpi) false)
  other : ∀ k, (∀ n ∈ [Package.metadataName, Package.documentName, Package.previewName],
    ¬ Below (place ++ [n]) k) → filled.at? k = copied.at? k

section Contents

variable {σ : Type} {tools : Toolchain σ} {r : Rehearsal} (ht : tools.Rehearses r)
  {layout : Layout} {options : PackageOptions} {name : Name} {folder : Path}
  {w w' : World σ} {place : Location} (hr : Ready w.files (layout.packageDir name) place)

include ht hr

/-- **A package that is filled holds what its four steps made.** -/
theorem fill_ok_filled (hempty : ∀ ns, ns ≠ [] → w.files.at? (place ++ ns) = none)
    (h : Package.fill tools layout options folder (layout.package name options.entryPoint) w =
      .ok () w') :
    ∃ fs₁, FileSystem.copyTree folder (layout.package name options.entryPoint).typst w.files =
        .ok () fs₁ ∧ Grows (place ++ [Package.sourceName]) w.files fs₁ ∧
      Filled layout options name place fs₁ w'.files := by
  obtain ⟨w₁, fs₂, w₃, h₁, h₂, h₃, h₄⟩ := fill_eq_ok.1 h
  have hg₁ : Grows (place ++ [Package.sourceName]) w.files w₁.files := by
    have := run_copyTree_grows ht hr options.entryPoint folder
    rwa [h₁] at this
  have hr₁ := hr.grows hg₁
  -- each later step finds its place still empty
  have hnone₁ : ∀ n, n ≠ Package.sourceName → w₁.files.at? (place ++ [n]) = none := by
    intro n hn
    rw [hg₁.outside.at?_sibling hn]
    exact hempty [n] (by simp)
  obtain ⟨loc, content, executable, hstat, hmeta, hg₂, hc₂⟩ :=
    copyFile_join_new hr₁.leads (by decide) (hnone₁ Package.metadataName (by decide)) h₂
  have hr₂ := hr₁.grows hg₂
  have hnone₂ : ∀ n, n ≠ Package.sourceName → n ≠ Package.metadataName →
      fs₂.at? (place ++ [n]) = none := by
    intro n hn hn'
    rw [hg₂.outside.at?_sibling hn']
    exact hnone₁ n hn
  obtain ⟨text, htext, hwrite⟩ := writeFile_of_perform_compile (ht.ok _ _ _ h₃)
  have hdocNone := hnone₂ Package.documentName (by decide) (by decide)
  obtain ⟨hdoc, hg₃, hc₃⟩ := writeFile_join_new hr₂.leads (by decide) hdocNone hwrite
  have hr₃ := hr₂.grows hg₃
  have hpreNone : w₃.files.at? (place ++ [Package.previewName]) = none := by
    rw [hg₃.outside.at?_sibling (by decide)]
    exact hnone₂ Package.previewName (by decide) (by decide)
  obtain ⟨hpre, hg₄, hc₄⟩ := writeFile_join_new hr₃.leads (by decide) hpreNone
    (writeFile_of_perform_rasterize (ht.ok _ _ _ h₄))
  have hother : ∀ k, (∀ n ∈ [Package.metadataName, Package.documentName, Package.previewName],
      ¬ Below (place ++ [n]) k) → w'.files.at? k = w₁.files.at? k := by
    intro k hk
    rw [hg₄.outside.entry k (hk _ (by simp)), hg₃.outside.entry k (hk _ (by simp)),
      hg₂.outside.entry k (hk _ (by simp))]
  have hcopy := copyTree_of_perform (ht.ok _ _ _ h₁)
  obtain ⟨hc₁, hdir⟩ := copyLevels_ok_directory hr.leads (by decide)
    (hr.free.below [Package.sourceName]) hcopy
  have hsource : ∀ k, Below (place ++ [Package.sourceName]) k →
      w'.files.at? k = w₁.files.at? k := by
    intro k hk
    refine hother k fun n hn hb => ?_
    obtain rfl := eq_of_below hk hb
    revert hn
    decide
  refine ⟨w₁.files, hcopy, hg₁, ?_, ?_, hsource, ?_, ?_, hpre, hother⟩
  · simp only [Package.entryNames, List.forall_mem_cons, List.not_mem_nil, false_implies,
      implies_true, and_true]
    exact ⟨hc₁, hc₂, hc₃, hc₄⟩
  · rw [hsource _ List.prefix_rfl, hdir]
  · refine ⟨loc, content, executable, hstat, ?_⟩
    rw [hg₄.outside.at?_sibling (by decide), hg₃.outside.at?_sibling (by decide), hmeta]
  · refine ⟨text, ?_, ?_⟩
    · exact readText_of_extends (hg₄.onlyAdds hpreNone)
        (readText_of_extends (hg₃.onlyAdds hdocNone) htext)
    · rw [hg₄.outside.at?_sibling (by decide), hdoc]

/-- **A package that is not filled has no preview.** -/
theorem fill_error_noPreview (hnone : w.files.at? (place ++ [Package.previewName]) = none)
    {e : PackageError}
    (h : Package.fill tools layout options folder (layout.package name options.entryPoint) w =
      .error e w') :
    w'.files.at? (place ++ [Package.previewName]) = none := by
  have hkeep : ∀ {n : Name} {fs fs' : FileSystem}, n ≠ Package.previewName →
      Grows (place ++ [n]) fs fs' → fs.at? (place ++ [Package.previewName]) = none →
      fs'.at? (place ++ [Package.previewName]) = none := by
    intro n fs fs' hn hg hfs
    rw [hg.outside.at?_sibling hn.symm, hfs]
  have hg₁ := run_copyTree_grows ht hr options.entryPoint folder
  rcases fill_eq_error h with ⟨e', h₁, -⟩ | ⟨w₁, h₁, hrest⟩ <;> rw [h₁] at hg₁
  · exact hkeep (by decide) hg₁ hnone
  · have hr₁ := hr.grows hg₁
    have hnone₁ := hkeep (by decide) hg₁ hnone
    rcases hrest with ⟨e', -, -, rfl⟩ | ⟨fs₂, h₂, hrest⟩
    · exact hnone₁
    · obtain ⟨_, _, _, _, _, hg₂, _⟩ := copyFile_join_ok hr₁.leads (by decide)
        (hr₁.free.below [Package.metadataName]).self h₂
      have hr₂ := hr₁.grows hg₂
      have hnone₂ := hkeep (by decide) hg₂ hnone₁
      have hg₃ := run_compile_grows ht (w := { w₁ with files := fs₂ }) hr₂ options.entryPoint
        (layout.package name options.entryPoint).entryDocument
      rcases hrest with ⟨e', h₃, -⟩ | ⟨w₃, e', h₃, h₄, -⟩ <;> rw [h₃] at hg₃
      · exact hkeep (by decide) hg₃ hnone₂
      · have hnone₃ := hkeep (by decide) hg₃ hnone₂
        rcases ht.error _ _ _ _ h₄ with heq | ⟨e'', heq⟩
        · rw [heq]
          exact hnone₃
        · rw [perform_rasterize_error heq]
          exact hnone₃

end Contents

/-! ## 6. What building a package touches and leaves -/

section Generate

variable {σ : Type} {tools : Toolchain σ} {r : Rehearsal} {layout : Layout}
  {options : PackageOptions} {folder : TemplateFolder} {w w' : World σ}

/-- The folders that a package is built for, with the names of their templates. -/
def TemplateFolder.Builds (folder : TemplateFolder) (name : Name) : Prop :=
  folder.name? = some name ∧ name ≠ Text.Utf8.bytes Layout.referencePackage

theorem TemplateFolder.Builds.isOrdinary {name : Name} (h : folder.Builds name) :
    Name.isOrdinary (Package.dirName name) = true :=
  Package.isOrdinary_dirName (isOrdinary_of_name? h.1)

theorem generate_eq_ok {package : TemplatePackage}
    (h : generate tools layout options folder w = .ok package w') :
    ∃ name fs₁, folder.Builds name ∧
      Package.prepare (layout.packageDir name) w.files = .ok () fs₁ ∧
      Package.fill tools layout options folder.path (layout.package name options.entryPoint)
        { w with files := fs₁ } = .ok () w' ∧
      package = Package.report name (layout.package name options.entryPoint) := by
  unfold generate at h
  split at h
  · cases h
  · rename_i name hname
    split at h
    · cases h
    · rename_i hres
      simp only [World.onFiles] at h
      split at h
      · cases h
      · rename_i hprep
        split at hprep <;> cases hprep
        rename_i fs₁ hprep
        split at h <;> cases h
        rename_i hfill
        exact ⟨name, fs₁, ⟨hname, hres⟩, hprep, hfill, rfl⟩

theorem generate_eq_error {e : PackageError}
    (h : generate tools layout options folder w = .error e w') :
    ((¬ ∃ name, folder.Builds name) ∧ w' = w) ∨
      ∃ name, folder.Builds name ∧
        ((∃ e' fs₁, Package.prepare (layout.packageDir name) w.files = .error e' fs₁ ∧
            w' = { w with files := fs₁ }) ∨
          ∃ fs₁, Package.prepare (layout.packageDir name) w.files = .ok () fs₁ ∧
            Package.fill tools layout options folder.path
              (layout.package name options.entryPoint) { w with files := fs₁ } = .error e w') := by
  unfold generate at h
  split at h
  · rename_i hname
    cases h
    refine Or.inl ⟨?_, rfl⟩
    rintro ⟨name, hb, -⟩
    rw [hname] at hb
    cases hb
  · rename_i name hname
    split at h
    · rename_i hres
      cases h
      refine Or.inl ⟨?_, rfl⟩
      rintro ⟨name', hb, hne⟩
      rw [hname] at hb
      cases hb
      exact hne hres
    · rename_i hres
      refine Or.inr ⟨name, ⟨hname, hres⟩, ?_⟩
      simp only [World.onFiles] at h
      split at h
      · rename_i hprep
        split at hprep <;> cases hprep
        rename_i e' fs₁ hprep
        cases h
        exact Or.inl ⟨e', fs₁, hprep, rfl⟩
      · rename_i hprep
        split at hprep <;> cases hprep
        rename_i fs₁ hprep
        split at h <;> cases h
        rename_i hfill
        exact Or.inr ⟨fs₁, hprep, hfill⟩

/-- A folder that no package is built for is refused before anything is touched. -/
theorem generate_refused (h : ¬ ∃ name, folder.Builds name) :
    Disk.left (generate tools layout options folder w) = w := by
  cases hg : generate tools layout options folder w with
  | ok package w₁ =>
    obtain ⟨name, _, hb, -⟩ := generate_eq_ok hg
    exact absurd ⟨name, hb⟩ h
  | error e w₁ =>
    rcases generate_eq_error hg with ⟨-, rfl⟩ | ⟨name, hb, -⟩
    · rfl
    · exact absurd ⟨name, hb⟩ h

variable (ht : tools.Rehearses r) {name : Name} (hb : folder.Builds name) {dir : Location}
  (hh : Hosts w.files (Below (dir ++ [Package.dirName name])) layout.root dir)

include hb in
theorem TemplateFolder.Builds.unique {name' : Name} (hb' : folder.Builds name') : name' = name := by
  have := hb'.1.symm.trans hb.1
  cases this
  rfl

omit ht in
include hb hh in
theorem prepare_packageDir :
    Framed (dir ++ [Package.dirName name]) w.files
        (Disk.left (Package.prepare (layout.packageDir name) w.files)) ∧
      ∀ fs', Package.prepare (layout.packageDir name) w.files = .ok () fs' →
        Prepared fs' layout.root dir (Package.dirName name) :=
  prepare_hosts hh hb.isOrdinary

include ht hb hh

/-- **Building a package touches its place, and adds the directories missing above it.** -/
theorem generate_framed :
    Framed (dir ++ [Package.dirName name]) w.files
      (Disk.left (generate tools layout options folder w)).files := by
  obtain ⟨hframed, hprepared⟩ := prepare_packageDir hb hh
  have hfilled : ∀ fs₁, Package.prepare (layout.packageDir name) w.files = .ok () fs₁ →
      Framed (dir ++ [Package.dirName name]) w.files
        (Disk.left (Package.fill tools layout options folder.path
          (layout.package name options.entryPoint) { w with files := fs₁ })).files := by
    intro fs₁ hprep
    have hready := (hprepared fs₁ hprep).ready hb.isOrdinary
    rw [hprep] at hframed
    exact hframed.trans
      (fill_grows ht (w := { w with files := fs₁ }) hready _ _ _).kept.framed
  cases hg : generate tools layout options folder w with
  | ok package w₁ =>
    obtain ⟨name', fs₁, hb', hprep, hfill, -⟩ := generate_eq_ok hg
    obtain rfl := hb.unique hb'
    have := hfilled fs₁ hprep
    rwa [hfill] at this
  | error e w₁ =>
    rcases generate_eq_error hg with ⟨hno, -⟩ | ⟨name', hb', hrest⟩
    · exact absurd ⟨name, hb⟩ hno
    · obtain rfl := hb.unique hb'
      rcases hrest with ⟨e', fs₁, hprep, rfl⟩ | ⟨fs₁, hprep, hfill⟩
      · rw [hprep] at hframed
        exact hframed
      · have := hfilled fs₁ hprep
        rwa [hfill] at this

/-- **A package that is built holds what its steps made**, at the place that its path leads to. -/
theorem generate_ok_filled {package : TemplatePackage}
    (h : generate tools layout options folder w = .ok package w') :
    package = Package.report name (layout.package name options.entryPoint) ∧
      ∃ fs₁ fs₂, Prepared fs₁ layout.root dir (Package.dirName name) ∧
        Framed (dir ++ [Package.dirName name]) w.files fs₁ ∧
        FileSystem.copyTree folder.path (layout.package name options.entryPoint).typst fs₁ =
          .ok () fs₂ ∧
        Grows (dir ++ [Package.dirName name] ++ [Package.sourceName]) fs₁ fs₂ ∧
        Grows (dir ++ [Package.dirName name]) fs₁ w'.files ∧
        Filled layout options name (dir ++ [Package.dirName name]) fs₂ w'.files := by
  obtain ⟨name', fs₁, hb', hprep, hfill, rfl⟩ := generate_eq_ok h
  obtain rfl := hb.unique hb'
  obtain ⟨hframed, hprepared⟩ := prepare_packageDir hb hh
  rw [hprep] at hframed
  have hp := hprepared fs₁ hprep
  have hready := hp.ready hb.isOrdinary
  have hg := fill_grows ht (w := { w with files := fs₁ }) hready options.entryPoint options
    folder.path
  rw [hfill] at hg
  obtain ⟨fs₂, hcopy, hsource, hfilled⟩ :=
    fill_ok_filled ht (w := { w with files := fs₁ }) hready hp.empty hfill
  exact ⟨rfl, fs₁, fs₂, hp, hframed, hcopy, hsource, hg, hfilled⟩

/-- **A package that is not built is a directory without a preview**, if its place can be looked
    up. -/
theorem generate_error_noPreview (hl : w.files.Leads layout.root dir)
    (hc : nameCheck layout.root (Package.dirName name) = .ok ()) {e : PackageError}
    (h : generate tools layout options folder w = .error e w') :
    w'.files.at? (dir ++ [Package.dirName name]) = some .directory ∧
      w'.files.at? (dir ++ [Package.dirName name] ++ [Package.previewName]) = none := by
  obtain ⟨fs₁, hprep₁⟩ := exists_prepare_eq_ok hh hb.isOrdinary hl hc
  rcases generate_eq_error h with ⟨hno, -⟩ | ⟨name', hb', hrest⟩
  · exact absurd ⟨name, hb⟩ hno
  · obtain rfl := hb.unique hb'
    rcases hrest with ⟨e', fs₂, hprep, -⟩ | ⟨fs₂, hprep, hfill⟩ <;>
      cases hprep₁.symm.trans hprep
    have hp := (prepare_packageDir hb hh).2 fs₁ hprep
    have hready := hp.ready hb.isOrdinary
    have hg := fill_grows ht (w := { w with files := fs₁ }) hready options.entryPoint options
      folder.path
    rw [hfill] at hg
    exact ⟨hg.directory _ hp.directory,
      fill_error_noPreview ht (w := { w with files := fs₁ }) hready (hp.empty _ (by simp)) hfill⟩

end Generate

end TemplatePress
