import TemplatePress.Proofs.Policies
import TemplatePress.Proofs.Renewals

/-!
# Folders that do not depend on one another

Where nothing that is built reads the place of another package, a run is told from what each folder
comes to when it is built alone. This file fixes:

* `tally`: what a run reports and which folders it takes, told from the outcome of each folder;
* `Followed`: at the place of each package stands what the last folder of its name leaves alone, or
  what stood there before;
* `buildOnto_followed`: both hold of any run, by induction on the folders;
* `generateAll_eachAlone`: the run that keeps going. `generateAll_reads_neighbour` shows what
  happens where an entry document or a link is looked up at the place of another package.
-/

namespace TemplatePress

open FileSystem

/-! ## 1. What a run reports -/

/-- The outcome of a run that goes on from a report, and the folders that it takes, if each folder
    comes to a known outcome. -/
def tally (outcome : TemplateFolder → Except PackageError TemplatePackage) (keepGoing : Bool) :
    List TemplateFolder → PipelineReport →
      Except PipelineError PipelineReport × List TemplateFolder
  | [], report => (.ok report, [])
  | folder :: rest, report =>
    match outcome folder with
    | .ok package =>
      let more := tally outcome keepGoing rest
        { report with generated := report.generated ++ [package] }
      (more.1, folder :: more.2)
    | .error e =>
      if keepGoing then
        let more := tally outcome keepGoing rest
          { report with failed := report.failed ++ [⟨folder, e⟩] }
        (more.1, folder :: more.2)
      else (.error (.generate folder e), [folder])

/-- **A run that keeps going takes all folders and reports each outcome.** -/
theorem tally_keepGoing (outcome : TemplateFolder → Except PackageError TemplatePackage)
    (folders : List TemplateFolder) {c : Course} {report : PipelineReport}
    (h : c.Reports report) :
    ∃ report', tally outcome true folders report = (.ok report', folders) ∧
      Course.Reports (c ++ folders.map fun folder => (folder, outcome folder)) report' := by
  induction folders generalizing c report with
  | nil => exact ⟨report, rfl, by simpa using h⟩
  | cons folder rest ih =>
    cases ho : outcome folder with
    | ok package =>
      obtain ⟨report', heq, hreports⟩ := ih (h.built folder package)
      exact ⟨report', by simp only [tally, ho, heq], by simpa [ho] using hreports⟩
    | error e =>
      obtain ⟨report', heq, hreports⟩ := ih (h.notBuilt folder e)
      exact ⟨report', by simp only [tally, ho, heq, if_true], by simpa [ho] using hreports⟩

/-! ## 2. What stands at the place of each package -/

/-- The last folder of a name. -/
def lastOf (folders : List TemplateFolder) (name : Name) : Option TemplateFolder :=
  (folders.filter fun folder => folder.name? = some name).getLast?

theorem lastOf_concat_self (folders : List TemplateFolder) {folder : TemplateFolder} {name : Name}
    (h : folder.name? = some name) : lastOf (folders ++ [folder]) name = some folder := by
  simp [lastOf, h]

theorem lastOf_concat_of_ne (folders : List TemplateFolder) {folder : TemplateFolder} {name : Name}
    (h : folder.name? ≠ some name) : lastOf (folders ++ [folder]) name = lastOf folders name := by
  simp [lastOf, List.filter_append, h]

theorem name?_of_lastOf {folders : List TemplateFolder} {folder : TemplateFolder} {name : Name}
    (h : lastOf folders name = some folder) : folder.name? = some name := by
  have hmem := List.mem_of_getLast? h
  simpa using (List.mem_filter.1 hmem).2

/-- Whether the place of a name's package can be prepared. -/
def Prepares (layout : Layout) (start : FileSystem) (name : Name) : Prop :=
  Disk.outcome (Package.prepare (layout.packageDir name) start) = .ok ()

theorem exists_error_of_not_prepares {layout : Layout} {start : FileSystem} {name : Name}
    (h : ¬ Prepares layout start name) :
    ∃ e, Disk.outcome (Package.prepare (layout.packageDir name) start) = .error e := by
  unfold Prepares at h
  cases ho : Disk.outcome (Package.prepare (layout.packageDir name) start) with
  | ok => exact absurd ho h
  | error e => exact ⟨e, rfl⟩

section Follow

variable {r : Rehearsal} {layout : Layout} {options : PackageOptions}
  {folders : List TemplateFolder} {w₀ : World (List ToolCall)} {init : FileSystem}

/-- After some folders are built, what stands at the place of a package is what the last folder of
    its name leaves when it is built alone at the start; where there is none, or where the place
    cannot be prepared, it is what stood there when the building began. -/
structure Followed (r : Rehearsal) (layout : Layout) (options : PackageOptions)
    (w₀ : World (List ToolCall)) (init : FileSystem) (done : List TemplateFolder)
    (fs : FileSystem) : Prop where
  last : ∀ name folder, name ≠ Text.Utf8.bytes Layout.referencePackage →
    Prepares layout w₀.files name → lastOf done name = some folder →
    ∀ loc, Below (Layout.packagePlace (w₀.files.place layout.root) name) loc →
      fs.at? loc =
        (Disk.left (generate r.toolchain layout options folder w₀)).files.at? loc
  kept : ∀ name, name ≠ Text.Utf8.bytes Layout.referencePackage →
    (Prepares layout w₀.files name → lastOf done name = none) →
    ∀ loc, Below (Layout.packagePlace (w₀.files.place layout.root) name) loc →
      fs.at? loc = init.at? loc

theorem Followed.refl (init : FileSystem) : Followed r layout options w₀ init [] init :=
  ⟨fun _ _ _ _ hlast => (nomatch hlast), fun _ _ _ _ _ => rfl⟩

/-- One more folder settles what stands at the place of its own name, and no other. -/
theorem Followed.concat {done : List TemplateFolder} {folder : TemplateFolder}
    {fs fs' : FileSystem} (h : Followed r layout options w₀ init done fs)
    (hother : ∀ name, folder.name? ≠ some name → ∀ loc,
      Below (Layout.packagePlace (w₀.files.place layout.root) name) loc → fs'.at? loc = fs.at? loc)
    (hlast : ∀ name, folder.Builds name → Prepares layout w₀.files name → ∀ loc,
      Below (Layout.packagePlace (w₀.files.place layout.root) name) loc →
      fs'.at? loc = (Disk.left (generate r.toolchain layout options folder w₀)).files.at? loc)
    (hkept : ∀ name, folder.Builds name → ¬ Prepares layout w₀.files name → ∀ loc,
      Below (Layout.packagePlace (w₀.files.place layout.root) name) loc →
      fs'.at? loc = fs.at? loc) :
    Followed r layout options w₀ init (done ++ [folder]) fs' := by
  refine ⟨fun name g hres hprep hg loc hloc => ?_, fun name hres hnone loc hloc => ?_⟩ <;>
    by_cases hname : folder.name? = some name
  · rw [lastOf_concat_self done hname] at hg
    cases hg
    exact hlast name ⟨hname, hres⟩ hprep loc hloc
  · rw [lastOf_concat_of_ne done hname] at hg
    rw [hother name hname loc hloc]
    exact h.last name g hres hprep hg loc hloc
  · have hno : ¬ Prepares layout w₀.files name := by
      intro hprep
      have := hnone hprep
      rw [lastOf_concat_self done hname] at this
      cases this
    rw [hkept name ⟨hname, hres⟩ hno loc hloc]
    exact h.kept name hres (fun hprep => absurd hprep hno) loc hloc
  · rw [hother name hname loc hloc]
    refine h.kept name hres (fun hprep => ?_) loc hloc
    rw [← lastOf_concat_of_ne done hname]
    exact hnone hprep

/-- The state between two folders. -/
structure Between (r : Rehearsal) (layout : Layout) (options : PackageOptions)
    (folders : List TemplateFolder) (w₀ : World (List ToolCall)) (init : FileSystem)
    (done : List TemplateFolder) (fs : FileSystem) : Prop where
  renewed : Renewed layout (builds options folders) w₀.files fs
  followed : Followed r layout options w₀ init done fs

/-- The folder of another name leaves a package's place as it is. -/
theorem at?_of_other {w : World (List ToolCall)} {folder : TemplateFolder} {name : Name}
    (hs : w₀.files.Straight layout.root)
    (h : Renewed layout (builds options folders) w₀.files w.files)
    (hne : folder.name? ≠ some name) {loc : Location}
    (hloc : Below (Layout.packagePlace (w₀.files.place layout.root) name) loc) :
    (Disk.left (generate r.toolchain layout options folder w)).files.at? loc =
      w.files.at? loc := by
  by_cases hb : ∃ other, folder.Builds other
  · obtain ⟨other, hb⟩ := hb
    have hdir : Package.dirName name ≠ Package.dirName other := fun heq =>
      hne (Package.dirName_injective heq ▸ hb.1)
    have hf : Framed (Layout.packagePlace (w₀.files.place layout.root) other) w.files
        (Disk.left (generate r.toolchain layout options folder w)).files :=
      generate_framed (rehearses_toolchain r) hb
        (Or.inr ⟨h.straight_root hs, (h.place_eq layout.root).symm⟩)
    obtain ⟨hbelow, hup⟩ := apart_of_ne hdir hloc
    exact (hf.entry loc hbelow).resolve_right fun hnew => hup hnew.1
  · rw [generate_refused hb]

variable (hs : w₀.files.Straight layout.root)
  (hsecluded : ∀ fs, Standing layout (builds options folders) w₀.files fs →
    Secluded layout options folders (w₀.files.place layout.root) fs)

include hs hsecluded

/-- **A folder comes to what it comes to alone, and leaves what it leaves alone.** -/
theorem Between.generate {done : List TemplateFolder} {folder : TemplateFolder}
    {w : World (List ToolCall)} (hmem : folder ∈ folders)
    (h : Between r layout options folders w₀ init done w.files) :
    Disk.outcome (TemplatePress.generate r.toolchain layout options folder w) =
        Disk.outcome (TemplatePress.generate r.toolchain layout options folder w₀) ∧
      Between r layout options folders w₀ init (done ++ [folder])
        (Disk.left (TemplatePress.generate r.toolchain layout options folder w)).files := by
  have hstart := Renewed.refl layout (builds options folders) w₀.files
  have hrenewed := h.renewed.generate hs (rehearses_toolchain r) hmem
  have hother : ∀ name, folder.name? ≠ some name → ∀ loc,
      Below (Layout.packagePlace (w₀.files.place layout.root) name) loc →
      (Disk.left (TemplatePress.generate r.toolchain layout options folder w)).files.at? loc =
        w.files.at? loc := fun name hne loc => at?_of_other hs h.renewed hne
  by_cases hb : ∃ name, folder.Builds name
  · obtain ⟨name, hb⟩ := hb
    by_cases hok : Prepares layout w₀.files name
    · have hagree := generate_agree (r := r) hs hmem hb hstart h.renewed hok hsecluded
      refine ⟨hagree.outcome, hrenewed, h.followed.concat hother (fun other ho _ loc hloc => ?_)
        fun other ho hno => ?_⟩ <;> obtain rfl := hb.unique ho
      · exact hagree.left.entry loc (Or.inl hloc)
      · exact absurd hok hno
    · obtain ⟨e, hno⟩ := exists_error_of_not_prepares hok
      obtain ⟨fs, heq, hkept⟩ := generate_refuses (r := r) hs hb h.renewed hno
      obtain ⟨fs₀, heq₀, -⟩ := generate_refuses (r := r) hs hb hstart hno
      refine ⟨by rw [heq, heq₀]; rfl, hrenewed, h.followed.concat hother
        (fun other ho hprep => ?_) fun other ho _ loc hloc => ?_⟩ <;> obtain rfl := hb.unique ho
      · exact absurd hprep hok
      · rw [heq]
        exact hkept loc hloc
  · obtain ⟨e, he⟩ := generate_unbuilt r.toolchain layout options hb
    refine ⟨by rw [he, he]; rfl, hrenewed, h.followed.concat hother
      (fun other ho => absurd ⟨other, ho⟩ hb) fun other ho => absurd ⟨other, ho⟩ hb⟩

/-- **A run comes to what its folders come to alone**, and leaves at each place what the last folder
    that it takes leaves alone. -/
theorem buildOnto_followed {ω : Type} {writer : Writer ω} (hw : writer.Accepts) (keepGoing : Bool)
    {rest done : List TemplateFolder} (hrest : ∀ folder ∈ rest, folder ∈ folders)
    (report : PipelineReport) (run : Run (List ToolCall) ω)
    (h : Between r layout options folders w₀ init done run.world.files) :
    ∃ taken, tally (fun folder =>
          Disk.outcome (TemplatePress.generate r.toolchain layout options folder w₀))
          keepGoing rest report =
        (Disk.outcome
          (Pipeline.buildOnto r.toolchain writer layout options keepGoing rest report run), taken) ∧
      (Disk.left (Pipeline.buildOnto r.toolchain writer layout options keepGoing rest report
        run)).output.accepted = run.output.accepted ++ taken.flatMap TemplateFolder.line ∧
      Between r layout options folders w₀ init (done ++ taken)
        (Disk.left (Pipeline.buildOnto r.toolchain writer layout options keepGoing rest report
          run)).world.files := by
  induction rest generalizing done report run with
  | nil => exact ⟨[], rfl, by simp [Pipeline.buildOnto, pure, EStateM.pure],
      by simpa [Pipeline.buildOnto, pure, EStateM.pure] using h⟩
  | cons folder rest ih =>
    obtain ⟨houtcome, hnext⟩ := h.generate hs hsecluded (hrest folder List.mem_cons_self)
    have hrest' : ∀ g ∈ rest, g ∈ folders := fun g hg => hrest g (List.mem_cons_of_mem _ hg)
    obtain ⟨s, ⟨package, world, hg, hone⟩ | ⟨e, world, hg, hkeep, hstop⟩⟩ :=
      buildOne_accepts r.toolchain hw layout options folder report run <;> rw [hg] at houtcome hnext
    · -- what a run does behind a folder is appended to what it did at the folder
      obtain ⟨taken, htally, hout, hbetween⟩ := ih hrest'
        { report with generated := report.generated ++ [package] }
        ⟨world, ⟨s, run.output.accepted ++ folder.line⟩⟩ hnext
      refine ⟨folder :: taken, ?_, ?_, ?_⟩
      · simp only [tally, ← houtcome, Disk.outcome_ok, htally, Pipeline.buildOnto, hone]
      · simp only [Pipeline.buildOnto, hone, hout, List.flatMap_cons, List.append_assoc]
      · simpa [Pipeline.buildOnto, hone] using hbetween
    · cases keepGoing with
      | true =>
        obtain ⟨taken, htally, hout, hbetween⟩ := ih hrest'
          { report with failed := report.failed ++ [⟨folder, e⟩] }
          ⟨world, ⟨s, run.output.accepted ++ folder.line⟩⟩ hnext
        refine ⟨folder :: taken, ?_, ?_, ?_⟩
        · simp only [tally, ← houtcome, Disk.outcome_error, htally, Pipeline.buildOnto, hkeep,
            if_true]
        · simp only [Pipeline.buildOnto, hkeep, hout, List.flatMap_cons, List.append_assoc]
        · simpa [Pipeline.buildOnto, hkeep] using hbetween
      | false =>
        refine ⟨[folder], ?_, ?_, ?_⟩
        · simp [tally, ← houtcome, Pipeline.buildOnto, hstop]
        · simp [Pipeline.buildOnto, hstop]
        · simpa [Pipeline.buildOnto, hstop] using hnext

end Follow

/-- **A run that keeps going is told from its folders one by one**, if nothing that they read depends
    on the places of the packages. Each folder comes to what it comes to alone from the start, and
    the place of each package ends as the last folder of its name alone leaves it. -/
theorem generateAll_eachAlone {r : Rehearsal} {ω : Type} {writer : Writer ω} (hw : writer.Accepts)
    {layout : Layout} {options : PackageOptions} {folders : List TemplateFolder}
    {run : Run (List ToolCall) ω} (hs : run.world.files.Straight layout.root)
    (hsecluded : ∀ fs, Standing layout (builds options folders) run.world.files fs →
      Secluded layout options folders (run.world.files.place layout.root) fs) :
    ∃ report run', generateAll r.toolchain writer layout options true folders run =
        .ok report run' ∧
      Course.Reports (folders.map fun folder =>
        (folder, Disk.outcome (generate r.toolchain layout options folder run.world))) report ∧
      ∀ name folder, name ≠ Text.Utf8.bytes Layout.referencePackage →
        (folders.filter fun folder => folder.name? = some name).getLast? = some folder →
        ∀ loc, Below (Layout.packagePlace (run.world.files.place layout.root) name) loc →
          run'.world.files.at? loc =
            (Disk.left (generate r.toolchain layout options folder run.world)).files.at? loc := by
  have hbetween : Between r layout options folders run.world run.world.files []
      run.world.files := ⟨Renewed.refl _ _ _, Followed.refl _⟩
  obtain ⟨taken, htally, -, hend⟩ :=
    buildOnto_followed hs hsecluded hw true (fun _ => id) {} run hbetween
  obtain ⟨report, hall, hreports⟩ := tally_keepGoing (fun folder =>
    Disk.outcome (generate r.toolchain layout options folder run.world)) folders Course.Reports.nil
  obtain ⟨houtcome, htaken⟩ := Prod.mk.inj (htally.symm.trans hall)
  rw [List.nil_append] at hreports hend
  rw [htaken] at hend
  unfold generateAll
  cases hrun : Pipeline.buildOnto r.toolchain writer layout options true folders {} run with
  | error e run' =>
    rw [hrun] at houtcome
    cases houtcome
  | ok report' run' =>
    rw [hrun] at houtcome hend
    cases houtcome
    refine ⟨report, run', rfl, hreports, fun name folder hres hlast loc hloc => ?_⟩
    by_cases hprep : Prepares layout run.world.files name
    · exact hend.followed.last name folder hres hprep hlast loc hloc
    · -- the place could not be prepared by any folder of the name
      obtain ⟨e, hno⟩ := exists_error_of_not_prepares hprep
      obtain ⟨fs, heq, hkept⟩ := generate_refuses (r := r) hs ⟨name?_of_lastOf hlast, hres⟩
        (Renewed.refl layout (builds options folders) _) hno
      rw [heq, Disk.left_error, hkept loc hloc]
      exact hend.followed.kept name hres (fun h => absurd h hprep) loc hloc

/-- Two folders of one name, a folder that does not compile, and a package that stood before. -/
def street : FileSystem :=
  .written [("T", .directory), ("T/Empty.sr", .directory),
    ("T/Empty.sr/Serifian.plist", .file (Text.Utf8.bytes "m") false),
    ("T/y.sr", .directory), ("T/y.sr/preview.jpg", .file (Text.Utf8.bytes "old") false),
    ("a", .directory), ("a/x", .directory),
    ("a/x/main.typ", .file (Text.Utf8.bytes "one") false),
    ("b", .directory), ("b/x", .directory),
    ("b/x/main.typ", .file (Text.Utf8.bytes "two") false),
    ("s", .directory), ("s/y", .directory),
    ("s/y/main.typ", .file (Text.Utf8.bytes "// fail-compile") false)]

/-- A source without links beside the root is settled outside the places of the packages. -/
theorem settled_packagePlaces {fs : FileSystem} {folders : List TemplateFolder} {root : Location}
    {source : Path} (hs : fs.Straight source) (hlinks : ∀ x ∈ fs.entries, x.2.isLink = false)
    (hin : ¬ root <+: fs.place source) (hout : ¬ fs.place source <+: root) :
    Settled fs (PackagePlaces folders root) source :=
  (settled_of_disjoint hs (linkFree_of_entries hlinks _) hin hout).mono fun loc hloc => by
    by_contra hbelow
    exact not_packagePlaces hbelow hloc

theorem generateAll_eachAlone_street :
    let folders : List TemplateFolder := ["a/x", "s/y", "b/x"].map fun f => ⟨.ofString f⟩
    let run : Run (List ToolCall) Unit := ⟨⟨street, []⟩, ⟨(), []⟩⟩
    let layout : Layout := ⟨.ofString "T"⟩
    Writer.accepting.Accepts ∧ street.Straight layout.root ∧
      (∀ fs, Standing layout (builds {} folders) street fs →
        Secluded layout {} folders (street.place layout.root) fs) ∧
      ∃ report run', generateAll (Rehearsal.toolchain {}) Writer.accepting layout {} true folders
          run = .ok report run' ∧
        Course.Reports (folders.map fun folder =>
          (folder, Disk.outcome (generate (Rehearsal.toolchain {}) layout {} folder run.world)))
          report ∧
        ∀ name folder, name ≠ Text.Utf8.bytes Layout.referencePackage →
          (folders.filter fun folder => folder.name? = some name).getLast? = some folder →
          ∀ loc, Below (Layout.packagePlace (street.place layout.root) name) loc →
            run'.world.files.at? loc =
              (Disk.left (generate (Rehearsal.toolchain {}) layout {} folder
                run.world)).files.at? loc := by
  intro folders run layout
  have hlinks : ∀ x ∈ street.entries, x.2.isLink = false := by decide +kernel
  have hs : run.world.files.Straight layout.root := by decide +kernel
  have hmeta : street.Straight layout.referenceMetadata := by decide +kernel
  have hsource : ∀ f ∈ folders, Settled street (PackagePlaces folders (street.place layout.root))
      f.path ∧ ∃ loc, street.stat? f.path = .ok (loc, .directory) := by
    intro f hf
    simp only [folders, List.map_cons, List.map_nil, List.mem_cons, List.not_mem_nil,
      or_false] at hf
    rcases hf with rfl | rfl | rfl
    · exact ⟨settled_packagePlaces (by decide +kernel) hlinks (by decide +kernel)
        (by decide +kernel), [Text.Utf8.bytes "a", Text.Utf8.bytes "x"], by decide +kernel⟩
    · exact ⟨settled_packagePlaces (by decide +kernel) hlinks (by decide +kernel)
        (by decide +kernel), [Text.Utf8.bytes "s", Text.Utf8.bytes "y"], by decide +kernel⟩
    · exact ⟨settled_packagePlaces (by decide +kernel) hlinks (by decide +kernel)
        (by decide +kernel), [Text.Utf8.bytes "b", Text.Utf8.bytes "x"], by decide +kernel⟩
  have hsecluded : ∀ fs, Standing layout (builds {} folders) street fs →
      Secluded layout {} folders (street.place layout.root) fs := fun fs h =>
    h.secluded hs (by decide +kernel) hsource (apart_referenceMetadata hmeta)
      fun _ => ⟨by decide, by decide⟩
  exact ⟨accepts_accepting, hs, hsecluded,
    generateAll_eachAlone accepts_accepting hs hsecluded⟩

/-- Two templates. -/
def neighbours : FileSystem :=
  .written [("T", .directory), ("T/Empty.sr", .directory),
    ("T/Empty.sr/Serifian.plist", .file (Text.Utf8.bytes "m") false),
    ("s", .directory), ("s/a", .directory),
    ("s/a/main.typ", .file (Text.Utf8.bytes "A") false),
    ("s/b", .directory), ("s/b/main.typ", .file (Text.Utf8.bytes "B") false)]

/-- Two templates before there is a root. One links to where the source of the other is copied. -/
def vacancy : FileSystem :=
  .written [("s", .directory), ("s/a", .directory),
    ("s/a/main.typ", .link (.ofString "../../T/b.sr/Typst/main.typ")),
    ("s/b", .directory), ("s/b/main.typ", .file (Text.Utf8.bytes "B") false)]

/-- A source beside a missing root is settled outside the places of the packages, whatever its links
    are. -/
theorem settled_of_missing {fs : FileSystem} {folders : List TemplateFolder} {root : Location}
    {source : Path} (hnone : fs.at? root = none) (hs : fs.Straight source)
    (hin : ¬ root <+: fs.place source) (hout : ¬ fs.place source <+: root) :
    Settled fs (PackagePlaces folders root) source := by
  have hbelow : ∀ loc, PackagePlaces folders root loc → root <+: loc := fun loc hloc => by
    by_contra h
    exact not_packagePlaces h hloc
  have hapart := apart_of_missing hnone (not_packagePlaces_root List.prefix_rfl) hbelow
  refine ⟨hapart source, fun loc hl ns hns => ?_, fun _ _ _ _ => hapart _⟩
  rw [(place_of_leads hs hl).1] at hns
  rcases List.prefix_or_prefix_of_prefix (hbelow _ hns) (List.prefix_append _ ns) with h | h
  · exact hin h
  · exact hout h

/-- **What a template is built from may be found at the place of another package**, although the
    templates and the metadata stand outside all places when the run starts: an entry document that
    is looked up there, or a link that leads there through a root that was missing. -/
theorem generateAll_reads_neighbour :
    let folder : TemplateFolder := ⟨.ofString "s/a"⟩
    let folders : List TemplateFolder := [⟨.ofString "s/b"⟩, folder]
    let layout : Layout := ⟨.ofString "T"⟩
    let options : PackageOptions := { entryPoint := "../../b.sr/Serifian.plist" }
    let together (options : PackageOptions) (fs : FileSystem) :=
      generateAll (Rehearsal.toolchain {}) Writer.accepting layout options true folders
        ⟨⟨fs, []⟩, ⟨(), []⟩⟩
    let alone (options : PackageOptions) (fs : FileSystem) :=
      Disk.outcome (generate (Rehearsal.toolchain {}) layout options folder ⟨fs, []⟩)
    (∀ fs ∈ [neighbours, vacancy], fs.Straight layout.root ∧
      (∀ f ∈ folders, Settled fs (PackagePlaces folders (fs.place layout.root)) f.path) ∧
      Apart fs (PackagePlaces folders (fs.place layout.root)) layout.referenceMetadata) ∧
    (∃ report run', together options neighbours = .ok report run' ∧ report.failed = []) ∧
    alone options neighbours = .error (.compile
      (.ofString "T/a.sr/Typst/../../b.sr/Serifian.plist") (.io (.os .notFound))) ∧
    (∃ report run', together {} vacancy = .ok report run' ∧
      ⟨folder, .copyMetadata (.ofString "T/Empty.sr/Serifian.plist")
        (.ofString "T/a.sr/Serifian.plist") (.os .notFound)⟩ ∈ report.failed) ∧
    alone {} vacancy = .error (.copySource (.ofString "T/a.sr/Typst") (.io (.os .notFound))) := by
  intro folder folders layout options together alone
  have hlinks : ∀ x ∈ neighbours.entries, x.2.isLink = false := by decide +kernel
  have hneighbours : ∀ f ∈ folders, neighbours.Straight f.path ∧
      ¬ neighbours.place layout.root <+: neighbours.place f.path ∧
      ¬ neighbours.place f.path <+: neighbours.place layout.root := by decide +kernel
  have hvacancy : ∀ f ∈ folders, vacancy.Straight f.path ∧
      ¬ vacancy.place layout.root <+: vacancy.place f.path ∧
      ¬ vacancy.place f.path <+: vacancy.place layout.root := by decide +kernel
  have hmeta : ∀ fs ∈ [neighbours, vacancy], fs.Straight layout.root ∧
      fs.Straight layout.referenceMetadata := by decide +kernel
  refine ⟨fun fs hfs => ⟨(hmeta fs hfs).1, fun f hf => ?_, apart_referenceMetadata (hmeta fs hfs).2⟩,
    ?_, by decide +kernel, ?_, by decide +kernel⟩
  · rcases List.mem_pair.1 hfs with rfl | rfl
    · obtain ⟨hs, hin, hout⟩ := hneighbours f hf
      exact settled_packagePlaces hs hlinks hin hout
    · obtain ⟨hs, hin, hout⟩ := hvacancy f hf
      exact settled_of_missing (by decide +kernel) hs hin hout
  · have hboth : Disk.succeeds (fun report _ => decide (report.failed = []))
        (together options neighbours) = true := by
      decide +kernel
    obtain ⟨report, run', h, hnone⟩ := Disk.succeeds_iff.1 hboth
    exact ⟨report, run', h, of_decide_eq_true hnone⟩
  · have hlate : Disk.succeeds (fun report _ => decide
        (⟨folder, .copyMetadata (.ofString "T/Empty.sr/Serifian.plist")
          (.ofString "T/a.sr/Serifian.plist") (.os .notFound)⟩ ∈ report.failed))
        (together {} vacancy) = true := by
      decide +kernel
    obtain ⟨report, run', h, hmem⟩ := Disk.succeeds_iff.1 hlate
    exact ⟨report, run', h, of_decide_eq_true hmem⟩

end TemplatePress
