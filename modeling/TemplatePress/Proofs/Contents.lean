import TemplatePress.Proofs.Packages

/-!
# What a built package holds

* a package can only be built where the root already stands, since the reference package has to
  stand there (`sameOutside_of_metadata`);
* `generate_ok_contents`: the package holds exactly four entries: the template's source as it stood
  before, the reference metadata, the compiled document and the drawn page. Nothing of the source or
  the metadata may be looked up through the package's own place; `generate_follows_detour` shows
  what happens otherwise.
-/

namespace TemplatePress

open FileSystem

/-- Where the reference metadata is found there is a reference package. -/
theorem exists_reference {fs : FileSystem} {layout : Layout} {dir : Location}
    (hl : fs.Leads layout.root dir) {r : Location × Entry}
    (h : fs.stat? layout.referenceMetadata = .ok r) :
    fs.at? (dir ++ [Package.dirName (Text.Utf8.bytes Layout.referencePackage)]) ≠ none := by
  intro hnone
  exact stat?_join_join_none (m := Package.metadataName) hl (by decide) (by decide) hnone r h

section Contents

variable {σ : Type} {tools : Toolchain σ} {r : Rehearsal} (ht : tools.Rehearses r)
  {layout : Layout} {options : PackageOptions} {folder : TemplateFolder} {w w' : World σ}
  {name : Name} {place : Location}

/-- Preparing a package makes no directory above it where the reference metadata is found. -/
theorem sameOutside_of_metadata {fs fs₁ fs₂ : FileSystem} {dir : Location}
    (hb : folder.Builds name) (hl : fs₂.Leads layout.root dir)
    (hframed : Framed (dir ++ [Package.dirName name]) fs fs₁)
    (hg : SameOutside (Below (dir ++ [Package.dirName name])) fs₁ fs₂) {r : Location × Entry}
    (h : fs₂.stat? layout.referenceMetadata = .ok r) :
    SameOutside (Below (dir ++ [Package.dirName name])) fs fs₁ := by
  refine hframed.sameOutside rfl ?_
  have hne : Package.dirName name ≠ Package.dirName (Text.Utf8.bytes Layout.referencePackage) :=
    fun heq => hb.2 (Package.dirName_injective heq)
  have hreference := exists_reference hl h
  rw [hg.at?_sibling hne.symm] at hreference
  -- the reference package is neither below the place nor above it, so it stood there before
  rcases hframed.entry _ fun hbelow => hne (eq_of_below hbelow List.prefix_rfl) with
    heq | ⟨hup, -, -⟩
  · rw [heq] at hreference
    obtain ⟨e, he⟩ := Option.ne_none_iff_exists'.1 hreference
    exact isDirectory_of_at? he
  · exact absurd (eq_of_below List.prefix_rfl hup) hne

/-- The entries of a package that was filled are those that its steps made, if its place held
    nothing but the source before. -/
theorem Filled.at?_eq_some_iff {copied filled : FileSystem}
    (h : Filled layout options name place copied filled)
    (hnone : ∀ n, n ≠ Package.sourceName → copied.at? (place ++ [n]) = none)
    {content : Bytes} {executable : Bool} {text : String}
    (hmeta : filled.at? (place ++ [Package.metadataName]) = some (.file content executable))
    (hdoc : filled.at? (place ++ [Package.documentName]) =
      some (.file (Rehearsal.compiled text) false)) (n : Name) (e : Entry) :
    filled.at? (place ++ [n]) = some e ↔ (n, e) ∈
      [(Package.sourceName, Entry.directory),
        (Package.metadataName, .file content executable),
        (Package.documentName, .file (Rehearsal.compiled text) false),
        (Package.previewName,
          .file (Rehearsal.drawn options.previewPage options.previewDpi) false)] := by
  have hnodup : Package.entryNames.Nodup := by decide
  have hdirectory := h.directory
  have hpreview := h.preview
  simp only [Package.entryNames, List.nodup_cons, List.mem_cons, List.not_mem_nil, or_false,
    not_or] at hnodup
  simp only [List.mem_cons, Prod.mk.injEq, List.not_mem_nil, or_false]
  by_cases hn : n ∈ Package.entryNames
  · simp only [Package.entryNames, List.mem_cons, List.not_mem_nil, or_false] at hn
    rcases hn with rfl | rfl | rfl | rfl <;> grind
  · simp only [Package.entryNames, List.mem_cons, List.not_mem_nil, or_false, not_or] at hn
    have hother : filled.at? (place ++ [n]) = none := by
      rw [h.other _ fun m hm hbelow => ?_, hnone n hn.1]
      obtain rfl := eq_of_below List.prefix_rfl hbelow
      simp [hn] at hm
    simp [hother, hn]

include ht

/-- **A built package holds the template's source as it stood, the reference metadata, the compiled
    document and the drawn page, and nothing else.** -/
theorem generate_ok_contents (hname : folder.name? = some name)
    (hroot : w.files.Straight layout.root)
    (hplace : place = w.files.place layout.root ++ [Package.dirName name])
    (hsource : Settled w.files (Below place) folder.path)
    (hmeta : Apart w.files (Below place) layout.referenceMetadata) {package : TemplatePackage}
    (h : generate tools layout options folder w = .ok package w') :
    package = Package.report name (layout.package name options.entryPoint) ∧
      w'.files.Leads package.dir place ∧
      ∃ loc content executable text,
        w.files.Leads folder.path loc ∧
        w.files.readFile layout.referenceMetadata = .ok content ∧
        w'.files.readText (layout.package name options.entryPoint).entryDocument = .ok text ∧
        (∀ n e, w'.files.at? (place ++ [n]) = some e ↔ (n, e) ∈
          [(Package.sourceName, Entry.directory),
            (Package.metadataName, .file content executable),
            (Package.documentName, .file (Rehearsal.compiled text) false),
            (Package.previewName,
              .file (Rehearsal.drawn options.previewPage options.previewDpi) false)]) ∧
        ∀ ns, w.files.IsCopy folder.path loc ns
          (w'.files.at? (place ++ Package.sourceName :: ns)) := by
  obtain ⟨name', _, hb, -⟩ := generate_eq_ok h
  obtain rfl : name = name' := Option.some.inj (hname.symm.trans hb.1)
  have hh : Hosts w.files (Below (w.files.place layout.root ++ [Package.dirName name]))
      layout.root (w.files.place layout.root) := Or.inr ⟨hroot, rfl⟩
  obtain ⟨hreport, fs₁, fs₂, hp, hframed, hcopy, hg₂, hg, hfilled⟩ := generate_ok_filled ht hb hh h
  rw [← hplace] at hframed hg₂ hg hfilled
  have hg₂' : Grows place fs₁ fs₂ := hg₂.mono (List.prefix_append _ _)
  obtain ⟨origin, content, executable, hstat, hmetadata⟩ := hfilled.metadata
  obtain ⟨text, htext, hdocument⟩ := hfilled.document
  -- from here on everything before the call is seen through what differs at the place only
  have hsame₁ : SameOutside (Below place) w.files fs₁ := by
    subst hplace
    exact sameOutside_of_metadata hb (hp.leads.mono hg₂'.keepsWays) hframed hg₂'.outside hstat
  have hinside : fs₁.Leads (layout.packageDir name) place := by
    rw [hplace]
    exact hp.inside hb.isOrdinary
  obtain ⟨loc, hleads, hcopied⟩ := copyLevels_copied w.files (Below place) pathLimit fs₁ fs₂
    folder.path (layout.packageDir name) place Package.sourceName hsource hsame₁
    (fun k => below_of_below (List.prefix_append _ _)) hinside (by decide)
    (by rw [hplace]; exact hp.empty _ (List.cons_ne_nil _ _)) hcopy
  refine ⟨hreport, ?_, loc, content, executable, text, hleads, ?_, htext, fun n e => ?_,
    fun ns => ?_⟩
  · rw [hreport]
    exact hinside.mono hg.keepsWays
  · rw [hmeta fs₂ (hsame₁.trans hg₂'.outside)] at hstat
    simp only [readFile, hstat]
  · refine hfilled.at?_eq_some_iff (fun m hm => ?_) hmetadata hdocument n e
    rw [hg₂.outside.at?_sibling hm, hplace]
    exact hp.empty _ (List.cons_ne_nil _ _)
  · rw [hfilled.source _ ⟨ns, by simp⟩]
    have := hcopied ns
    rwa [List.append_assoc] at this

end Contents

/-- A template with a directory, an executable file and a link out of its folder. -/
def garden : FileSystem :=
  .written [("T", .directory), ("T/Empty.sr", .directory),
    ("T/Empty.sr/Serifian.plist", .file (Text.Utf8.bytes "m") false),
    ("T/x.sr", .link (.ofString "../s")),
    ("s", .directory), ("s/x", .directory),
    ("s/x/main.typ", .file (Text.Utf8.bytes "= X") false), ("s/x/parts", .directory),
    ("s/x/parts/run", .file (Text.Utf8.bytes "go") true),
    ("s/x/parts/far", .link (.ofString "../../y")),
    ("s/y", .file (Text.Utf8.bytes "y") false)]

/-- The rehearsal of one build below `T`. -/
def rehearseBuild (fs : FileSystem) (folder : String) :
    EStateM.Result PackageError (World (List ToolCall)) TemplatePackage :=
  generate (Rehearsal.toolchain {}) ⟨.ofString "T"⟩ {} ⟨.ofString folder⟩ ⟨fs, []⟩

theorem generate_ok_contents_garden :
    ∃ package w', rehearseBuild garden "s/x" = .ok package w' ∧
      package = Package.report (Text.Utf8.bytes "x")
        ((⟨.ofString "T"⟩ : Layout).package (Text.Utf8.bytes "x") "main.typ") ∧
      w'.files.Leads package.dir [Text.Utf8.bytes "T", Text.Utf8.bytes "x.sr"] ∧
      ∃ loc content executable text,
        garden.Leads (.ofString "s/x") loc ∧
        garden.readFile (⟨.ofString "T"⟩ : Layout).referenceMetadata = .ok content ∧
        w'.files.readText ((⟨.ofString "T"⟩ : Layout).package (Text.Utf8.bytes "x")
          "main.typ").entryDocument = .ok text ∧
        (∀ n e, w'.files.at? ([Text.Utf8.bytes "T", Text.Utf8.bytes "x.sr"] ++ [n]) = some e ↔
          (n, e) ∈ [(Package.sourceName, Entry.directory),
            (Package.metadataName, .file content executable),
            (Package.documentName, .file (Rehearsal.compiled text) false),
            (Package.previewName, .file (Rehearsal.drawn 0 300) false)]) ∧
        ∀ ns, garden.IsCopy (.ofString "s/x") loc ns
          (w'.files.at? ([Text.Utf8.bytes "T", Text.Utf8.bytes "x.sr"] ++
            Package.sourceName :: ns)) := by
  obtain ⟨package, w', hbuild, -⟩ : ∃ package w',
      rehearseBuild garden "s/x" = .ok package w' ∧ true = true :=
    Disk.succeeds_iff.1 (by decide +kernel)
  have hfound : (garden.prune [Text.Utf8.bytes "T", Text.Utf8.bytes "x.sr"]).stat?
      (.ofString "s/x") = .ok ([Text.Utf8.bytes "s", Text.Utf8.bytes "x"], .directory) := by
    decide +kernel
  have hsource : Settled garden (Below [Text.Utf8.bytes "T", Text.Utf8.bytes "x.sr"])
      (.ofString "s/x") :=
    settled_of_prune hfound (by decide) (by decide) (by decide +kernel)
  have hmeta : Apart garden (Below [Text.Utf8.bytes "T", Text.Utf8.bytes "x.sr"])
      (⟨.ofString "T"⟩ : Layout).referenceMetadata := apart_of_toBool (by decide +kernel)
  have hname : (⟨.ofString "s/x"⟩ : TemplateFolder).name? = some (Text.Utf8.bytes "x") := by
    decide +kernel
  have hroot : garden.Straight (.ofString "T") := by decide +kernel
  have hplace : [Text.Utf8.bytes "T", Text.Utf8.bytes "x.sr"] =
      garden.place (.ofString "T") ++ [Package.dirName (Text.Utf8.bytes "x")] := by decide +kernel
  have h : generate (Rehearsal.toolchain {}) ⟨.ofString "T"⟩ {} ⟨.ofString "s/x"⟩ ⟨garden, []⟩ =
      .ok package w' := hbuild
  have hcontents := generate_ok_contents (rehearses_toolchain {}) hname hroot hplace hsource hmeta h
  exact ⟨package, w', hbuild, hcontents⟩

/-- A link of the template passes through what a link at the package's place led to. -/
def detour : FileSystem :=
  .written [("T", .directory), ("T/Empty.sr", .directory),
    ("T/Empty.sr/Serifian.plist", .file (Text.Utf8.bytes "m") false),
    ("T/f", .file (Text.Utf8.bytes "new") false),
    ("T/x.sr", .link (.ofString "../other/a")),
    ("other", .directory), ("other/a", .directory),
    ("other/f", .file (Text.Utf8.bytes "old") false),
    ("s", .directory), ("s/x", .directory),
    ("s/x/main.typ", .file (Text.Utf8.bytes "= X") false),
    ("s/x/g", .link (.ofString "../../T/x.sr/../f"))]

/-- **A link that passes through the package's place may be copied as something else than it led
    to**, although everything that the template's paths and the metadata lead to stands outside. -/
theorem generate_follows_detour :
    let place := [Text.Utf8.bytes "T", Text.Utf8.bytes "x.sr"]
    detour.Straight (.ofString "T") ∧
      ¬ [Text.Utf8.bytes "s", Text.Utf8.bytes "x"] <+: place ∧
      (∀ p ∈ ["s/x", "s/x/main.typ", "s/x/g", "T/Empty.sr/Serifian.plist"],
        ∃ loc e, detour.stat? (.ofString p) = .ok (loc, e) ∧ ¬ place <+: loc) ∧
      detour.readFile (.ofString "s/x/g") = .ok (Text.Utf8.bytes "old") ∧
      ∃ package w', rehearseBuild detour "s/x" = .ok package w' ∧
        w'.files.at? (place ++ [Package.sourceName, Text.Utf8.bytes "g"]) =
          some (.file (Text.Utf8.bytes "new") false) := by
  intro place
  refine ⟨by decide +kernel, by decide, ?_, by decide +kernel, ?_⟩
  · have hall : ∀ p ∈ ["s/x", "s/x/main.typ", "s/x/g", "T/Empty.sr/Serifian.plist"],
        ((detour.stat? (.ofString p)).toOption.any fun x => !place.isPrefixOf x.1) = true := by
      decide +kernel
    intro p hp
    have hfound := hall p hp
    cases hstat : detour.stat? (.ofString p) with
    | error e =>
      rw [hstat] at hfound
      cases hfound
    | ok x =>
      refine ⟨x.1, x.2, rfl, fun hpre => ?_⟩
      simp [hstat, Except.toOption, List.isPrefixOf_iff_prefix.2 hpre] at hfound
  · have hcopied : Disk.succeeds (fun _ w' => decide (w'.files.at?
        (place ++ [Package.sourceName, Text.Utf8.bytes "g"]) =
          some (.file (Text.Utf8.bytes "new") false))) (rehearseBuild detour "s/x") = true := by
      decide +kernel
    obtain ⟨package, w', h, hat⟩ := Disk.succeeds_iff.1 hcopied
    exact ⟨package, w', h, of_decide_eq_true hat⟩

end TemplatePress
