import TemplatePress.Proofs.Frames

/-!
# No new links

Nothing that the program or a rehearsal does to files makes a link: what is put is a directory or a
file, and everything else only removes. This file fixes:

* `NoNewLinks`: every link of one file system stands in the other already;
* `MakesNoLink`: an action on files, whether it fails or not, leaves no new link. So do all actions
  (`makeDirectories_noLink`, `removeIfPresent_noLink`, `copyLevels_noLink`), every call of a
  rehearsal (`perform_noLink`);
* `fetchAll_reference`: where there are no links, fetching makes none, and the metadata of the
  reference package stays.
-/

namespace TemplatePress

namespace FileSystem

/-! ## 1. Changes -/

/-- Every link of the second file system stands in the first. -/
def NoNewLinks (fs fs' : FileSystem) : Prop :=
  ∀ loc target, fs'.at? loc = some (.link target) → fs.at? loc = some (.link target)

section Changes

variable {fs fs' fs'' : FileSystem}

theorem NoNewLinks.refl (fs : FileSystem) : NoNewLinks fs fs :=
  fun _ _ h => h

theorem NoNewLinks.trans (h : NoNewLinks fs fs') (h' : NoNewLinks fs' fs'') : NoNewLinks fs fs'' :=
  fun loc target hat => h loc target (h' loc target hat)

/-- Where there were no links there are none. -/
theorem NoNewLinks.linkFree (h : NoNewLinks fs fs') {top : Location} (hfree : fs.LinkFree top) :
    fs'.LinkFree top :=
  fun loc hloc target hat => hfree loc hloc target (h loc target hat)

theorem noNewLinks_put (fs : FileSystem) (dir : Location) (n : Name) {e : Entry}
    (he : e.isLink = false) : NoNewLinks fs (fs.put dir n e) := by
  intro loc target hat
  by_cases ha : fs.admits dir n e = true
  · rw [at?_put ha] at hat
    split at hat
    · cases hat
      cases he
    · exact hat
  · rwa [put, dif_neg ha] at hat

theorem noNewLinks_keepWhere (fs : FileSystem) (p : Location → Bool)
    (closed : ∀ dir n, p (dir ++ [n]) = true → p dir = true) :
    NoNewLinks fs (fs.keepWhere p closed) := by
  intro loc target hat
  by_cases hloc : loc = []
  · rw [hloc] at hat
    cases hat
  · rw [at?_keepWhere fs p closed loc hloc] at hat
    split at hat
    · exact hat
    · cases hat

theorem noNewLinks_prune (fs : FileSystem) (loc : Location) : NoNewLinks fs (fs.prune loc) :=
  noNewLinks_keepWhere fs _ _

theorem noNewLinks_makeDirectory {p : Path} (h : fs.makeDirectory p = .ok fs') :
    NoNewLinks fs fs' := by
  obtain ⟨dir, n, _, _, _, _, rfl⟩ := makeDirectory_eq_ok h
  exact noNewLinks_put fs dir n rfl

theorem noNewLinks_writeFile {p : Path} {content : Bytes} (h : fs.writeFile p content = .ok fs') :
    NoNewLinks fs fs' := by
  unfold writeFile at h
  split at h <;> cases h
  exact noNewLinks_put fs _ _ rfl

theorem noNewLinks_copyFile {source p : Path} (h : fs.copyFile source p = .ok fs') :
    NoNewLinks fs fs' := by
  unfold copyFile at h
  split at h
  · cases h
  · split at h <;> cases h
    exact noNewLinks_put fs _ _ rfl
  · cases h

theorem noNewLinks_removeDirectory {p : Path} (h : fs.removeDirectory p = .ok fs') :
    NoNewLinks fs fs' := by
  obtain ⟨loc, rfl⟩ : ∃ loc, fs' = fs.prune loc := by
    unfold removeDirectory at h
    split at h
    · cases h
    · cases h
    · cases h
    · split at h
      · cases h
      · split at h <;> cases h
        exact ⟨_, rfl⟩
      · cases h
  exact noNewLinks_prune fs loc

end Changes

/-! ## 2. Actions -/

/-- Whatever comes of the action, no link is new. -/
def MakesNoLink (act : Disk Unit) : Prop :=
  ∀ fs, NoNewLinks fs (Disk.left (act fs))

theorem makeDirectories_noLink (p : Path) : MakesNoLink (makeDirectories p) :=
  fun fs => makeDirectories_left (fun _ _ _ h hm => h.trans (noNewLinks_makeDirectory hm))
    (NoNewLinks.refl fs) p

theorem removeIfPresent_noLink (p : Path) : MakesNoLink (removeIfPresent p) := by
  intro fs
  unfold removeIfPresent
  split
  · split <;> exact NoNewLinks.refl fs
  · rename_i loc _
    have hclear : NoNewLinks fs (fs.clear loc) := noNewLinks_keepWhere fs _ _
    unfold removeTree
    simp only
    split
    · exact hclear.trans (noNewLinks_removeDirectory (by assumption))
    · split <;> exact hclear
  · exact noNewLinks_prune fs _

theorem copyLevels_noLink (depth : Nat) (source destination : Path) :
    MakesNoLink (copyLevels depth source destination) :=
  fun fs => copyLevels_left (fun _ _ _ h hm => h.trans (noNewLinks_makeDirectory hm))
    (fun _ _ _ _ h hc => h.trans (noNewLinks_copyFile hc)) (NoNewLinks.refl fs) depth source
    destination

end FileSystem

open FileSystem

/-! ## 3. Calls -/

theorem wrapped_noLink {ε : Type} (wrap : IoError → ε) {act : Disk Unit} (h : MakesNoLink act)
    (fs : FileSystem) :
    NoNewLinks fs (Disk.left
      (match act fs with
        | .ok () a => .ok () a
        | .error e a => .error (wrap e) a : EStateM.Result ε FileSystem Unit)) := by
  have hleft := h fs
  split <;> rename_i heq <;> rw [heq] at hleft <;> exact hleft

/-- **No call of a rehearsal makes a link.** -/
theorem perform_noLink (r : Rehearsal) (call : ToolCall) (fs : FileSystem) :
    NoNewLinks fs (Disk.left (r.perform call fs)) := by
  cases call with
  | clone url destination =>
    simp only [Rehearsal.perform]
    split
    · exact NoNewLinks.refl fs
    · cases r.fixture with
      | none => exact wrapped_noLink ToolError.io (makeDirectories_noLink destination) fs
      | some fixture =>
        exact wrapped_noLink ToolError.io (copyLevels_noLink pathLimit fixture destination) fs
  | checkout repository reference => exact NoNewLinks.refl fs
  | copyTree source destination =>
    simp only [Rehearsal.perform]
    exact wrapped_noLink ToolError.io (copyLevels_noLink pathLimit source destination) fs
  | compile source output =>
    simp only [Rehearsal.perform]
    split
    · exact NoNewLinks.refl fs
    · split
      · exact NoNewLinks.refl fs
      · split
        · exact noNewLinks_writeFile (by assumption)
        · exact NoNewLinks.refl fs
  | rasterize document page dpi output =>
    simp only [Rehearsal.perform]
    split
    · split
      · exact noNewLinks_writeFile (by assumption)
      · exact NoNewLinks.refl fs
    · exact NoNewLinks.refl fs

section Fetch

variable {σ : Type} {tools : Toolchain σ} {r : Rehearsal} (ht : tools.Rehearses r)
  {layout : Layout} {w : World σ}

include ht

theorem run_noLink (call : ToolCall) :
    NoNewLinks w.files (Disk.left (tools.run call w)).files :=
  ht.left (NoNewLinks.refl w.files) (perform_noLink r call w.files)

theorem fetch_noLink (host : String) (repository : RepositoryRef) :
    NoNewLinks w.files (Disk.left (fetch tools layout host repository w)).files := by
  unfold fetch
  split
  case isFalse => exact NoNewLinks.refl w.files
  have hclean := removeIfPresent_noLink (layout.cloneDir repository) w.files
  simp only [World.onFiles]
  cases hremove : removeIfPresent (layout.cloneDir repository) w.files with
  | error e fs =>
    rw [hremove] at hclean
    exact hclean
  | ok _ fs =>
    rw [hremove] at hclean
    have hclone := hclean.trans (run_noLink ht (w := { w with files := fs })
      (.clone (repository.cloneUrl host) (layout.cloneDir repository)))
    simp only
    split
    · rename_i heq
      rw [heq] at hclone
      exact hclone
    · rename_i w₂ heq
      rw [heq] at hclone
      have hcheckout := checkoutReference_left ht (w := w₂) repository (layout.cloneDir repository)
      split <;> rename_i heq <;> rw [heq] at hcheckout
      · rw [Disk.left_error] at hcheckout ⊢
        rw [hcheckout]
        exact hclone
      · rw [Disk.left_ok] at hcheckout ⊢
        rw [hcheckout]
        exact hclone

/-- A fetch keeps the metadata of the reference package, where there are no links. -/
theorem fetch_reference (host : String) (repository : RepositoryRef) (hfree : w.files.LinkFree [])
    (hup : layout.root.NeverUp) {loc : Location} {e : Entry}
    (hmeta : w.files.stat? layout.referenceMetadata = .ok (loc, e)) :
    (Disk.left (fetch tools layout host repository w)).files.stat? layout.referenceMetadata =
      .ok (loc, e) := by
  have hs := straight_referenceMetadata hfree hup
  have hguarded : Guarded layout (w.files.place layout.root) [.fetch host repository] w.files :=
    ⟨straight_of_linkFree hfree hup, rfl, fun target => hfree _ List.nil_prefix target,
      fun _ _ _ _ target => hfree _ List.nil_prefix target⟩
  rcases act_framed ht List.mem_cons_self hguarded with ⟨top, htop, hframed⟩ | heq
  · rw [← hmeta]
    refine stat?_congr hs hframed.home fun ns hns => ?_
    have hup : w.files.start layout.referenceMetadata ++ ns <+:
        w.files.place layout.referenceMetadata := (List.prefix_append_right_inj _).2 hns
    have hapart := reference_apart htop (below_referenceMetadata w.files layout)
    -- on the way to the metadata nothing is missing that could be made
    exact (hframed.entry _ fun hbelow => hapart.1 (below_of_below hbelow hup)).resolve_right
      fun hnew => at?_way_ne_none hs hmeta hns hnew.2.1
  · have hsame : Disk.left (fetch tools layout host repository w) = w := heq
    rw [hsame]
    exact hmeta

/-- **Where there are no links, fetching makes none and keeps the metadata of the reference
    package.** -/
theorem fetchAll_reference (host : String) {repositories : List RepositoryRef}
    (hup : layout.root.NeverUp) {loc : Location} {e : Entry} (hfree : w.files.LinkFree [])
    (hmeta : w.files.stat? layout.referenceMetadata = .ok (loc, e)) {u : Unit} {w' : World σ}
    (h : fetchAll tools layout host repositories w = .ok u w') :
    w'.files.LinkFree [] ∧ w'.files.stat? layout.referenceMetadata = .ok (loc, e) := by
  induction repositories generalizing w with
  | nil =>
    cases h
    exact ⟨hfree, hmeta⟩
  | cons repository rest ih =>
    have hlinks : NoNewLinks w.files
        (Disk.left (fetch tools layout host repository w)).files := fetch_noLink ht host repository
    have hkept := fetch_reference ht host repository hfree hup hmeta
    unfold fetchAll at h
    split at h
    · cases h
    · rename_i heq
      rw [heq] at hlinks hkept
      exact ih (hlinks.linkFree hfree) hkept h

end Fetch

end TemplatePress
