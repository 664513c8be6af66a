import TemplatePress.Proofs.Twins

/-!
# What a file system shows

File systems may keep the same entries in different orders. What can be told from outside is where
look-ups start, what stands at each location, and what each directory lists. This file fixes:

* `SameView`: two file systems show the same. Look-ups end in the same way there
  (`SameView.spot_eq`), and changes keep the views the same (`SameView.put`, `SameView.keepWhere`);
* every action on files answers the same on the same views, and leaves the same views
  (`removeIfPresent_view`, `makeDirectories_view`, `copyLevels_view`), and so does a rehearsal
  (`perform_view`).
-/

namespace TemplatePress

open FileSystem

namespace FileSystem

open TemplatePress.Path (Step)

/-! ## 1. Views -/

/-- Nothing tells the file systems apart. -/
structure SameView (fs fs' : FileSystem) : Prop where
  home : fs'.home = fs.home
  entry : ∀ loc, fs'.at? loc = fs.at? loc
  listing : ∀ dir, fs'.children dir = fs.children dir

namespace SameView

variable {fs fs' : FileSystem}

theorem refl (fs : FileSystem) : SameView fs fs :=
  ⟨rfl, fun _ => rfl, fun _ => rfl⟩

/-! ## 2. Look-ups -/

section Lookup

variable (h : SameView fs fs')

include h

theorem nowhere : SameOutside (fun _ => False) fs fs' :=
  ⟨h.home, fun loc _ => h.entry loc⟩

/-- **Every look-up ends in the same way.** -/
theorem spot_eq (follow : Bool) (p : Path) : fs'.spot follow p = fs.spot follow p :=
  h.nowhere.spot_eq follow p

theorem stat?_eq (p : Path) : fs'.stat? p = fs.stat? p :=
  h.nowhere.stat?_eq p

theorem lstat?_eq (p : Path) : fs'.lstat? p = fs.lstat? p := by
  simp only [lstat?, present, h.spot_eq, h.entry]

theorem leadsToDirectory_eq (p : Path) : fs'.leadsToDirectory p = fs.leadsToDirectory p := by
  simp only [leadsToDirectory, h.stat?_eq]

theorem readDirectory_eq (p : Path) : fs'.readDirectory p = fs.readDirectory p := by
  simp only [readDirectory, h.stat?_eq, h.listing]

theorem readText_eq (p : Path) : fs'.readText p = fs.readText p := by
  simp only [readText, readFile, h.stat?_eq]

theorem pathExists_eq (p : Path) : fs'.pathExists p = fs.pathExists p := by
  simp only [pathExists, h.stat?_eq]

theorem admits_eq (dir : Location) (n : Name) (e : Entry) :
    fs'.admits dir n e = fs.admits dir n e := by
  simp only [admits, isDirectory, h.entry]

/-! ## 3. Changes -/

/-- **What is put into the same views leaves the same views.** -/
theorem put (dir : Location) (n : Name) (e : Entry) :
    SameView (fs.put dir n e) (fs'.put dir n e) := by
  by_cases ha : fs.admits dir n e = true
  · have ha' : fs'.admits dir n e = true := (h.admits_eq dir n e).trans ha
    refine ⟨by rw [put_home, put_home, h.home], fun loc => ?_, fun d => ?_⟩
    · rw [at?_put ha, at?_put ha', h.entry]
    · rw [children_put ha, children_put ha', h.listing, h.listing]
  · have ha' : ¬ fs'.admits dir n e = true := fun hadm => ha ((h.admits_eq dir n e).symm.trans hadm)
    rwa [FileSystem.put, FileSystem.put, dif_neg ha, dif_neg ha']

theorem keepWhere (p : Location → Bool)
    (closed : ∀ dir n, p (dir ++ [n]) = true → p dir = true) :
    SameView (fs.keepWhere p closed) (fs'.keepWhere p closed) := by
  refine ⟨h.home, fun loc => ?_, fun dir => ?_⟩
  · by_cases hloc : loc = []
    · rw [hloc, at?_nil, at?_nil]
    · rw [at?_keepWhere _ _ _ _ hloc, at?_keepWhere _ _ _ _ hloc, h.entry]
  · rw [children_keepWhere, children_keepWhere, h.listing]

theorem prune (loc : Location) : SameView (fs.prune loc) (fs'.prune loc) :=
  h.keepWhere _ _

theorem clear (loc : Location) : SameView (fs.clear loc) (fs'.clear loc) :=
  h.keepWhere _ _

end Lookup

end SameView

/-! ## 4. Actions -/

/-- Both changes are refused with one error, or made with the same views. -/
inductive BothMade : Except IoError FileSystem → Except IoError FileSystem → Prop where
  | ok {a b : FileSystem} (h : SameView a b) : BothMade (.ok a) (.ok b)
  | error (e : IoError) : BothMade (.error e) (.error e)

/-- The action answers the same on the same views, and leaves the same views. -/
def Views {ε α : Type} (act : EStateM ε FileSystem α) : Prop :=
  ∀ fs fs', SameView fs fs' → Agree SameView (act fs) (act fs')

section Act

variable {fs fs' : FileSystem} (h : SameView fs fs')

include h

theorem makeDirectory_view (p : Path) : BothMade (fs.makeDirectory p) (fs'.makeDirectory p) := by
  simp only [makeDirectory, h.spot_eq, h.entry, h.admits_eq]
  split
  · exact .error _
  · split
    · exact .error _
    · split
      · exact .ok (h.put _ _ _)
      · exact .error _
  · exact .error _

theorem removeDirectory_view (p : Path) :
    BothMade (fs.removeDirectory p) (fs'.removeDirectory p) := by
  simp only [removeDirectory, h.spot_eq, h.entry, h.listing]
  split
  · exact .error _
  · exact .error _
  · exact .error _
  · split
    · exact .error _
    · split
      · exact .ok (h.prune _)
      · exact .error _
    · exact .error _

theorem writeTarget_view (p : Path) : fs'.writeTarget p = fs.writeTarget p := by
  simp only [writeTarget, h.spot_eq, h.entry, h.admits_eq]

end Act

theorem change_view {f : FileSystem → Except IoError FileSystem}
    (hf : ∀ fs fs', SameView fs fs' → BothMade (f fs) (f fs')) : Views (Disk.change f) := by
  intro fs fs' h
  have hmade := hf fs fs' h
  unfold Disk.change
  generalize f fs = x, f fs' = y at hmade ⊢
  cases hmade with
  | ok hab => exact .ok () hab
  | error e => exact .error e h

theorem writeFile_view (p : Path) (content : Bytes) :
    Views (Disk.change fun fs => fs.writeFile p content) := by
  refine change_view fun fs fs' h => ?_
  simp only [writeFile, writeTarget_view h]
  split
  · exact .error _
  · exact .ok (h.put _ _ _)

theorem copyFile_view (source destination : Path) :
    Views (Disk.change fun fs => fs.copyFile source destination) := by
  refine change_view fun fs fs' h => ?_
  simp only [copyFile, writeTarget_view h, h.stat?_eq]
  split
  · exact .error _
  · split
    · exact .error _
    · exact .ok (h.put _ _ _)
  · exact .error _

theorem makeFirst_view (way : List Path) : Views (makeFirst way) := by
  induction way with
  | nil => exact fun fs fs' h => .error _ h
  | cons p above ih =>
    intro fs fs' h
    simp only [makeFirst, h.leadsToDirectory_eq]
    split
    · exact .ok () h
    · have hmk := makeDirectory_view h p
      generalize fs.makeDirectory p = x, fs'.makeDirectory p = y at hmk ⊢
      cases hmk with
      | ok hab => exact .ok () hab
      | error e =>
        simp only
        split
        · have habove := ih fs fs' h
          generalize makeFirst above fs = x, makeFirst above fs' = y at habove ⊢
          cases habove with
          | error e hab => exact .error e hab
          | @ok _ a b hab =>
            have hmk := makeDirectory_view hab p
            simp only [hab.leadsToDirectory_eq]
            generalize a.makeDirectory p = x, b.makeDirectory p = y at hmk ⊢
            cases hmk with
            | ok hab => exact .ok () hab
            | error e =>
              simp only
              split
              · exact .ok () hab
              · exact .error e hab
        · split
          · exact .ok () h
          · exact .error e h

/-- **Directories are made alike on the same views.** -/
theorem makeDirectories_view (p : Path) : Views (makeDirectories p) :=
  makeFirst_view _

theorem removeTree_view (p : Path) (loc : Location) : Views (removeTree p loc) := by
  intro fs fs' h
  have hc := h.clear loc
  have hr := removeDirectory_view hc p
  simp only [removeTree]
  generalize (fs.clear loc).removeDirectory p = x, (fs'.clear loc).removeDirectory p = y at hr ⊢
  cases hr with
  | ok hab => exact .ok () hab
  | error e =>
    simp only
    split
    · exact .ok () hc
    · exact .error e hc

/-- **What stands at a path is removed alike on the same views.** -/
theorem removeIfPresent_view (p : Path) : Views (removeIfPresent p) := by
  intro fs fs' h
  simp only [removeIfPresent, h.lstat?_eq]
  split
  · split
    · exact .ok () h
    · exact .error _ h
  · exact removeTree_view p _ fs fs' h
  · exact .ok () (h.prune _)

theorem copyEntry_view {tree : Path → Path → Disk Unit} (htree : ∀ s d, Views (tree s d))
    (source destination : Path) (x : Name × Entry) :
    Views (copyEntry tree source destination x) := by
  intro fs fs' h
  obtain ⟨n, e⟩ := x
  cases e with
  | directory => exact htree _ _ fs fs' h
  | file _ _ => exact copyFile_view _ _ fs fs' h
  | link _ => exact copyFile_view _ _ fs fs' h

/-- **A tree is copied alike on the same views.** -/
theorem copyLevels_view (depth : Nat) (source destination : Path) :
    Views (copyLevels depth source destination) := by
  induction depth generalizing source destination with
  | zero => exact fun fs fs' h => .error _ h
  | succ depth ih =>
    intro fs fs' h
    have hmake := makeDirectories_view destination fs fs' h
    simp only [copyLevels]
    generalize makeDirectories destination fs = x, makeDirectories destination fs' = y at hmake ⊢
    cases hmake with
    | error e hab => exact .error e hab
    | ok _ hab =>
      simp only [hab.readDirectory_eq]
      split
      · exact .error _ hab
      · exact each_agree (fun x _ a b => copyEntry_view ih source destination x a b) hab

end FileSystem

/-! ## 5. Preparing and rehearsing -/

theorem prepare_view (dir : Path) : Views (Package.prepare dir) := by
  intro fs fs' h
  have hremove := removeIfPresent_view dir fs fs' h
  simp only [Package.prepare]
  generalize removeIfPresent dir fs = x, removeIfPresent dir fs' = y at hremove ⊢
  cases hremove with
  | error e hab => exact .error e hab
  | ok _ hab => exact makeDirectories_view dir _ _ hab

/-- **A rehearsal does the same on the same views**, and leaves the same views. -/
theorem perform_view (r : Rehearsal) (call : ToolCall) : Views (r.perform call) := by
  intro fs fs' h
  cases call with
  | clone url destination =>
    simp only [Rehearsal.perform]
    split
    · exact .error _ h
    · cases r.fixture with
      | none => exact wrapped_agree ToolError.io (makeDirectories_view destination fs fs' h)
      | some fixture =>
        exact wrapped_agree ToolError.io (copyLevels_view pathLimit fixture destination fs fs' h)
  | checkout repository reference => exact .ok () h
  | copyTree source destination =>
    exact wrapped_agree ToolError.io (copyLevels_view pathLimit source destination fs fs' h)
  | compile source output =>
    simp only [Rehearsal.perform, h.readText_eq]
    split
    · exact .error _ h
    · split
      · exact .error _ h
      · exact change_agree ToolError.io (writeFile_view _ _ fs fs' h)
  | rasterize document page dpi output =>
    simp only [Rehearsal.perform, h.pathExists_eq]
    split
    · exact change_agree ToolError.io (writeFile_view _ _ fs fs' h)
    · exact .error _ h

end TemplatePress
