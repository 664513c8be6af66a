import TemplatePress.Proofs.Erasure
import TemplatePress.Proofs.Packages

/-!
# Two runs side by side

The same steps taken in two file systems that differ in a region only answer the same and leave
what differs in that region only, as long as nothing they read depends on the region. This file
fixes:

* `Twins`: two file systems are the same outside a region, and at a location in it and below; one
  put keeps that (`Twins.put`);
* `Abreast`: twins in both of which the copying, writing and drawing may start;
* each step of filling a package keeps two runs abreast (`copyLevels_agree` by induction on the
  depth, `fill_agree`).
-/

namespace TemplatePress

open FileSystem

namespace FileSystem

/-! ## 1. Twins -/

/-- The file systems are the same at and below a location, and outside a region. -/
structure Twins (region : Location → Prop) (top : Location) (fs fs' : FileSystem) : Prop where
  home : fs'.home = fs.home
  entry : ∀ loc, Below top loc ∨ ¬ region loc → fs'.at? loc = fs.at? loc
  listing : ∀ dir, Below top dir ∨ (∀ ns, ¬ region (dir ++ ns)) → fs'.children dir = fs.children dir

section Twins

variable {region : Location → Prop} {top : Location} {fs fs' : FileSystem}

/-- Where nothing stands below, nothing is listed. -/
theorem children_of_empty (h : ∀ ns, ns ≠ [] → fs.at? (top ++ ns) = none) {dir : Location}
    (hdir : Below top dir) : fs.children dir = [] := by
  obtain ⟨ns, rfl⟩ := hdir
  refine List.eq_nil_iff_forall_not_mem.2 fun x hx => ?_
  have hx := mem_children.1 hx
  rw [List.append_assoc, h _ (by simp)] at hx
  cases hx

/-- **States with nothing below a location are twins there**, if they are the same outside the
    region. -/
theorem twins_of_empty (hsame : SameOutside region fs fs')
    (hlisting : ∀ dir, (∀ ns, ¬ region (dir ++ ns)) → fs'.children dir = fs.children dir)
    (hat : fs'.at? top = fs.at? top) (h : ∀ ns, ns ≠ [] → fs.at? (top ++ ns) = none)
    (h' : ∀ ns, ns ≠ [] → fs'.at? (top ++ ns) = none) : Twins region top fs fs' := by
  refine ⟨hsame.home, ?_, ?_⟩
  · rintro loc (⟨ns, rfl⟩ | hloc)
    · by_cases hns : ns = []
      · rw [hns, List.append_nil, hat]
      · rw [h ns hns, h' ns hns]
    · exact hsame.entry loc hloc
  · rintro dir (hin | hout)
    · rw [children_of_empty h hin, children_of_empty h' hin]
    · exact hlisting dir hout

theorem Twins.outside (h : Twins region top fs fs') : SameOutside region fs fs' :=
  ⟨h.home, fun loc hloc => h.entry loc (Or.inr hloc)⟩

theorem put_home (fs : FileSystem) (dir : Location) (n : Name) (e : Entry) :
    (fs.put dir n e).home = fs.home := by
  unfold put
  split <;> rfl

/-- **An entry put in both twins leaves them twins.** -/
theorem Twins.put (h : Twins region top fs fs') {dir : Location} {n : Name} {e : Entry}
    (ha : fs.admits dir n e = true) (ha' : fs'.admits dir n e = true) :
    Twins region top (fs.put dir n e) (fs'.put dir n e) := by
  refine ⟨by rw [put_home, put_home, h.home], fun loc hloc => ?_, fun d hd => ?_⟩
  · rw [at?_put ha, at?_put ha', h.entry loc hloc]
  · rw [children_put ha, children_put ha']
    split
    · rename_i heq
      rw [← heq, h.listing d hd]
    · exact h.listing d hd

end Twins

/-! ## 2. Copying in both -/

/-- Items acted on in turn, in both states up to the first failure. -/
theorem each_agree {α : Type} {act act' : α → Disk Unit} {R : FileSystem → FileSystem → Prop}
    {items : List α} (hact : ∀ a ∈ items, ∀ fs fs', R fs fs' → Agree R (act a fs) (act' a fs'))
    {fs fs' : FileSystem} (h : R fs fs') : Agree R (each act items fs) (each act' items fs') := by
  induction items generalizing fs fs' with
  | nil => exact .ok () h
  | cons a rest ih =>
    have ha := hact a List.mem_cons_self fs fs' h
    unfold each
    generalize act a fs = x, act' a fs' = y at ha ⊢
    cases ha with
    | ok _ h₁ => exact ih (fun b hb => hact b (List.mem_cons_of_mem _ hb)) h₁
    | error e h₁ => exact .error e h₁

/-- Twins in which a path leads to one directory, below which no link stands; outside the region
    they are as at the start. -/
structure Abreast (start : FileSystem) (region : Location → Prop) (top : Location) (p : Path)
    (dir : Location) (fs fs' : FileSystem) : Prop where
  twins : Twins region top fs fs'
  one : Ready fs p dir
  other : Ready fs' p dir
  outside : SameOutside region start fs

section Abreast

variable {start fs fs' : FileSystem} {region : Location → Prop} {top dir : Location} {p : Path}
  {n : Name}

theorem Abreast.outside' (h : Abreast start region top p dir fs fs') :
    SameOutside region start fs' :=
  h.outside.trans h.twins.outside

/-- What does not depend on the region is the same in both. -/
theorem Abreast.stat?_eq (h : Abreast start region top p dir fs fs') {q : Path}
    (hq : Apart start region q) : fs'.stat? q = fs.stat? q :=
  (hq fs' h.outside').trans (hq fs h.outside).symm

/-- **While the region grows in both, they stay abreast.** -/
theorem Abreast.grows (h : Abreast start region top p dir fs fs') {a b : FileSystem}
    {t t' : Location} (ht : Twins region top a b) (hg : Grows t fs a) (hg' : Grows t' fs' b)
    (hr : ∀ k, Below t k → region k) : Abreast start region top p dir a b :=
  ⟨ht, h.one.grows hg, h.other.grows hg', h.outside.trans (hg.outside.mono hr)⟩

theorem Abreast.agree (h : Abreast start region top p dir fs fs') {ε α : Type} {t t' : Location}
    {x y : EStateM.Result ε FileSystem α} (ha : Agree (Twins region top) x y)
    (hg : Grows t fs (Disk.left x)) (hg' : Grows t' fs' (Disk.left y))
    (hr : ∀ k, Below t k → region k) : Agree (Abreast start region top p dir) x y :=
  ha.of_left (h.grows ha.left hg hg' hr)

/-- A directory inside is led to in both. -/
theorem Abreast.join (h : Abreast start region top p dir fs fs') (hn : Name.isOrdinary n = true)
    (hc : nameCheck p n = .ok ()) (hat : fs.at? (dir ++ [n]) = some .directory)
    (hat' : fs'.at? (dir ++ [n]) = some .directory) :
    Abreast start region top (p.join ⟨n⟩) (dir ++ [n]) fs fs' :=
  ⟨h.twins, ⟨h.one.leads.join hn (length_le_of_nameCheck hc) hat, h.one.free.below [n]⟩,
    ⟨h.other.leads.join hn (length_le_of_nameCheck hc) hat', h.other.free.below [n]⟩, h.outside⟩

section Inside

variable (h : Abreast start region top p dir fs fs') (hn : Name.isOrdinary n = true)
  (hin : Below top (dir ++ [n]))

include h hn hin

theorem makeDirectories_agree :
    Agree (Twins region top) (makeDirectories (p.join ⟨n⟩) fs)
      (makeDirectories (p.join ⟨n⟩) fs') := by
  have hat := h.twins.entry _ (Or.inl hin)
  rw [makeDirectories_join_eq h.one.leads hn (h.one.free.below [n]).self,
    makeDirectories_join_eq h.other.leads hn (h.other.free.below [n]).self, hat]
  split
  · exact .error _ h.twins
  · exact .ok () (h.twins.put (admits_join h.one.leads hn (Or.inl rfl))
      (admits_join h.other.leads hn (Or.inl rfl)))
  · exact .ok () h.twins
  · exact .error _ h.twins

theorem writeTarget_eq : fs'.writeTarget (p.join ⟨n⟩) = fs.writeTarget (p.join ⟨n⟩) := by
  rw [writeTarget_join_eq h.one.leads hn (h.one.free.below [n]).self,
    writeTarget_join_eq h.other.leads hn (h.other.free.below [n]).self,
    h.twins.entry _ (Or.inl hin)]

/-- Where a file may be written in one of the twins it may be put in both. -/
theorem put_file_twins {d : Location} {m : Name} {old : Option Bool}
    (hw : fs.writeTarget (p.join ⟨n⟩) = .ok (d, m, old)) (content : Bytes) (executable : Bool) :
    Twins region top (fs.put d m (.file content executable))
      (fs'.put d m (.file content executable)) := by
  obtain ⟨rfl, rfl, -, hdir⟩ :=
    writeTarget_join h.one.leads hn (h.one.free.below [n]).self hw
  refine h.twins.put (admits_join h.one.leads hn (Or.inr hdir))
    (admits_join h.other.leads hn (Or.inr ?_))
  rwa [h.twins.entry _ (Or.inl hin)]

/-- **A file is written in both, or in neither.** -/
theorem writeFile_agree (content : Bytes) :
    Agree (Twins region top) (Disk.change (fun fs => fs.writeFile (p.join ⟨n⟩) content) fs)
      (Disk.change (fun fs => fs.writeFile (p.join ⟨n⟩) content) fs') := by
  simp only [Disk.change, writeFile, writeTarget_eq h hn hin]
  cases hw : fs.writeTarget (p.join ⟨n⟩) with
  | error e => exact .error e h.twins
  | ok target => exact .ok () (put_file_twins h hn hin hw _ _)

/-- **A file that both read the same is copied in both, or in neither.** -/
theorem copyFile_agree {source : Path} (hs : fs'.stat? source = fs.stat? source) :
    Agree (Twins region top) (Disk.change (fun fs => fs.copyFile source (p.join ⟨n⟩)) fs)
      (Disk.change (fun fs => fs.copyFile source (p.join ⟨n⟩)) fs') := by
  simp only [Disk.change, copyFile, hs, writeTarget_eq h hn hin]
  match fs.stat? source with
  | .error e => exact .error e h.twins
  | .ok (loc, .directory) => exact .error _ h.twins
  | .ok (loc, .link _) => exact .error _ h.twins
  | .ok (loc, .file content executable) =>
    cases hw : fs.writeTarget (p.join ⟨n⟩) with
    | error e => exact .error e h.twins
    | ok target => exact .ok () (put_file_twins h hn hin hw _ _)

end Inside

end Abreast

/-- The copier acts the same on file systems abreast, for sources that are settled outside the
    region. -/
def ActsAlike (start : FileSystem) (region : Location → Prop) (top : Location)
    (tree : Path → Path → Disk Unit) : Prop :=
  ∀ (fs fs' : FileSystem) (source p : Path) (dir : Location) (n : Name),
    Settled start region source → Abreast start region top p dir fs fs' →
    Name.isOrdinary n = true → Below top (dir ++ [n]) →
    Agree (Twins region top) (tree source (p.join ⟨n⟩) fs) (tree source (p.join ⟨n⟩) fs')

section Copy

variable {start fs fs' : FileSystem} {region : Location → Prop} {top dir loc : Location}
  {source p : Path} (hregion : ∀ k, Below top k → region k)

/-- An entry of the source is copied in both, or in neither. -/
theorem copyEntry_agree {tree : Path → Path → Disk Unit} (htree : ActsAlike start region top tree)
    (hs : Settled start region source) (hsl : start.Leads source loc)
    (h : Abreast start region top p dir fs fs') (hin : Below top dir) {x : Name × Entry}
    (hx : start.at? (loc ++ [x.1]) = some x.2) :
    Agree (Twins region top) (copyEntry tree source p x fs) (copyEntry tree source p x fs') := by
  obtain ⟨n, e⟩ := x
  have hn : Name.isOrdinary n = true := isOrdinary_of_at? hx
  have hin' : Below top (dir ++ [n]) := hin.trans (List.prefix_append _ _)
  have hread : fs'.stat? (source.join ⟨n⟩) = fs.stat? (source.join ⟨n⟩) :=
    h.stat?_eq (hs.inside loc hsl [n] (by simp [hx]))
  cases e with
  | directory => exact htree fs fs' _ p dir n (hs.join hsl hx) h hn hin'
  | file _ _ => exact copyFile_agree h hn hin' hread
  | link _ => exact copyFile_agree h hn hin' hread

include hregion

/-- **The entries of a directory are copied in both, up to the same entry.** -/
theorem copyEntries_agree {tree : Path → Path → Disk Unit} (hgrows : OnlyGrows tree)
    (htree : ActsAlike start region top tree) (hs : Settled start region source)
    (hsl : start.Leads source loc) (h : Abreast start region top p dir fs fs')
    (hin : Below top dir) {entries : List (Name × Entry)}
    (hentries : ∀ x ∈ entries, start.at? (loc ++ [x.1]) = some x.2) :
    Agree (Twins region top) (each (copyEntry tree source p) entries fs)
      (each (copyEntry tree source p) entries fs') := by
  have hagree : Agree (Abreast start region top p dir) (each (copyEntry tree source p) entries fs)
      (each (copyEntry tree source p) entries fs') := by
    refine each_agree (fun x hx a b hab => ?_) h
    have hn : Name.isOrdinary x.1 = true := isOrdinary_of_at? (hentries x hx)
    refine hab.agree (copyEntry_agree htree hs hsl hab hin (hentries x hx))
      (copyEntry_grows hgrows source hab.one.leads hab.one.free hn)
      (copyEntry_grows hgrows source hab.other.leads hab.other.free hn) fun k hk => ?_
    exact hregion k ((hin.trans (List.prefix_append _ _)).trans hk)
  exact hagree.of_left hagree.left.twins

/-- What is in a directory is copied in both alike. -/
theorem copyContents_agree {tree : Path → Path → Disk Unit} (hgrows : OnlyGrows tree)
    (htree : ActsAlike start region top tree) (hs : Settled start region source)
    (h : Abreast start region top p dir fs fs') (hin : Below top dir) :
    Agree (Twins region top)
      (match fs.readDirectory source with
        | .error e => .error e fs
        | .ok entries => each (copyEntry tree source p) entries fs)
      (match fs'.readDirectory source with
        | .error e => .error e fs'
        | .ok entries => each (copyEntry tree source p) entries fs') := by
  have hstat := hs.path fs h.outside
  have hread := h.stat?_eq hs.path
  simp only [readDirectory, hread]
  cases hstat₁ : fs.stat? source with
  | error e => exact .error e h.twins
  | ok found =>
    obtain ⟨loc, e⟩ := found
    cases e with
    | file _ _ => exact .error _ h.twins
    | link _ => exact .error _ h.twins
    | directory =>
      have hsl : start.Leads source loc := leads_of_stat? (hstat.symm.trans hstat₁)
      have hout := hs.outside loc hsl
      simp only [h.twins.listing loc (Or.inr hout)]
      refine copyEntries_agree hregion hgrows htree hs hsl h hin fun x hx => ?_
      rw [← h.outside.entry _ (hout [x.1])]
      exact mem_children.1 hx

/-- **A tree is copied in both alike**: the source reads the same in both, and what the copying
    itself made before is the same. -/
theorem copyLevels_agree (depth : Nat) : ActsAlike start region top (copyLevels depth) := by
  induction depth with
  | zero => exact fun fs fs' source p dir n _ h _ _ => .error _ h.twins
  | succ depth ih =>
    intro fs fs' source p dir n hs h hn hin
    have hmake := makeDirectories_agree h hn hin
    simp only [copyLevels]
    generalize hm : makeDirectories (p.join ⟨n⟩) fs = x,
      hm' : makeDirectories (p.join ⟨n⟩) fs' = y at hmake ⊢
    cases hmake with
    | error e ht => exact .error e ht
    | @ok _ a b ht =>
      obtain ⟨hc, hat, hg, -⟩ :=
        makeDirectories_join_ok h.one.leads hn (h.one.free.below [n]).self hm
      obtain ⟨-, hat', hg', -⟩ :=
        makeDirectories_join_ok h.other.leads hn (h.other.free.below [n]).self hm'
      have hab : Abreast start region top (p.join ⟨n⟩) (dir ++ [n]) a b :=
        (h.grows ht hg hg' fun k hk => hregion k (hin.trans hk)).join hn hc hat hat'
      exact copyContents_agree hregion (copyLevels_grows depth) ih hs hab hin

end Copy

end FileSystem

/-! ## 3. Filling a package in both -/

section Wrap

variable {σ τ ε α : Type} {R : FileSystem → FileSystem → Prop} {fs fs' : FileSystem}

theorem change_agree (wrap : IoError → ε) {f : FileSystem → Except IoError FileSystem}
    (h : Agree R (Disk.change f fs) (Disk.change f fs')) :
    Agree R
      (match f fs with
        | .ok a => .ok () a
        | .error e => .error (wrap e) fs : EStateM.Result ε FileSystem Unit)
      (match f fs' with
        | .ok a => .ok () a
        | .error e => .error (wrap e) fs') := by
  unfold Disk.change at h
  generalize f fs = x, f fs' = y at h ⊢
  cases x <;> cases y <;> cases h
  · exact .error _ ‹_›
  · exact .ok () ‹_›

theorem wrapped_agree (wrap : IoError → ε) {act : Disk Unit} (h : Agree R (act fs) (act fs')) :
    Agree R
      (match act fs with
        | .ok () a => .ok () a
        | .error e a => .error (wrap e) a : EStateM.Result ε FileSystem Unit)
      (match act fs' with
        | .ok () a => .ok () a
        | .error e a => .error (wrap e) a) := by
  generalize act fs = x, act fs' = y at h ⊢
  cases h with
  | ok _ h => exact .ok () h
  | error e h => exact .error (wrap e) h

theorem onFiles_agree (wrap : IoError → ε) {act act' : Disk α} {w : World σ} {w' : World τ}
    (h : Agree R (act w.files) (act' w'.files)) :
    Agree (fun a b => R a.files b.files) (World.onFiles wrap act w) (World.onFiles wrap act' w') := by
  unfold World.onFiles
  generalize act w.files = x, act' w'.files = y at h ⊢
  cases h with
  | ok a h => exact .ok a h
  | error e h => exact .error (wrap e) h

theorem ask_agree {S : World σ → World τ → Prop} {tools : Toolchain σ} {tools' : Toolchain τ}
    {call : ToolCall} (wrap : ToolError → PackageError) {w : World σ} {w' : World τ}
    (h : Agree S (tools.run call w) (tools'.run call w')) :
    Agree S (Package.ask tools call wrap w) (Package.ask tools' call wrap w') := by
  unfold Package.ask
  generalize tools.run call w = x, tools'.run call w' = y at h ⊢
  cases h with
  | ok a h => exact .ok () h
  | error e h => exact .error (wrap e) h

/-- What was called before does not change what a rehearsal does. -/
theorem run_agree {r : Rehearsal} {call : ToolCall} {w w' : World (List ToolCall)}
    (h : Agree R (r.perform call w.files) (r.perform call w'.files)) :
    Agree (fun a b => R a.files b.files) (r.toolchain.run call w) (r.toolchain.run call w') := by
  simp only [Rehearsal.toolchain]
  generalize r.perform call w.files = x, r.perform call w'.files = y at h ⊢
  cases h with
  | ok a h => exact .ok () h
  | error e h => exact .error e h

end Wrap

section Perform

variable {start fs fs' : FileSystem} {region : Location → Prop} {top dir : Location} {p : Path}
  {n : Name} (h : Abreast start region top p dir fs fs') (hn : Name.isOrdinary n = true)
  (hin : Below top (dir ++ [n])) (r : Rehearsal)

include h hn hin

theorem perform_copyTree_agree (hregion : ∀ k, Below top k → region k) {source : Path}
    (hs : Settled start region source) :
    Agree (Twins region top) (r.perform (.copyTree source (p.join ⟨n⟩)) fs)
      (r.perform (.copyTree source (p.join ⟨n⟩)) fs') := by
  simp only [Rehearsal.perform, copyTree]
  exact wrapped_agree ToolError.io
    (copyLevels_agree hregion pathLimit fs fs' source p dir n hs h hn hin)

theorem perform_compile_agree {source : Path} (hread : fs'.readText source = fs.readText source) :
    Agree (Twins region top) (r.perform (.compile source (p.join ⟨n⟩)) fs)
      (r.perform (.compile source (p.join ⟨n⟩)) fs') := by
  simp only [Rehearsal.perform, hread]
  cases fs.readText source with
  | error e => exact .error _ h.twins
  | ok text =>
    simp only
    split
    · exact .error _ h.twins
    · exact change_agree ToolError.io (writeFile_agree h hn hin (Rehearsal.compiled text))

theorem perform_rasterize_agree {document : Path}
    (hread : fs'.pathExists document = fs.pathExists document) (page dpi : Nat) :
    Agree (Twins region top) (r.perform (.rasterize document page dpi (p.join ⟨n⟩)) fs)
      (r.perform (.rasterize document page dpi (p.join ⟨n⟩)) fs') := by
  simp only [Rehearsal.perform, hread]
  split
  · exact change_agree ToolError.io (writeFile_agree h hn hin (Rehearsal.drawn page dpi))
  · exact .error _ h.twins

end Perform

/-- Whether something stands at a name inside is the same in both. -/
theorem FileSystem.Abreast.pathExists_eq {start fs fs' : FileSystem} {region : Location → Prop}
    {top dir : Location} {p : Path} {n : Name} (h : Abreast start region top p dir fs fs')
    (hn : Name.isOrdinary n = true) (hin : Below top (dir ++ [n])) :
    fs'.pathExists (p.join ⟨n⟩) = fs.pathExists (p.join ⟨n⟩) := by
  unfold pathExists
  cases hc : nameCheck p n with
  | error e => rw [stat?_join_error h.one.leads hn hc, stat?_join_error h.other.leads hn hc]
  | ok =>
    rw [stat?_join h.one.leads hn hc (h.one.free.below [n]).self,
      stat?_join h.other.leads hn hc (h.other.free.below [n]).self, h.twins.entry _ (Or.inl hin)]

section Fill

variable {r : Rehearsal} {layout : Layout} {options : PackageOptions} {name : Name} {folder : Path}
  {start : FileSystem} {region : Location → Prop} {place : Location}
  {w w' : World (List ToolCall)}

/-- **A package is filled in both alike**, if the entry document reads the same in both once the
    source is copied. -/
theorem fill_agree (hregion : ∀ k, Below place k → region k)
    (h : Abreast start region place (layout.packageDir name) place w.files w'.files)
    (hsource : Settled start region folder) (hmeta : Apart start region layout.referenceMetadata)
    (hentry : ∀ a b, Grows place w.files a →
      Abreast start region place (layout.packageDir name) place a b →
      b.readText (layout.package name options.entryPoint).entryDocument =
        a.readText (layout.package name options.entryPoint).entryDocument) :
    Agree (fun a b => Twins region place a.files b.files)
      (Package.fill r.toolchain layout options folder (layout.package name options.entryPoint) w)
      (Package.fill r.toolchain layout options folder (layout.package name options.entryPoint)
        w') := by
  have ht := rehearses_toolchain r
  -- both runs stay abreast, and the place of the first one grows
  let R (a b : World (List ToolCall)) : Prop :=
    Abreast start region place (layout.packageDir name) place a.files b.files ∧
      Grows place w.files a.files
  have hstep : ∀ {n : Name} {a b : World (List ToolCall)}
      {x y : EStateM.Result PackageError (World (List ToolCall)) Unit}, R a b →
      Agree (fun a b => Twins region place a.files b.files) x y →
      Grows (place ++ [n]) a.files (Disk.left x).files →
      Grows (place ++ [n]) b.files (Disk.left y).files → Agree R x y := by
    intro n a b x y hR hxy hg hg'
    have hup : place <+: place ++ [n] := List.prefix_append _ _
    exact hxy.of_left ⟨hR.1.grows hxy.left hg hg' fun k hk => hregion k (hup.trans hk),
      hR.2.trans (hg.mono hup)⟩
  have hbelow : ∀ n : Name, Below place (place ++ [n]) := fun n => List.prefix_append _ _
  have hall : Agree R
      (Package.fill r.toolchain layout options folder (layout.package name options.entryPoint) w)
      (Package.fill r.toolchain layout options folder (layout.package name options.entryPoint)
        w') := by
    unfold Package.fill
    refine Agree.bind (hstep (n := Package.sourceName) ⟨h, Grows.refl _ _⟩
      (ask_agree _ (run_agree
        (perform_copyTree_agree h (by decide) (hbelow Package.sourceName) r hregion hsource)))
      ?_ ?_) fun _ a b hR => ?_
    · rw [ask_left]
      exact run_copyTree_grows ht h.one options.entryPoint folder
    · rw [ask_left]
      exact run_copyTree_grows ht h.other options.entryPoint folder
    refine Agree.bind (hstep (n := Package.metadataName) hR
      (onFiles_agree _
        (copyFile_agree hR.1 (by decide) (hbelow Package.metadataName) (hR.1.stat?_eq hmeta)))
      ?_ ?_) fun _ a b hR => ?_
    · rw [onFiles_left]
      exact copyFile_grows hR.1.one.leads (by decide)
        (hR.1.one.free.below [Package.metadataName]) layout.referenceMetadata
    · rw [onFiles_left]
      exact copyFile_grows hR.1.other.leads (by decide)
        (hR.1.other.free.below [Package.metadataName]) layout.referenceMetadata
    refine Agree.bind (hstep (n := Package.documentName) hR
      (ask_agree _ (run_agree (perform_compile_agree hR.1 (by decide)
        (hbelow Package.documentName) r (hentry _ _ hR.2 hR.1)))) ?_ ?_) fun _ a b hR => ?_
    · rw [ask_left]
      exact run_compile_grows ht hR.1.one options.entryPoint _
    · rw [ask_left]
      exact run_compile_grows ht hR.1.other options.entryPoint _
    refine hstep (n := Package.previewName) hR
      (ask_agree _ (run_agree (perform_rasterize_agree hR.1 (by decide)
        (hbelow Package.previewName) r
        (hR.1.pathExists_eq (by decide) (hbelow Package.documentName)) _ _))) ?_ ?_
    · rw [ask_left]
      exact run_rasterize_grows ht hR.1.one options.entryPoint _ _ _
    · rw [ask_left]
      exact run_rasterize_grows ht hR.1.other options.entryPoint _ _ _
  exact hall.of_left hall.left.1.twins

end Fill

end TemplatePress
