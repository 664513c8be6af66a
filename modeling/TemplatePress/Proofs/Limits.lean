import TemplatePress.Proofs.Duplicates
import TemplatePress.Proofs.Ways

/-!
# Copies within the limits

A tree whose paths are all within their limits is copied to its end if every link in it leads to a
file. This file fixes:

* what is copied or written to where nothing stands succeeds if its name is taken there
  (`exists_copyFile_join`, `exists_writeFile_join`);
* `Fits`: the paths of a tree, and those of its copy, are within their limits;
* `Resolves`: everything in a tree that is no directory leads to a file. Of a tree that fits, only
  the links are in question (`resolves_iff_links`);
* `Copyable`: what a copy needs to come to its end, and `Fillable`: what the entries of a directory
  need to be copied into another. The one hands to the other at each level (`Copyable.fillable`,
  `Fillable.copyable`);
* `copyLevels_completes`: the copy comes to its end. Each level makes the path of the source longer,
  so that the limit on paths is enough for the depth.
-/

namespace TemplatePress.FileSystem

/-! ## 1. New files -/

section Join

variable {fs : FileSystem} {p : Path} {dir : Location} {n : Name} (hl : fs.Leads p dir)
  (hn : Name.isOrdinary n = true) (hc : nameCheck p n = .ok ()) (hnone : fs.at? (dir ++ [n]) = none)

include hl hn hc hnone

theorem exists_copyFile_join {source : Path} {origin : Location} {content : Bytes}
    {executable : Bool} (hs : fs.stat? source = .ok (origin, .file content executable)) :
    ∃ fs', fs.copyFile source (p.join ⟨n⟩) = .ok fs' := by
  simp only [copyFile, hs, writeTarget_join_none hl hn hc hnone]
  exact ⟨_, rfl⟩

theorem exists_writeFile_join (content : Bytes) :
    ∃ fs', fs.writeFile (p.join ⟨n⟩) content = .ok fs' := by
  simp only [writeFile, writeTarget_join_none hl hn hc hnone]
  exact ⟨_, rfl⟩

end Join

/-! ## 2. Trees within the limits -/

/-- Every name in the tree at the location is taken behind the source's path, and in the copy. -/
def Fits (fs : FileSystem) (source destination : Path) (loc : Location) : Prop :=
  ∀ ns n, fs.at? (loc ++ ns ++ [n]) ≠ none →
    nameCheck (source.under ns) n = .ok () ∧ nameCheck (destination.under ns) n = .ok ()

theorem Fits.join {fs : FileSystem} {source destination : Path} {loc : Location}
    (h : Fits fs source destination loc) (n : Name) :
    Fits fs (source.join ⟨n⟩) (destination.join ⟨n⟩) (loc ++ [n]) := by
  intro ns m hne
  exact h (n :: ns) m (by simpa using hne)

/-- A tree fits whose names, as the entries give them, are taken. -/
theorem fits_of_entries {fs : FileSystem} {source destination : Path} {loc : Location}
    (h : ∀ x ∈ fs.entries, loc <+: x.1 → loc ≠ x.1 →
      nameCheck (source.under (x.1.drop loc.length).dropLast) (x.1.getLastD []) = .ok () ∧
        nameCheck (destination.under (x.1.drop loc.length).dropLast) (x.1.getLastD []) = .ok ()) :
    Fits fs source destination loc := by
  intro ns n hne
  obtain ⟨e, he⟩ := Option.ne_none_iff_exists'.1 hne
  have hmem := (at?_eq_some_iff (by simp)).1 he
  have hx := h _ hmem (by simp) (by simp)
  simpa [List.drop_append] using hx

/-- A tree keeps fitting as long as it stays. -/
theorem Fits.of_same {fs fs' : FileSystem} {source destination : Path} {loc : Location}
    (h : Fits fs source destination loc)
    (hsame : ∀ ns, fs'.at? (loc ++ ns) = fs.at? (loc ++ ns)) :
    Fits fs' source destination loc := by
  intro ns n hne
  rw [List.append_assoc, hsame, ← List.append_assoc] at hne
  exact h ns n hne

/-- Everything in the tree that is no directory leads to a file, all links followed. -/
def Resolves (fs : FileSystem) (source : Path) (loc : Location) : Prop :=
  ∀ ns e, fs.at? (loc ++ ns) = some e → e ≠ .directory →
    ∃ origin content executable,
      fs.stat? (source.under ns) = .ok (origin, .file content executable)

section Resolves

variable {fs fs' : FileSystem} {source destination : Path} {loc : Location}

theorem Resolves.join (h : Resolves fs source loc) (n : Name) :
    Resolves fs (source.join ⟨n⟩) (loc ++ [n]) := by
  intro ns e hat he
  exact h (n :: ns) e (by simpa using hat) he

theorem Resolves.of_extends (h : Resolves fs source loc) (he : Extends fs fs')
    (hsame : ∀ ns, fs'.at? (loc ++ ns) = fs.at? (loc ++ ns)) : Resolves fs' source loc := by
  intro ns e hat hne
  obtain ⟨origin, content, executable, hstat⟩ := h ns e (hsame ns ▸ hat) hne
  exact ⟨origin, content, executable, stat?_of_extends he hstat⟩

section Fits

variable (hl : fs.Leads source loc) (hfits : Fits fs source destination loc)

include hl hfits

/-- **A directory of a tree that fits is led to by its path.** -/
theorem leads_under {ns : List Name} (hat : fs.at? (loc ++ ns) = some .directory) :
    fs.Leads (source.under ns) (loc ++ ns) := by
  induction ns using List.reverseRecOn with
  | nil => simpa using hl
  | append_singleton ns n ih =>
    rw [← List.append_assoc] at hat ⊢
    obtain ⟨hcheck, -⟩ := hfits ns n (by rw [hat]; simp)
    rw [Path.under_concat]
    exact (ih (isDirectory_iff.1 (isDirectory_of_at? hat))).join (isOrdinary_of_at? hat)
      (length_le_of_nameCheck hcheck) hat

/-- A file of a tree that fits is found by its path. -/
theorem stat?_under_file {ns : List Name} {content : Bytes} {executable : Bool}
    (hat : fs.at? (loc ++ ns) = some (.file content executable)) :
    fs.stat? (source.under ns) = .ok (loc ++ ns, .file content executable) := by
  rcases List.eq_nil_or_concat' ns with rfl | ⟨front, n, rfl⟩
  · rw [List.append_nil, isDirectory_iff.1 hl.isDirectory] at hat
    cases hat
  · rw [← List.append_assoc] at hat ⊢
    obtain ⟨hcheck, -⟩ := hfits front n (by rw [hat]; simp)
    rw [Path.under_concat]
    exact stat?_join_file
      (leads_under hl hfits (isDirectory_iff.1 (isDirectory_of_at? hat))) hcheck hat

/-- **In a tree that fits only the links are in question.** -/
theorem resolves_iff_links : Resolves fs source loc ↔
    ∀ ns target, fs.at? (loc ++ ns) = some (.link target) →
      ∃ origin content executable,
        fs.stat? (source.under ns) = .ok (origin, .file content executable) := by
  refine ⟨fun h ns target hat => h ns _ hat (by simp), fun h ns e hat he => ?_⟩
  cases e with
  | directory => exact absurd rfl he
  | file content executable => exact ⟨_, _, _, stat?_under_file hl hfits hat⟩
  | link target => exact h ns target hat

theorem resolves_of_linkFree (hfree : fs.LinkFree loc) : Resolves fs source loc :=
  (resolves_iff_links hl hfits).2 fun _ target hat =>
    absurd hat (hfree _ (List.prefix_append _ _) target)

end Fits

end Resolves

/-- What a copy to `dir ++ [n]` needs to come to its end: the source leads to a tree that fits, of
    which everything but the directories leads to a file, and nothing stands yet at the place of the
    copy, which is not in the tree. -/
structure Copyable (fs : FileSystem) (source : Path) (loc : Location) (p : Path) (dir : Location)
    (n : Name) : Prop where
  leads : fs.Leads source loc
  check : checkPath source = .ok ()
  resolves : Resolves fs source loc
  into : fs.Leads p dir
  ordinary : Name.isOrdinary n = true
  name : nameCheck p n = .ok ()
  vacant : fs.at? (dir ++ [n]) = none
  apart : ¬ loc <+: dir ++ [n]
  fits : Fits fs source (p.join ⟨n⟩) loc

/-- What the entries of such a tree need to be copied into a directory beside it. -/
structure Fillable (fs : FileSystem) (source : Path) (loc : Location) (copy : Path)
    (top : Location) : Prop where
  leads : fs.Leads source loc
  resolves : Resolves fs source loc
  into : fs.Leads copy top
  free : fs.LinkFree top
  beside : Beside loc top
  fits : Fits fs source copy loc

section Copyable

variable {fs fs' : FileSystem} {source p : Path} {loc dir : Location} {n : Name}

theorem Copyable.beside (h : Copyable fs source loc p dir n) : Beside loc (dir ++ [n]) := by
  refine ⟨h.apart, fun hin => ?_⟩
  obtain ⟨more, rfl⟩ := hin
  have hdir := isDirectory_of_append more h.leads.isDirectory
  rw [isDirectory_iff, h.vacant] at hdir
  cases hdir

/-- **Once the directory of the copy stands, the entries of the tree can be copied into it.** -/
theorem Copyable.fillable (h : Copyable fs source loc p dir n) (hg : Grows (dir ++ [n]) fs fs')
    (hdir : fs'.at? (dir ++ [n]) = some .directory) :
    Fillable fs' source loc (p.join ⟨n⟩) (dir ++ [n]) := by
  have hsame := h.beside.at?_eq hg.outside
  exact ⟨h.leads.mono hg.keepsWays, h.resolves.of_extends (hg.onlyAdds h.vacant) hsame,
    (h.into.mono hg.keepsWays).join h.ordinary (length_le_of_nameCheck h.name) hdir,
    (linkFree_of_none h.vacant).grows hg, h.beside, h.fits.of_same hsame⟩

end Copyable

section Fillable

variable {fs fs' : FileSystem} {source copy : Path} {loc top : Location} {m : Name}
  (h : Fillable fs source loc copy top)

include h

/-- **A directory of the tree is copyable** to where nothing of its name stands yet. -/
theorem Fillable.copyable (hat : fs.at? (loc ++ [m]) = some .directory)
    (hnone : fs.at? (top ++ [m]) = none) :
    Copyable fs (source.join ⟨m⟩) (loc ++ [m]) copy top m := by
  have hm := isOrdinary_of_at? hat
  obtain ⟨hsource, hcopy⟩ := h.fits [] m (by simp [hat])
  exact ⟨h.leads.join hm (length_le_of_nameCheck hsource) hat, checkPath_of_nameCheck hsource,
    h.resolves.join m, h.into, hm, hcopy, hnone, (h.beside.append [m] [m]).1, h.fits.join m⟩

/-- An entry that comes to stand in the copy leaves the others to be copied. -/
theorem Fillable.grows (hnone : fs.at? (top ++ [m]) = none) (hg : Grows (top ++ [m]) fs fs') :
    Fillable fs' source loc copy top := by
  have hsame := h.beside.at?_eq (hg.mono (List.prefix_append top [m])).outside
  exact ⟨h.leads.mono hg.keepsWays, h.resolves.of_extends (hg.onlyAdds hnone) hsame,
    h.into.mono hg.keepsWays, h.free.grows hg, h.beside, h.fits.of_same hsame⟩

end Fillable

/-! ## 3. Copying to the end -/

/-- Actions that succeed one after the other succeed together. -/
theorem each_completes {α : Type} {act : α → Disk Unit} {inv : List α → FileSystem → Prop}
    (hact : ∀ a rest fs, inv (a :: rest) fs → ∃ fs', act a fs = .ok () fs' ∧ inv rest fs')
    {items : List α} {fs : FileSystem} (h : inv items fs) :
    ∃ fs', each act items fs = .ok () fs' := by
  induction items generalizing fs with
  | nil => exact ⟨fs, rfl⟩
  | cons a rest ih =>
    obtain ⟨fs₁, hok, hrest⟩ := hact a rest fs h
    obtain ⟨fs', hall⟩ := ih hrest
    exact ⟨fs', by simp only [each, hok, hall]⟩

/-- The copier comes to its end with every copyable source whose path is not shorter than the
    bound. -/
def Completes (bound : Nat) (tree : Path → Path → Disk Unit) : Prop :=
  ∀ (fs : FileSystem) (source p : Path) (loc dir : Location) (n : Name),
    Copyable fs source loc p dir n → bound ≤ source.bytes.length →
    ∃ fs', tree source (p.join ⟨n⟩) fs = .ok () fs'

section Entries

variable {fs : FileSystem} {source copy : Path} {loc top : Location} {bound : Nat}
  {tree : Path → Path → Disk Unit}

/-- **An entry of the tree is copied.** -/
theorem copyEntry_completes (htree : Completes (bound + 1) tree)
    (h : Fillable fs source loc copy top) (hbound : bound ≤ source.bytes.length)
    {x : Name × Entry} (hat : fs.at? (loc ++ [x.1]) = some x.2)
    (hnone : fs.at? (top ++ [x.1]) = none) :
    ∃ fs', copyEntry tree source copy x fs = .ok () fs' := by
  obtain ⟨m, e⟩ := x
  have hm := isOrdinary_of_at? hat
  have hfile (he : e ≠ .directory) :
      ∃ fs', Disk.change (fun fs => fs.copyFile (source.join ⟨m⟩) (copy.join ⟨m⟩)) fs =
        .ok () fs' := by
    obtain ⟨-, hcopy⟩ := h.fits [] m (by simp [hat])
    obtain ⟨origin, content, executable, hstat⟩ := h.resolves [m] e hat he
    rw [Path.under_cons, Path.under_nil] at hstat
    obtain ⟨fs', hok⟩ := exists_copyFile_join h.into hm hcopy hnone hstat
    exact ⟨fs', by simp only [Disk.change, hok]⟩
  cases e with
  | directory =>
    have hlonger : source.bytes.length < (source.join ⟨m⟩).bytes.length :=
      Path.length_lt_join_name source hm
    exact htree fs _ _ _ _ m (h.copyable hat hnone) (by omega)
  | file _ _ => exact hfile (by simp)
  | link _ => exact hfile (by simp)

/-- **The entries of the tree are copied**, one after the other: each finds its own place empty. -/
theorem copyEntries_completes (hgrow : OnlyGrows tree) (htree : Completes (bound + 1) tree)
    (h : Fillable fs source loc copy top) (hbound : bound ≤ source.bytes.length)
    {entries : List (Name × Entry)} (hnodup : (entries.map Prod.fst).Nodup)
    (hat : ∀ x ∈ entries, fs.at? (loc ++ [x.1]) = some x.2)
    (hnone : ∀ x ∈ entries, fs.at? (top ++ [x.1]) = none) :
    ∃ fs', each (copyEntry tree source copy) entries fs = .ok () fs' := by
  let inv (rest : List (Name × Entry)) (fs' : FileSystem) : Prop :=
    Fillable fs' source loc copy top ∧ (rest.map Prod.fst).Nodup ∧
      (∀ x ∈ rest, fs'.at? (loc ++ [x.1]) = some x.2) ∧
      ∀ x ∈ rest, fs'.at? (top ++ [x.1]) = none
  have hstart : inv entries fs := ⟨h, hnodup, hat, hnone⟩
  refine each_completes (fun x rest fs₁ (hinv : inv (x :: rest) fs₁) => ?_) hstart
  obtain ⟨h, hnodup, hat, hnone⟩ := hinv
  rw [List.map_cons, List.nodup_cons] at hnodup
  have hatx := hat x List.mem_cons_self
  have hnonex := hnone x List.mem_cons_self
  obtain ⟨fs₂, hok⟩ := copyEntry_completes htree h hbound hatx hnonex
  have hg := copyEntry_grows hgrow source h.into h.free (isOrdinary_of_at? hatx)
  rw [hok, Disk.left_ok] at hg
  refine ⟨fs₂, hok, h.grows hnonex hg, hnodup.2, fun y hy => ?_, fun y hy => ?_⟩
  · exact (hg.onlyAdds hnonex).entry _ _ (hat y (List.mem_cons_of_mem _ hy))
  · rw [hg.outside.at?_sibling fun heq => hnodup.1 (heq ▸ List.mem_map_of_mem hy)]
    exact hnone y (List.mem_cons_of_mem _ hy)

end Entries

/-- **A copyable tree is copied to its end**, if the levels and the length of its path together
    reach the limit on paths. -/
theorem copyLevels_completes (depth bound : Nat) (h : pathLimit ≤ depth + bound) :
    Completes bound (copyLevels depth) := by
  induction depth generalizing bound with
  | zero =>
    -- a path of this length is refused
    intro fs source p loc dir n hc hbound
    obtain ⟨-, -, hshort⟩ := checkPath_eq_ok.1 hc.check
    omega
  | succ depth ih =>
    intro fs source p loc dir n hc hbound
    have hmake := makeDirectories_join_none hc.into hc.ordinary hc.name hc.vacant
    obtain ⟨-, hdir, hg, -⟩ :=
      makeDirectories_join_ok hc.into hc.ordinary (linkFree_of_none hc.vacant).self hmake
    have hadds := adds_put (admits_join hc.into hc.ordinary (Or.inl rfl)) hc.vacant
    have hempty : ∀ m, (fs.put dir n .directory).at? (dir ++ [n] ++ [m]) = none := by
      intro m
      rw [hadds.below (List.cons_ne_nil m [])]
      exact at?_append_eq_none (by simp [hc.vacant]) (List.cons_ne_nil m [])
    have hfill := hc.fillable hg hdir
    obtain ⟨fs', hall⟩ := copyEntries_completes (copyLevels_grows depth) (ih (bound + 1) (by omega))
      hfill hbound (nodup_children _ loc) (fun x hx => mem_children.1 hx) fun x _ => hempty x.1
    refine ⟨fs', ?_⟩
    simp only [copyLevels, hmake, readDirectory, stat?_of_leads hfill.leads hc.check]
    exact hall

end TemplatePress.FileSystem
