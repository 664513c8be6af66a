import TemplatePress.Proofs.Courses
import TemplatePress.Proofs.Limits
import TemplatePress.Proofs.NewPlaces

/-!
# Exact copies

A directory is copied to a path at which nothing stands. This file fixes when that succeeds, and
what is there afterwards:

* `LinksOutside`: no link in the source depends on what is made for the copy (`MakesAt`);
* `Transfer`: what is asked of source and destination. Then the copy comes to its end if everything
  but the directories leads to a file (`Transfer.completes`), and only then
  (`Transfer.of_copyTree`);
* `ExactCopy`: the directories of the source and, for all else, the files that it leads to, with
  nothing else changed but directories that were missing above;
* `SameEntries`: two file systems in which the same stands, listed in any order. What a copy leaves
  does not depend on the order (`ExactCopy.sameEntries`);
* `copyTree_exact`: all of this for a destination told by what is found at its path and above.
-/

namespace TemplatePress.FileSystem

/-! ## 1. Links that lead outside -/

/-- What may be made for a copy: directories where the source has them, and files where anything else
    stands in it. Elsewhere only missing directories above the copy are new. -/
structure MakesAt (loc top : Location) (fs fs' : FileSystem) : Prop where
  home : fs'.home = fs.home
  entry : ∀ k, ¬ top <+: k → fs'.at? k = fs.at? k ∨
    k <+: top ∧ fs.at? k = none ∧ fs'.at? k = some .directory
  directory : ∀ ns, fs'.at? (top ++ ns) = some .directory → fs.at? (loc ++ ns) = some .directory
  file : ∀ ns e, fs'.at? (top ++ ns) = some e → e ≠ .directory →
    (∃ content executable, e = .file content executable) ∧
      ∃ origin, fs.at? (loc ++ ns) = some origin ∧ origin ≠ .directory

theorem leadsToFile_iff {fs : FileSystem} {p : Path} : fs.leadsToFile p = true ↔
    ∃ origin content executable, fs.stat? p = .ok (origin, .file content executable) := by
  unfold leadsToFile
  split
  · rename_i hstat
    simp [hstat]
  · rename_i hstat
    simp only [Bool.false_eq_true, false_iff, not_exists]
    exact fun origin content executable heq => hstat _ _ _ heq

/-- What is made for the copy does not bring a link of the tree to a file: it leads to one
    already. -/
def LinksOutside (fs : FileSystem) (source : Path) (loc top : Location) : Prop :=
  ∀ ns target, fs.at? (loc ++ ns) = some (.link target) → ∀ fs', MakesAt loc top fs fs' →
    fs'.leadsToFile (source.under ns) = true → fs.leadsToFile (source.under ns) = true

/-- Whether everything in a tree leads to a file is told by the entries. -/
theorem resolves_iff_entries {fs : FileSystem} {source : Path} {loc : Location} :
    Resolves fs source loc ↔ ∀ x ∈ fs.entries, loc <+: x.1 → x.2 ≠ .directory →
      fs.leadsToFile (source.under (x.1.drop loc.length)) = true := by
  constructor
  · rintro h ⟨k, e⟩ hmem ⟨ns, rfl⟩ he
    obtain ⟨dir, n, heq, -⟩ := fs.seated _ _ hmem
    have hat := (at?_eq_some_iff (by simp [heq])).2 hmem
    rw [List.drop_left]
    exact leadsToFile_iff.2 (h ns e hat he)
  · intro h ns e hat he
    have hne : loc ++ ns ≠ [] := by
      intro hnil
      rw [hnil, at?_nil] at hat
      exact he (Option.some.inj hat).symm
    have hfile := h _ ((at?_eq_some_iff hne).1 hat) (List.prefix_append _ _) he
    rw [List.drop_left] at hfile
    exact leadsToFile_iff.1 hfile

instance (fs : FileSystem) (source : Path) (loc : Location) :
    Decidable (Resolves fs source loc) :=
  decidable_of_iff _ resolves_iff_entries.symm

/-- Links that lead to files already do not depend on what is made. -/
theorem Resolves.linksOutside {fs : FileSystem} {source : Path} {loc : Location}
    (h : Resolves fs source loc) (top : Location) : LinksOutside fs source loc top :=
  fun ns _ hat _ _ _ => leadsToFile_iff.2 (h ns _ hat (by simp))

/-! ## 2. The same entries -/

/-- The same stands at every location. Directories may list it in another order. -/
structure SameEntries (fs fs' : FileSystem) : Prop where
  home : fs'.home = fs.home
  entry : ∀ loc, fs'.at? loc = fs.at? loc

section SameEntries

variable {fs fs' : FileSystem}

theorem SameEntries.symm (h : SameEntries fs fs') : SameEntries fs' fs :=
  ⟨h.home.symm, fun loc => (h.entry loc).symm⟩

theorem SameEntries.onlyAdds (h : SameEntries fs fs') : Extends fs fs' :=
  ⟨h.home, fun loc e hat => by rw [h.entry, hat]⟩

theorem SameEntries.leadsToFile (h : SameEntries fs fs') {p : Path}
    (hp : fs.leadsToFile p = true) : fs'.leadsToFile p = true := by
  obtain ⟨origin, content, executable, hstat⟩ := leadsToFile_iff.1 hp
  exact leadsToFile_iff.2 ⟨origin, content, executable, stat?_of_extends h.onlyAdds hstat⟩

theorem SameEntries.makesAt (h : SameEntries fs fs') {loc top : Location} {fs'' : FileSystem}
    (hm : MakesAt loc top fs' fs'') : MakesAt loc top fs fs'' :=
  ⟨hm.home.trans h.home, fun k hk => h.entry k ▸ hm.entry k hk,
    fun ns hat => h.entry _ ▸ hm.directory ns hat, fun ns e hat he => h.entry _ ▸ hm.file ns e hat he⟩

end SameEntries

/-! ## 3. What is asked of source and destination -/

/-- The source leads to a directory and the destination to the place of a new one beside it, with
    all paths and names within their limits, and what is made there brings no link of the source to
    a file. -/
structure Transfer (fs : FileSystem) (source : Path) (loc : Location) (destination : Path)
    (top : Location) : Prop where
  found : fs.stat? source = .ok (loc, .directory)
  comesTo : fs.ComesTo destination top
  endsInName : EndsInName destination
  check : checkPath destination = .ok ()
  short : ∀ n ∈ destination.names, n.length ≤ nameLimit
  beside : Beside loc top
  fits : Fits fs source destination loc
  links : LinksOutside fs source loc top

/-- The destination leads to a tree with the directories of the source and, for everything else in
    it, the file that this leads to. Nothing else changed but directories missing above. -/
structure ExactCopy (fs fs' : FileSystem) (source : Path) (loc : Location) (destination : Path)
    (top : Location) : Prop where
  found : fs'.stat? destination = .ok (top, .directory)
  entry : ∀ ns, fs.IsCopy source loc ns (fs'.at? (top ++ ns))
  framed : Framed top fs fs'

section Transfer

variable {fs fs' fs₁ : FileSystem} {source destination : Path} {loc top : Location}

theorem Resolves.exists_isCopy (h : Resolves fs source loc) (ns : List Name) :
    ∃ copied, fs.IsCopy source loc ns copied := by
  cases hat : fs.at? (loc ++ ns) with
  | none => exact ⟨_, isCopy_none hat⟩
  | some e =>
    by_cases he : e = .directory
    · exact ⟨_, isCopy_directory (he ▸ hat)⟩
    · obtain ⟨origin, content, executable, hstat⟩ := h ns e hat he
      exact ⟨_, isCopy_file hat he hstat⟩

/-- What stands in a copy is told by the source. -/
theorem IsCopy.unique {ns : List Name} {copied copied' : Option Entry}
    (h : fs.IsCopy source loc ns copied) (h' : fs.IsCopy source loc ns copied') :
    copied' = copied := by
  unfold IsCopy at h h'
  cases hat : fs.at? (loc ++ ns) with
  | none =>
    rw [hat] at h h'
    exact Eq.trans h' h.symm
  | some e =>
    rw [hat] at h h'
    cases e with
    | directory => exact Eq.trans h' h.symm
    | file _ _ | link _ =>
      obtain ⟨origin, content, executable, hstat, rfl⟩ := h
      obtain ⟨origin', content', executable', hstat', rfl⟩ := h'
      rw [hstat] at hstat'
      cases hstat'
      rfl

/-- Directories are copies of directories only. -/
theorem IsCopy.directory {ns : List Name} (h : fs.IsCopy source loc ns (some .directory)) :
    fs.at? (loc ++ ns) = some .directory := by
  unfold IsCopy at h
  cases hat : fs.at? (loc ++ ns) with
  | none =>
    rw [hat] at h
    cases h
  | some e =>
    rw [hat] at h
    cases e with
    | directory => rfl
    | file _ _ | link _ =>
      obtain ⟨origin, content, executable, -, heq⟩ := h
      cases heq

/-- What else is copied is a file, and a copy of something that is no directory. -/
theorem IsCopy.file {ns : List Name} {e : Entry} (h : fs.IsCopy source loc ns (some e))
    (he : e ≠ .directory) : (∃ content executable, e = .file content executable) ∧
      ∃ origin, fs.at? (loc ++ ns) = some origin ∧ origin ≠ .directory := by
  unfold IsCopy at h
  cases hat : fs.at? (loc ++ ns) with
  | none =>
    rw [hat] at h
    cases h
  | some origin =>
    rw [hat] at h
    cases origin with
    | directory => exact absurd (Option.some.inj h) he
    | file _ _ | link _ =>
      obtain ⟨found, content, executable, -, heq⟩ := h
      exact ⟨⟨content, executable, Option.some.inj heq⟩, _, rfl, nofun⟩

/-- What resolved before the copy was made is copied as it was. -/
theorem Resolves.isCopy {ns : List Name} {copied : Option Entry} (h : Resolves fs source loc)
    (he : Extends fs fs') (hsame : fs'.at? (loc ++ ns) = fs.at? (loc ++ ns))
    (hcopy : fs'.IsCopy source loc ns copied) : fs.IsCopy source loc ns copied := by
  obtain ⟨copied', hcopy'⟩ := h.exists_isCopy ns
  rwa [(hcopy'.of_extends he hsame).unique hcopy]

/-- **Exact copies leave the same entries**, in whatever order the source was listed. -/
theorem ExactCopy.sameEntries {fs₂ fs₂' : FileSystem} (hs : SameEntries fs fs₂)
    (h : ExactCopy fs fs' source loc destination top)
    (h₂ : ExactCopy fs₂ fs₂' source loc destination top) : SameEntries fs' fs₂' := by
  refine ⟨h₂.framed.home.trans (hs.home.trans h.framed.home.symm), fun k => ?_⟩
  by_cases hbelow : top <+: k
  · obtain ⟨ns, rfl⟩ := hbelow
    exact ((h.entry ns).of_extends hs.onlyAdds (hs.entry _)).unique (h₂.entry ns)
  by_cases habove : k <+: top
  · -- above the directory that was made stand directories
    obtain ⟨more, rfl⟩ := habove
    have hdir : ∀ {fs : FileSystem}, fs.stat? destination = .ok (k ++ more, .directory) →
        fs.at? k = some .directory := fun hstat =>
      isDirectory_iff.1 (isDirectory_of_append more (isDirectory_iff.2 (at?_of_stat? hstat)))
    rw [hdir h.found, hdir h₂.found]
  · have hkept := (h.framed.entry k hbelow).resolve_right fun hnew => habove hnew.1
    have hkept₂ := (h₂.framed.entry k hbelow).resolve_right fun hnew => habove hnew.1
    rw [hkept, hkept₂, hs.entry]

namespace Transfer

variable (h : Transfer fs source loc destination top)

include h

/-- The directory of the copy is made. -/
theorem exists_made :
    ∃ fs₁, makeDirectories destination fs = .ok () fs₁ ∧ Made fs fs₁ destination top :=
  makeDirectories_comesTo h.comesTo h.endsInName h.check fun n hn =>
    h.short n (Path.mem_names_of_components hn)

/-- **Where everything but the directories leads to a file, the copy comes to its end.** -/
theorem completes (hres : Resolves fs source loc) :
    ∃ fs', copyTree source destination fs = .ok () fs' := by
  obtain ⟨fs₁, hm, hmade⟩ := h.exists_made
  have hadds := hmade.adds.onlyAdds
  have hsame := hmade.adds.at?_append h.beside.1
  have hs₁ := stat?_of_extends hadds h.found
  have htop := isDirectory_iff.1 hmade.leads.isDirectory
  have hfill : Fillable fs₁ source loc destination top :=
    ⟨leads_of_stat? hs₁, hres.of_extends hadds hsame, hmade.leads,
      linkFree_of_empty (by simp [htop]) hmade.empty, h.beside, h.fits.of_same hsame⟩
  rw [copyTree_eq hm hs₁]
  exact copyEntries_completes (copyLevels_grows _)
    (copyLevels_completes (pathLimit - 1) 1 (by decide)) hfill (Nat.zero_le _)
    (nodup_children fs₁ loc) (fun x hx => mem_children.1 hx) fun x _ => hmade.empty _ (by simp)

/-- **A copy that succeeds is exact**, and every link of the source leads to a file. -/
theorem of_copyTree (hok : copyTree source destination fs = .ok () fs') :
    Resolves fs source loc ∧ ExactCopy fs fs' source loc destination top := by
  obtain ⟨fs₁, hm, hmade⟩ := h.exists_made
  obtain ⟨hgrow, hdup⟩ := copyTree_made hm hmade h.found hok
  obtain ⟨hadd, hd⟩ := hdup h.beside
  have hframed : Framed top fs fs' := hmade.adds.framed.trans hgrow.kept.framed
  have hsame : ∀ ns, fs'.at? (loc ++ ns) = fs.at? (loc ++ ns) := fun ns =>
    (h.beside.at?_eq hgrow.outside ns).trans (hmade.adds.at?_append h.beside.1 ns)
  have hmakes : MakesAt loc top fs fs' := by
    refine ⟨hframed.home, hframed.entry, fun ns hat => ?_, fun ns e hat he => ?_⟩ <;>
      have hcopy := hd.isCopy ns <;> rw [hat] at hcopy
    · exact (hsame ns).symm.trans hcopy.directory
    · rw [← hsame ns]
      exact hcopy.file he
  have hres : Resolves fs source loc := by
    refine (resolves_iff_links (leads_of_stat? h.found) h.fits).2 fun ns target hat => ?_
    refine leadsToFile_iff.1 (h.links ns target hat fs' hmakes ?_)
    have hcopy := hd.isCopy ns
    simp only [IsCopy, hsame, hat] at hcopy
    obtain ⟨origin, content, executable, hstat, -⟩ := hcopy
    exact leadsToFile_iff.2 ⟨origin, content, executable, hstat⟩
  exact ⟨hres, hd.stat?_copy, fun ns =>
    hres.isCopy (hmade.adds.onlyAdds.trans hadd) (hsame ns) (hd.isCopy ns), hframed⟩

/-- The order in which directories list their entries does not matter. -/
theorem of_sameEntries (hs : SameEntries fs fs') : Transfer fs' source loc destination top := by
  obtain ⟨cs, dir, m, ms, hcs, hl, hnone, htop⟩ := h.comesTo
  refine ⟨stat?_of_extends hs.onlyAdds h.found,
    ⟨cs, dir, m, ms, hcs, hl.mono hs.onlyAdds.keepsWays, by rw [hs.entry, hnone], htop⟩,
    h.endsInName, h.check, h.short, h.beside, h.fits.of_same fun ns => hs.entry _, ?_⟩
  intro ns target hat fs'' hd hfile
  rw [hs.entry] at hat
  exact hs.leadsToFile (h.links ns target hat fs'' (hs.makesAt hd) hfile)

/-- **A copy succeeds exactly if everything but the directories leads to a file.** -/
theorem succeeds_iff :
    (∃ fs', copyTree source destination fs = .ok () fs') ↔ Resolves fs source loc :=
  ⟨fun ⟨_, hok⟩ => (h.of_copyTree hok).1, h.completes⟩

end Transfer

end Transfer

/-! ## 4. Copies to where nothing stands -/

/-- **A directory is copied to a path at which nothing stands exactly if everything in it, but the
    directories, leads to a file.** Then its directories and these files stand at the path, and
    nothing else changed but directories that were missing above. Neither depends on the order in
    which directories list what is in them. The destination ends in a name, no part of it leads up,
    and what stands above it leads to directories; neither tree is inside the other, all paths are
    within their limits, and no link of the source leads through what is made. -/
theorem copyTree_exact {fs : FileSystem} {source destination : Path} {loc : Location}
    (hs : fs.stat? source = .ok (loc, .directory)) (hnew : fs.IsNew destination)
    (hfits : Fits fs source destination loc) :
    (∃ top, fs.ComesTo destination top) ∧ ∀ top, fs.ComesTo destination top → Beside loc top →
      LinksOutside fs source loc top →
      ((∃ fs', copyTree source destination fs = .ok () fs') ↔ Resolves fs source loc) ∧
      (∀ fs', copyTree source destination fs = .ok () fs' →
        ExactCopy fs fs' source loc destination top) ∧
      ∀ fs₂, SameEntries fs fs₂ →
        ((∃ fs₂', copyTree source destination fs₂ = .ok () fs₂') ↔
          ∃ fs', copyTree source destination fs = .ok () fs') ∧
        ∀ fs' fs₂', copyTree source destination fs = .ok () fs' →
          copyTree source destination fs₂ = .ok () fs₂' → SameEntries fs' fs₂' := by
  refine ⟨exists_comesTo hnew, fun top hcomes hb hlinks => ?_⟩
  have h : Transfer fs source loc destination top :=
    ⟨hs, hcomes, hnew.endsInName, hnew.check, hnew.short, hb, hfits, hlinks⟩
  refine ⟨h.succeeds_iff, fun fs' hok => (h.of_copyTree hok).2, fun fs₂ hsame => ?_⟩
  have h₂ := h.of_sameEntries hsame
  refine ⟨?_, fun fs' fs₂' hok hok₂ =>
    (h.of_copyTree hok).2.sameEntries hsame (h₂.of_copyTree hok₂).2⟩
  rw [h.succeeds_iff, h₂.succeeds_iff]
  exact ⟨fun hres => hres.of_extends hsame.symm.onlyAdds fun ns => hsame.symm.entry _,
    fun hres => hres.of_extends hsame.onlyAdds fun ns => hsame.entry _⟩

/-- An executable, an empty directory, and links to a file; the way to the copy leads through a
    link. -/
def foundry : FileSystem :=
  .written [("s", .directory), ("s/run", .file (Text.Utf8.bytes "#!") true), ("s/a", .directory),
    ("s/a/none", .directory), ("s/a/lib", .link (.ofString "../../lib")),
    ("lib", .link (.ofString "shared")), ("shared", .file (Text.Utf8.bytes "= L") false),
    ("d", .link (.ofString "other")), ("other", .directory)]

theorem copyTree_exact_foundry :
    let source : Path := .ofString "s/."
    let destination : Path := .ofString "d/new//./copy/"
    let loc : Location := [Text.Utf8.bytes "s"]
    let top : Location := [Text.Utf8.bytes "other", Text.Utf8.bytes "new", Text.Utf8.bytes "copy"]
    foundry.stat? source = .ok (loc, .directory) ∧ foundry.IsNew destination ∧
      Fits foundry source destination loc ∧ foundry.ComesTo destination top ∧ Beside loc top ∧
      LinksOutside foundry source loc top ∧ Resolves foundry source loc ∧
      ∃ fs', copyTree source destination foundry = .ok () fs' ∧
        ExactCopy foundry fs' source loc destination top ∧
        ∀ fs₂ fs₂', SameEntries foundry fs₂ → copyTree source destination fs₂ = .ok () fs₂' →
          SameEntries fs' fs₂' := by
  intro source destination loc top
  have hs : foundry.stat? source = .ok (loc, .directory) := by decide +kernel
  have hnew : foundry.IsNew destination := by decide +kernel
  have hfits : Fits foundry source destination loc := fits_of_entries (by decide +kernel)
  have hcomes : foundry.ComesTo destination top :=
    ⟨[.normal (Text.Utf8.bytes "d")], [Text.Utf8.bytes "other"], Text.Utf8.bytes "new",
      [Text.Utf8.bytes "copy"], by decide +kernel,
      leads_of_stat? (by decide +kernel), by decide +kernel, rfl⟩
  have hb : Beside loc top := by decide +kernel
  have hres : Resolves foundry source loc := by decide +kernel
  have hlinks := hres.linksOutside top
  obtain ⟨hiff, hexact, horder⟩ := (copyTree_exact hs hnew hfits).2 top hcomes hb hlinks
  obtain ⟨fs', hok⟩ := hiff.2 hres
  exact ⟨hs, hnew, hfits, hcomes, hb, hlinks, hres, fs', hok, hexact fs' hok,
    fun fs₂ fs₂' hsame hok₂ => (horder fs₂ hsame).2 fs' fs₂' hok hok₂⟩

/-- A source with a file, and sources with a link through a place that is missing. -/
def annex : FileSystem :=
  .written [("s", .directory), ("s/f", .file (Text.Utf8.bytes "= F") false), ("t", .directory),
    ("t/g", .link (.ofString "../d/../s/f")), ("u", .directory),
    ("u/g", .link (.ofString "../n/../s/f"))]

/-- **Not every copy to where nothing stands goes by what the source leads to.** A path that ends in
    a `.` is not made, and neither is one where look-ups start nowhere; a copy to the empty path
    goes into the working directory; and a link through the place of the copy, or through a
    directory missing above it, leads nowhere at first, and to a file once that is made. -/
theorem copyTree_inexact_annex :
    let s : Path := .ofString "/s"
    let file : Entry := .file (Text.Utf8.bytes "= F") false
    let holds (loc : Location) (_ : Unit) (fs : FileSystem) : Bool := fs.at? loc = some file
    let adrift : FileSystem := { annex with home := [Text.Utf8.bytes "gone"] }
    Resolves annex s [Text.Utf8.bytes "s"] ∧
      ((Path.ofString "new/.").NeverUp ∧ (annex.lstat? (.ofString "new/.")).toBool = false ∧
        Disk.fails (copyTree s (.ofString "new/.") annex) = true) ∧
      ((adrift.lstat? (.ofString "new")).toBool = false ∧
        Disk.fails (copyTree s (.ofString "new") adrift) = true) ∧
      ((annex.lstat? ⟨[]⟩).toBool = false ∧ annex.at? [Text.Utf8.bytes "f"] = none ∧
        Disk.succeeds (holds [Text.Utf8.bytes "f"]) (copyTree s ⟨[]⟩ annex) = true) ∧
      (annex.IsNew (.ofString "d") ∧ ¬ Resolves annex (.ofString "t") [Text.Utf8.bytes "t"] ∧
        Disk.succeeds (holds [Text.Utf8.bytes "d", Text.Utf8.bytes "g"])
          (copyTree (.ofString "t") (.ofString "d") annex) = true) ∧
      annex.IsNew (.ofString "n/d") ∧ ¬ Resolves annex (.ofString "u") [Text.Utf8.bytes "u"] ∧
        Disk.succeeds (holds [Text.Utf8.bytes "n", Text.Utf8.bytes "d", Text.Utf8.bytes "g"])
          (copyTree (.ofString "u") (.ofString "n/d") annex) = true := by
  decide +kernel

end TemplatePress.FileSystem
