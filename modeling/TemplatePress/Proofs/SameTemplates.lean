import TemplatePress.Proofs.Discovery
import TemplatePress.Proofs.NewPlaces

/-!
# The templates of a copy

A copy shows the templates of its source. The copier lists a directory as it stands and follows
links, a search sorts and follows none. What they agree on is which entries are real directories.

* `shown`: the entries of a directory in the order of a search, each by its name and by whether it is
  a directory. It does not depend on how the directory is listed (`shown_eq`).
* `templates`: the names that lead to templates, in the order of a search. It reads nothing but what
  is shown, so trees of one shape have the same templates (`templates_eq`), and a search through a
  tree whose directories can all be listed finds them (`visitLevels_listed`).
* `discover_copied`: a copied tree and its source.
-/

namespace TemplatePress

open FileSystem

namespace Discovery

/-! ## 1. What is shown of a directory -/

/-- What a search sees of an entry. -/
def seen (x : Name × Entry) : Name × Bool :=
  (x.1, x.2.isDirectory)

/-- The entries of a directory as a search goes through them. -/
def shown (fs : FileSystem) (loc : Location) : List (Name × Bool) :=
  ((fs.children loc).mergeSort byName).map seen

/-- The order of names is the one of their bytes. -/
theorem compareBytes_eq (a b : Bytes) : Path.compareBytes a b = a.compareLex compare b := by
  induction a generalizing b with
  | nil => cases b <;> rfl
  | cons x a ih =>
    cases b with
    | nil => rfl
    | cons y b =>
      rw [Path.compareBytes, ih, List.compareLex]
      cases compare x y <;> rfl

/-- Whether a name comes no later than another. -/
def noLater (a b : Name × Bool) : Bool :=
  (a.1.compareLex compare b.1).isLE

theorem byName_eq (x y : Name × Entry) : byName x y = noLater (seen x) (seen y) := by
  simp only [byName, noLater, seen, compareBytes_eq]
  cases x.1.compareLex compare y.1 <;> rfl

theorem noLater_trans (a b c : Name × Bool) (hab : noLater a b = true) (hbc : noLater b c = true) :
    noLater a c = true :=
  Std.TransCmp.isLE_trans hab hbc

theorem noLater_total (a b : Name × Bool) : (noLater a b || noLater b a) = true := by
  unfold noLater
  have hswap : b.1.compareLex compare a.1 = (a.1.compareLex compare b.1).swap :=
    Std.OrientedCmp.eq_swap
  rw [hswap]
  cases a.1.compareLex compare b.1 <;> rfl

theorem noLater_antisymm {a b : Name × Bool} (hab : noLater a b = true) (hba : noLater b a = true) :
    a.1 = b.1 :=
  Std.LawfulEqCmp.eq_of_compare (Std.OrientedCmp.isLE_antisymm hab hba)

theorem mem_map_seen {fs : FileSystem} {loc : Location} {x : Name × Bool} :
    x ∈ (fs.children loc).map seen ↔ (fs.at? (loc ++ [x.1])).map Entry.isDirectory = some x.2 := by
  constructor
  · intro h
    obtain ⟨y, hy, rfl⟩ := List.mem_map.1 h
    rw [seen, mem_children.1 hy]
    rfl
  · intro h
    obtain ⟨e, hat, he⟩ := Option.map_eq_some_iff.1 h
    exact List.mem_map.2 ⟨(x.1, e), mem_children.2 hat, Prod.ext rfl he⟩

/-- **What is shown of a directory depends only on which names stand in it and which of them are
    directories.** -/
theorem shown_eq {fs fs' : FileSystem} {loc loc' : Location}
    (h : ∀ n, (fs'.at? (loc' ++ [n])).map Entry.isDirectory =
      (fs.at? (loc ++ [n])).map Entry.isDirectory) : shown fs' loc' = shown fs loc := by
  have hsort : ∀ fs loc, shown fs loc = ((fs.children loc).map seen).mergeSort noLater :=
    fun fs loc => List.map_mergeSort fun x _ y _ => byName_eq x y
  have hnodup : ∀ fs loc, ((children fs loc).map seen).Nodup := fun fs loc =>
    List.Nodup.of_map Prod.fst (by rw [List.map_map]; exact nodup_children fs loc)
  have hmem : ∀ x, x ∈ (fs'.children loc').map seen ↔ x ∈ (fs.children loc).map seen := by
    intro x
    rw [mem_map_seen, mem_map_seen, h]
  have hperm : (shown fs' loc').Perm (shown fs loc) := by
    rw [hsort, hsort]
    exact (List.mergeSort_perm _ _).trans
      (((List.perm_ext_iff_of_nodup (hnodup _ _) (hnodup _ _)).2 hmem).trans
        (List.mergeSort_perm _ _).symm)
  have hsorted : ∀ fs loc, (shown fs loc).Pairwise fun a b => noLater a b = true := by
    intro fs loc
    rw [hsort]
    exact List.pairwise_mergeSort noLater_trans noLater_total _
  refine hperm.eq_of_pairwise (fun a b ha hb hab hba => ?_) (hsorted _ _) (hsorted _ _)
  -- entries of one name are one entry
  have hname := noLater_antisymm hab hba
  rw [hsort, List.mem_mergeSort, mem_map_seen] at ha hb
  rw [h, hname, hb] at ha
  exact Prod.ext hname (Option.some.inj ha).symm

/-! ## 2. The templates of a tree -/

/-- The names that an entry contributes: those below it, put behind its own, or none at all. -/
def namesThrough (below : Name → List (List Name)) (entryPoint : Name) :
    Name × Bool → List (List Name)
  | (n, true) => (below n).map (n :: ·)
  | (n, false) => if n = entryPoint then [[]] else []

/-- The names that lead to templates, in the order of a search, at most `depth` levels down. -/
def templates (fs : FileSystem) (entryPoint : Name) : (depth : Nat) → Location → List (List Name)
  | 0, _ => []
  | depth + 1, loc =>
    (shown fs loc).flatMap
      (namesThrough (fun n => templates fs entryPoint depth (loc ++ [n])) entryPoint)

/-- The same names stand in two trees, and the same of them are directories. -/
def SameShape (fs : FileSystem) (loc : Location) (fs' : FileSystem) (loc' : Location) : Prop :=
  ∀ ns, (fs'.at? (loc' ++ ns)).map Entry.isDirectory = (fs.at? (loc ++ ns)).map Entry.isDirectory

theorem SameShape.join {fs fs' : FileSystem} {loc loc' : Location} (h : SameShape fs loc fs' loc')
    (n : Name) : SameShape fs (loc ++ [n]) fs' (loc' ++ [n]) := by
  intro ns
  rw [List.append_assoc, List.append_assoc]
  exact h ([n] ++ ns)

/-- **Trees of one shape have the same templates.** -/
theorem templates_eq {fs fs' : FileSystem} {loc loc' : Location} (h : SameShape fs loc fs' loc')
    (entryPoint : Name) (depth : Nat) :
    templates fs' entryPoint depth loc' = templates fs entryPoint depth loc := by
  induction depth generalizing loc loc' with
  | zero => rfl
  | succ depth ih =>
    unfold templates
    rw [shown_eq fun n => h [n], funext fun n => ih (h.join n)]

/-! ## 3. Searching a tree that can be listed -/

/-- The path leads to a directory, and every directory below is listed by its path. -/
structure Listed (fs : FileSystem) (p : Path) (loc : Location) : Prop where
  directory : fs.at? loc = some .directory
  listed : ∀ ns, fs.at? (loc ++ ns) = some .directory →
    fs.stat? (p.under ns) = .ok (loc ++ ns, .directory)

section Listed

variable {fs fs' : FileSystem} {p : Path} {loc : Location} {n : Name}

theorem Listed.stat? (h : Listed fs p loc) : fs.stat? p = .ok (loc, .directory) := by
  simpa using h.listed [] (by simpa using h.directory)

theorem Listed.join (h : Listed fs p loc) (hat : fs.at? (loc ++ [n]) = some .directory) :
    Listed fs (p.join ⟨n⟩) (loc ++ [n]) := by
  refine ⟨hat, fun ns hns => ?_⟩
  rw [List.append_assoc] at hns ⊢
  exact h.listed ([n] ++ ns) hns

/-- **Where a tree is the same, it is listed by a path that leads to it there**, too. Which names are
    refused behind a path does not depend on what stands where. -/
theorem Listed.of_same (h : Listed fs' p loc) (hs : fs.stat? p = .ok (loc, .directory))
    (hsame : ∀ ns, fs'.at? (loc ++ ns) = fs.at? (loc ++ ns)) : Listed fs p loc := by
  refine ⟨at?_of_stat? hs, fun ns hns => ?_⟩
  induction ns using List.reverseRecOn with
  | nil => simpa using hs
  | append_singleton ns n ih =>
    have hat : fs.at? (loc ++ ns ++ [n]) = some .directory := by rwa [List.append_assoc]
    have hn := isOrdinary_of_at? hat
    have hdir := isDirectory_iff.1 (isDirectory_of_at? hat)
    have hl := leads_of_stat? (ih hdir)
    have hl' := leads_of_stat? (h.listed ns ((hsame ns).trans hdir))
    have hstat := h.listed (ns ++ [n]) ((hsame _).trans hns)
    rw [Path.under_concat] at hstat ⊢
    have hc : nameCheck (p.under ns) n = .ok () := by
      cases hc : nameCheck (p.under ns) n with
      | ok u => rfl
      | error e =>
        rw [stat?_join_error hl' hn hc] at hstat
        cases hstat
    rw [stat?_join hl hn hc (by simp [hns]), hat, List.append_assoc]
    rfl

/-- **A search through a tree that can be listed finds its templates**, each behind the path. A depth
    that makes up for the length of the path never runs out. -/
theorem visitLevels_listed (entryPoint : Name) {depth : Nat} (h : Listed fs p loc)
    (hdepth : pathLimit ≤ depth + p.bytes.length) :
    visitLevels fs.readDirectory entryPoint depth p =
      .ok ((templates fs entryPoint depth loc).map fun ns => ⟨p.under ns⟩) := by
  induction depth generalizing p loc with
  | zero =>
    have hread : fs.readDirectory p = .ok (fs.children loc) := by
      simp only [readDirectory, h.stat?]
    have := length_lt_of_readDirectory hread
    omega
  | succ depth ih =>
    have hread : fs.readDirectory p = .ok (fs.children loc) := by
      simp only [readDirectory, h.stat?]
    have hentry : ∀ x ∈ (fs.children loc).mergeSort byName,
        visitEntry (visitLevels fs.readDirectory entryPoint depth) entryPoint p x =
          .ok ((namesThrough (fun n => templates fs entryPoint depth (loc ++ [n])) entryPoint
            (seen x)).map fun ns => ⟨p.under ns⟩) := by
      rintro ⟨n, e⟩ hx
      have hat := mem_children.1 (List.mem_mergeSort.1 hx)
      have hfile : (.ok (if n = entryPoint then [⟨p⟩] else []) : Except DiscoveryError _) =
          .ok ((if n = entryPoint then [[]] else []).map fun ns => (⟨p.under ns⟩ : TemplateFolder)) := by
        split <;> rfl
      cases e with
      | file _ _ => exact hfile
      | link _ => exact hfile
      | directory =>
        have hlen := Path.length_lt_join_name p (isOrdinary_of_at? hat)
        simp only [visitEntry, seen, Entry.isDirectory, namesThrough, List.map_map]
        exact ih (h.join hat) (by omega)
    simp only [visitLevels, hread, visitEntries_eq_ok hentry, templates, shown, List.map_flatMap,
      List.flatMap_map]

theorem discover_listed (h : Listed fs p loc) (entryPoint : String) :
    discover fs p entryPoint =
      .ok ((templates fs (Text.Utf8.bytes entryPoint) pathLimit loc).map fun ns => ⟨p.under ns⟩) :=
  visitLevels_listed _ h (Nat.le_add_right pathLimit _)

end Listed

/-! ## 4. A copy and its source -/

section Duplicate

variable {fs : FileSystem} {source copy : Path} {loc top : Location}

/-- A copied entry is a directory where the entry itself is one. -/
theorem isDirectory_of_isCopy {ns : List Name} {copied : Option Entry}
    (h : fs.IsCopy source loc ns copied) :
    copied.map Entry.isDirectory = (fs.at? (loc ++ ns)).map Entry.isDirectory := by
  unfold IsCopy at h
  split at h <;> rename_i hat
  · rw [h, hat]
  · rw [h, hat]
  · rename_i e he
    obtain ⟨origin, content, executable, -, rfl⟩ := h
    rw [hat]
    cases e with
    | directory => exact absurd rfl he
    | file _ _ => rfl
    | link _ => rfl

theorem sameShape_of_duplicate (h : Duplicate fs source loc copy top) : SameShape fs loc fs top :=
  fun ns => isDirectory_of_isCopy (h.isCopy ns)

theorem listed_source (h : Duplicate fs source loc copy top) : Listed fs source loc :=
  ⟨h.directory, fun ns hns => ((h.doubled ns).listed hns).1⟩

theorem listed_copy (h : Duplicate fs source loc copy top) : Listed fs copy top := by
  refine ⟨at?_of_stat? h.stat?_copy, fun ns hns => ((h.doubled ns).listed ?_).2⟩
  -- only a directory is copied as a directory
  have hshape := sameShape_of_duplicate h ns
  rw [hns] at hshape
  obtain ⟨e, hat, he⟩ := Option.map_eq_some_iff.1 hshape.symm
  rw [hat]
  cases e with
  | directory => rfl
  | file _ _ => cases he
  | link _ => cases he

end Duplicate

end Discovery

namespace FileSystem

/-- **A tree copied to a path without `..` parts where nothing was found is duplicated**, and the
    source stays as it was. -/
theorem copyTree_duplicate {fs fs' : FileSystem} {source destination : Path} {loc : Location}
    (hup : destination.NeverUp) (hne : destination.isEmpty = false)
    (hnone : fs.leadsToDirectory destination = false) (hs : fs.stat? source = .ok (loc, .directory))
    (hb : ∀ top, fs'.stat? destination = .ok (top, .directory) → Beside loc top)
    (h : copyTree source destination fs = .ok () fs') :
    ∃ top, Duplicate fs' source loc destination top ∧
      ∀ ns, fs'.at? (loc ++ ns) = fs.at? (loc ++ ns) := by
  cases hm : makeDirectories destination fs with
  | error e fs₁ =>
    change copyLevels (pathLimit - 1 + 1) source destination fs = .ok () fs' at h
    simp only [copyLevels, hm] at h
    cases h
  | ok u fs₁ =>
    obtain ⟨top, hmade⟩ := makeDirectories_made hup hne hnone hm
    obtain ⟨hgrow, hdup⟩ := copyTree_made hm hmade hs h
    have hb' := hb top (stat?_of_leads (hmade.leads.mono hgrow.keepsWays) hmade.check)
    refine ⟨top, (hdup hb').2, fun ns => ?_⟩
    rw [hb'.at?_eq hgrow.outside ns]
    exact hmade.adds.at?_append hb'.1 ns

end FileSystem

/-- **A copied tree shows the templates of its source, in the same order**: every search through the
    copy succeeds and finds what the search through the source finds, behind the path of the copy in
    place of that of the source. The source may hold links to files, and entries of any kind under
    the name of the entry document. The path of the copy is not empty and has no `..` parts, nothing
    was found there, and neither tree is inside the other. -/
theorem discover_copied {fs fs' : FileSystem} {source destination : Path} {loc : Location}
    (hup : destination.NeverUp) (hne : destination.isEmpty = false)
    (hnone : fs.pathExists destination = false) (hs : fs.stat? source = .ok (loc, .directory))
    (hb : ∀ top, fs'.stat? destination = .ok (top, .directory) → Beside loc top)
    (h : copyTree source destination fs = .ok () fs') (entryPoint : String) :
    ∃ found : List (List Name),
      discover fs source entryPoint = .ok (found.map fun ns => ⟨source.under ns⟩) ∧
      discover fs' source entryPoint = .ok (found.map fun ns => ⟨source.under ns⟩) ∧
      discover fs' destination entryPoint = .ok (found.map fun ns => ⟨destination.under ns⟩) := by
  have hdir : fs.leadsToDirectory destination = false := by
    cases hd : fs.leadsToDirectory destination with
    | false => rfl
    | true =>
      obtain ⟨top, hstat⟩ := leadsToDirectory_iff.1 hd
      simp only [pathExists, hstat] at hnone
      cases hnone
  obtain ⟨top, hd, hsame⟩ := copyTree_duplicate hup hne hdir hs hb h
  have hlisted := Discovery.listed_source hd
  have hbefore : Discovery.SameShape fs loc fs' loc := fun ns => by rw [hsame]
  refine ⟨Discovery.templates fs (Text.Utf8.bytes entryPoint) pathLimit loc, ?_, ?_, ?_⟩
  · exact Discovery.discover_listed (hlisted.of_same hs hsame) entryPoint
  · rw [Discovery.discover_listed hlisted, Discovery.templates_eq hbefore]
  · rw [Discovery.discover_listed (Discovery.listed_copy hd),
      Discovery.templates_eq (Discovery.sameShape_of_duplicate hd), Discovery.templates_eq hbefore]

/-- A directory named like the entry document, an entry document that is a link, and a link on the way
    to the copy. -/
def parcel : FileSystem :=
  .written [("s", .directory), ("s/main.typ", .directory),
    ("s/main.typ/main.typ", .file (Text.Utf8.bytes "= A") false), ("s/b", .directory),
    ("s/b/main.typ", .link (.ofString "../../shared")),
    ("shared", .file (Text.Utf8.bytes "= S") false), ("d", .link (.ofString "other")),
    ("other", .directory)]

theorem discover_copied_parcel :
    let destination : Path := .ofString "d/new/./copy/"
    ∃ fs', copyTree (.ofString "s") destination parcel = .ok () fs' ∧
      ∃ found : List (List Name),
        discover parcel (.ofString "s") "main.typ" =
          .ok (found.map fun ns => ⟨(Path.ofString "s").under ns⟩) ∧
        discover fs' (.ofString "s") "main.typ" =
          .ok (found.map fun ns => ⟨(Path.ofString "s").under ns⟩) ∧
        discover fs' destination "main.typ" =
          .ok (found.map fun ns => ⟨destination.under ns⟩) := by
  intro destination
  have hcopied : Disk.succeeds (fun _ fs' => decide (fs'.stat? destination =
      .ok (["other", "new", "copy"].map Text.Utf8.bytes, .directory)))
      (copyTree (.ofString "s") destination parcel) = true := by
    decide +kernel
  obtain ⟨_, fs', h, hall⟩ := Disk.succeeds_iff.1 hcopied
  have htop := of_decide_eq_true hall
  have hsource : parcel.stat? (.ofString "s") = .ok ([Text.Utf8.bytes "s"], .directory) := by
    decide +kernel
  refine ⟨fs', h, discover_copied (by decide) (by decide) (by decide +kernel) hsource
    (fun top hstat => ?_) h "main.typ"⟩
  rw [htop] at hstat
  cases hstat
  decide

/-- A template beside the working directory. -/
def besideHome : FileSystem :=
  { FileSystem.written [("work", .directory), ("s", .directory), ("s/a", .directory),
      ("s/a/main.typ", .file (Text.Utf8.bytes "= A") false)] with
    home := [Text.Utf8.bytes "work"] }

/-- **A copy to the empty path shows no templates**: the entries are copied into the working
    directory, and by the empty path nothing is found before or after. -/
theorem discover_emptyPath_besideHome :
    let source : Path := .ofString "/s"
    let destination : Path := ⟨[]⟩
    let a : Name := Text.Utf8.bytes "a"
    let document : Name := Text.Utf8.bytes "main.typ"
    destination.NeverUp ∧ besideHome.pathExists destination = false ∧
      besideHome.stat? source = .ok ([Text.Utf8.bytes "s"], .directory) ∧
      Beside [Text.Utf8.bytes "s"] besideHome.home ∧
      ∃ fs', copyTree source destination besideHome = .ok () fs' ∧
        fs'.at? (besideHome.home ++ [a, document]) = some (.file (Text.Utf8.bytes "= A") false) ∧
        discover fs' source "main.typ" = .ok [⟨source.join ⟨a⟩⟩] ∧
        discover fs' destination "main.typ" =
          .error (.readDirectory destination (.os .notFound)) := by
  intro source destination a document
  refine ⟨by decide, by decide +kernel, by decide +kernel, by decide, ?_⟩
  have hcopied : Disk.succeeds (fun _ fs' => decide
      (fs'.at? (besideHome.home ++ [a, document]) = some (.file (Text.Utf8.bytes "= A") false) ∧
        discover fs' source "main.typ" = .ok [⟨source.join ⟨a⟩⟩] ∧
        discover fs' destination "main.typ" =
          .error (.readDirectory destination (.os .notFound))))
      (copyTree source destination besideHome) = true := by
    decide +kernel
  obtain ⟨_, fs', h, hall⟩ := Disk.succeeds_iff.1 hcopied
  exact ⟨fs', h, of_decide_eq_true hall⟩

end TemplatePress
