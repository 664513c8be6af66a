import TemplatePress.Discovery
import TemplatePress.Proofs.Copying

/-!
# What a search finds

* `Reached`: the names on the way down from a directory through real directories. Links do not
  count, wherever they point to, so a search never goes round in a cycle.
* `visitLevels_finds`: the template folders at and below a directory are found, each once, where
  everything reached can be listed. The induction is on the depth left, and the measure that carries
  it is the length of the path: a path of `pathLimit` bytes cannot be listed, so a depth that makes
  up for the length of the path never runs out.
* `discover_iff`: the search from a root;
* `visitLevels_congr`: two file systems in which every directory below the root is listed alike.
-/

namespace TemplatePress

open FileSystem

namespace Discovery

/-! ## 1. Directories that are reached -/

/-- The names on the way down from a directory through real directories. -/
inductive Reached (fs : FileSystem) (dir : Location) : List Name → Prop where
  | here : Reached fs dir []
  | down {ns : List Name} {n : Name} : Reached fs dir ns →
      fs.at? (dir ++ ns ++ [n]) = some .directory → Reached fs dir (ns ++ [n])

variable {fs : FileSystem} {dir : Location}

theorem reached_iff {ns : List Name} (hdir : fs.at? dir = some .directory) :
    Reached fs dir ns ↔ fs.at? (dir ++ ns) = some .directory := by
  constructor
  · intro h
    cases h with
    | here => simpa using hdir
    | down _ hat => simpa using hat
  · intro h
    induction ns using List.reverseRecOn with
    | nil => exact .here
    | append_singleton ns n ih =>
      rw [← List.append_assoc] at h
      exact .down (ih (isDirectory_iff.1 (isDirectory_of_at? h))) h

theorem Reached.directory {ns : List Name} (h : Reached fs dir ns)
    (hdir : fs.at? dir = some .directory) : fs.at? (dir ++ ns) = some .directory :=
  (reached_iff hdir).1 h

/-- What is reached below a directory is reached by its name. -/
theorem reached_cons {n : Name} {ns : List Name} (hdir : fs.at? dir = some .directory) :
    Reached fs dir (n :: ns) ↔
      fs.at? (dir ++ [n]) = some .directory ∧ Reached fs (dir ++ [n]) ns := by
  have happend : dir ++ n :: ns = dir ++ [n] ++ ns := by simp
  constructor
  · intro h
    have hat := h.directory hdir
    rw [happend] at hat
    have hn := isDirectory_iff.1 (isDirectory_of_append ns (isDirectory_iff.2 hat))
    exact ⟨hn, (reached_iff hn).2 hat⟩
  · rintro ⟨hn, h⟩
    rw [reached_iff hdir, happend]
    exact h.directory hn

theorem Reached.ordinary {ns : List Name} (h : Reached fs dir ns) :
    ∀ n ∈ ns, Name.isOrdinary n = true := by
  induction h with
  | here => exact fun n hn => absurd hn List.not_mem_nil
  | down _ hat ih =>
    intro m hm
    rcases List.mem_append.1 hm with hm | hm
    · exact ih m hm
    · rw [List.mem_singleton.1 hm]
      exact isOrdinary_of_at? hat

/-- Names lead from a directory to a template: through real directories to one in which an entry of
    the name of the entry document stands that is no real directory. -/
def IsTemplate (fs : FileSystem) (dir : Location) (entryPoint : Name) (ns : List Name) : Prop :=
  Reached fs dir ns ∧ ∃ e, fs.at? (dir ++ ns ++ [entryPoint]) = some e ∧ e ≠ .directory

theorem isTemplate_nil {entryPoint : Name} :
    IsTemplate fs dir entryPoint [] ↔
      ∃ e, fs.at? (dir ++ [entryPoint]) = some e ∧ e ≠ .directory := by
  simp [IsTemplate, Reached.here]

theorem isTemplate_cons {entryPoint n : Name} {ns : List Name}
    (hdir : fs.at? dir = some .directory) :
    IsTemplate fs dir entryPoint (n :: ns) ↔
      fs.at? (dir ++ [n]) = some .directory ∧ IsTemplate fs (dir ++ [n]) entryPoint ns := by
  simp only [IsTemplate, reached_cons hdir, and_assoc, List.append_assoc, List.cons_append,
    List.nil_append]

/-! ## 2. The entries of one directory -/

/-- The contributions of entries follow one another. -/
theorem visitEntries_eq_ok {visit : Path → Except DiscoveryError (List TemplateFolder)}
    {entryPoint : Name} {p : Path} {found : Name × Entry → List TemplateFolder}
    {entries : List (Name × Entry)}
    (h : ∀ x ∈ entries, visitEntry visit entryPoint p x = .ok (found x)) :
    visitEntries visit entryPoint p entries = .ok (entries.flatMap found) := by
  induction entries with
  | nil => rfl
  | cons x rest ih =>
    have hrest := ih fun y hy => h y (List.mem_cons_of_mem _ hy)
    simp only [visitEntries, h x List.mem_cons_self, hrest, List.flatMap_cons]

/-- A list of folders holds those that names lead to, each once. -/
structure Finds (p : Path) (leads : List Name → Prop) (folders : List TemplateFolder) : Prop where
  nodup : folders.Nodup
  mem : ∀ folder, folder ∈ folders ↔ ∃ ns, leads ns ∧ folder = ⟨p.under ns⟩

/-- The names that lead to templates through one entry of a directory. -/
def Through (fs : FileSystem) (dir : Location) (entryPoint : Name) :
    Name × Entry → List Name → Prop
  | (n, .directory), ns => ∃ more, ns = n :: more ∧ IsTemplate fs (dir ++ [n]) entryPoint more
  | (n, _), ns => n = entryPoint ∧ ns = []

theorem exists_through_iff {entryPoint : Name} {ns : List Name}
    (hdir : fs.at? dir = some .directory) :
    (∃ x ∈ fs.children dir, Through fs dir entryPoint x ns) ↔ IsTemplate fs dir entryPoint ns := by
  constructor
  · rintro ⟨⟨n, e⟩, hmem, h⟩
    rw [mem_children] at hmem
    match e with
    | .directory =>
      obtain ⟨more, rfl, hmore⟩ := h
      exact (isTemplate_cons hdir).2 ⟨hmem, hmore⟩
    | .file content executable =>
      obtain ⟨rfl, rfl⟩ := h
      exact isTemplate_nil.2 ⟨_, hmem, by simp⟩
    | .link target =>
      obtain ⟨rfl, rfl⟩ := h
      exact isTemplate_nil.2 ⟨_, hmem, by simp⟩
  · intro h
    cases ns with
    | nil =>
      obtain ⟨e, hat, hne⟩ := isTemplate_nil.1 h
      refine ⟨(entryPoint, e), mem_children.2 hat, ?_⟩
      match e, hne with
      | .file _ _, _ => exact ⟨rfl, rfl⟩
      | .link _, _ => exact ⟨rfl, rfl⟩
      | .directory, hne => exact absurd rfl hne
    | cons n more =>
      obtain ⟨hat, hmore⟩ := (isTemplate_cons hdir).1 h
      exact ⟨(n, .directory), mem_children.2 hat, more, rfl, hmore⟩

/-- Through entries of different names lead different names. -/
theorem Through.fst_eq {entryPoint : Name} {x y : Name × Entry} {ns : List Name}
    (hx : Through fs dir entryPoint x ns) (hy : Through fs dir entryPoint y ns) : x.1 = y.1 := by
  obtain ⟨n, e⟩ := x
  obtain ⟨m, e'⟩ := y
  cases e <;> cases e' <;> simp only [Through] at hx hy <;> grind

/-- An entry contributes the templates that it leads to, if a sub-directory that it names does. -/
theorem visitEntry_finds {visit : Path → Except DiscoveryError (List TemplateFolder)}
    {entryPoint : Name} {p : Path} {n : Name} {e : Entry}
    (h : e = .directory → ∃ found, visit (p.join ⟨n⟩) = .ok found ∧
      Finds (p.join ⟨n⟩) (IsTemplate fs (dir ++ [n]) entryPoint) found) :
    ∃ found, visitEntry visit entryPoint p (n, e) = .ok found ∧
      Finds p (Through fs dir entryPoint (n, e)) found := by
  have hfile : Finds p (fun ns => n = entryPoint ∧ ns = [])
      (if n = entryPoint then [⟨p⟩] else []) := by
    by_cases hname : n = entryPoint
    · rw [if_pos hname]
      exact ⟨by simp, fun folder => by simp [hname]⟩
    · rw [if_neg hname]
      exact ⟨by simp, fun folder => by simp [hname]⟩
  cases e with
  | file content executable => exact ⟨_, rfl, hfile⟩
  | link target => exact ⟨_, rfl, hfile⟩
  | directory =>
    obtain ⟨found, hfound, hfinds⟩ := h rfl
    refine ⟨found, hfound, hfinds.nodup, fun folder => ?_⟩
    rw [hfinds.mem]
    constructor
    · rintro ⟨ns, hns, rfl⟩
      exact ⟨n :: ns, ⟨ns, rfl, hns⟩, rfl⟩
    · rintro ⟨-, ⟨ns, rfl, hns⟩, rfl⟩
      exact ⟨ns, hns, rfl⟩

/-- **The contributions of a directory's entries are the templates at and below it, each once.** -/
theorem finds_flatMap {entryPoint : Name} {p : Path} {found : Name × Entry → List TemplateFolder}
    {entries : List (Name × Entry)} (hdir : fs.at? dir = some .directory)
    (hperm : entries.Perm (fs.children dir))
    (h : ∀ x ∈ entries, Finds p (Through fs dir entryPoint x) (found x)) :
    Finds p (IsTemplate fs dir entryPoint) (entries.flatMap found) := by
  have hnames : (entries.map Prod.fst).Nodup := (hperm.map _).nodup_iff.2 (nodup_children fs dir)
  have hmem : ∀ folder, folder ∈ entries.flatMap found ↔
      ∃ ns, IsTemplate fs dir entryPoint ns ∧ folder = ⟨p.under ns⟩ := by
    intro folder
    rw [List.mem_flatMap]
    constructor
    · rintro ⟨x, hx, hfolder⟩
      obtain ⟨ns, hns, rfl⟩ := ((h x hx).mem folder).1 hfolder
      exact ⟨ns, (exists_through_iff hdir).1 ⟨x, hperm.mem_iff.1 hx, hns⟩, rfl⟩
    · rintro ⟨ns, hns, rfl⟩
      obtain ⟨x, hx, hthrough⟩ := (exists_through_iff hdir).2 hns
      have hx' := hperm.mem_iff.2 hx
      exact ⟨x, hx', ((h x hx').mem _).2 ⟨ns, hthrough, rfl⟩⟩
  refine ⟨List.nodup_flatMap.2 ⟨fun x hx => (h x hx).nodup, ?_⟩, hmem⟩
  -- a folder found through two entries would be reached by names that begin with both
  refine (List.pairwise_map.1 hnames).imp_of_mem fun {x y} hx hy hne folder hfx hfy => ?_
  obtain ⟨ns, hns, rfl⟩ := ((h x hx).mem folder).1 hfx
  obtain ⟨ms, hms, heq⟩ := ((h y hy).mem _).1 hfy
  have hordinary : ∀ {z : Name × Entry} {ks : List Name}, z ∈ entries →
      Through fs dir entryPoint z ks → ∀ k ∈ ks, Name.isOrdinary k = true := by
    intro z ks hz hks
    exact ((exists_through_iff hdir).1 ⟨z, hperm.mem_iff.1 hz, hks⟩).1.ordinary
  obtain rfl : ns = ms := Path.under_injective p (hordinary hx hns) (hordinary hy hms)
    (TemplateFolder.mk.inj heq)
  exact hne (hns.fst_eq hms)

/-! ## 3. The search -/

/-- A path that can be listed is below the limit. -/
theorem length_lt_of_readDirectory {p : Path} {entries : List (Name × Entry)}
    (h : fs.readDirectory p = .ok entries) : p.bytes.length < pathLimit := by
  obtain ⟨loc, hs, -⟩ := readDirectory_eq_ok h
  obtain ⟨s, hspot, -, -, -⟩ := stat?_eq_ok.1 hs
  have hcheck := (spot_eq_ok.1 hspot).1
  unfold checkPath at hcheck
  split at hcheck
  · cases hcheck
  · split at hcheck
    · cases hcheck
    · split at hcheck
      · assumption
      · cases hcheck

/-- **Where everything reached can be listed, the templates are found, each once.** -/
theorem visitLevels_finds (entryPoint : Name) {depth : Nat} {p : Path}
    (hp : fs.stat? p = .ok (dir, .directory))
    (hlist : ∀ ns, Reached fs dir ns → ∃ entries, fs.readDirectory (p.under ns) = .ok entries)
    (hdepth : pathLimit ≤ depth + p.bytes.length) :
    ∃ folders, visitLevels fs.readDirectory entryPoint depth p = .ok folders ∧
      Finds p (IsTemplate fs dir entryPoint) folders := by
  induction depth generalizing p dir with
  | zero =>
    obtain ⟨entries, hread⟩ := hlist [] .here
    have := length_lt_of_readDirectory hread
    rw [Path.under_nil] at this
    omega
  | succ depth ih =>
    have hdir := at?_of_stat? hp
    have hread : fs.readDirectory p = .ok (fs.children dir) := by
      simp only [readDirectory, hp]
    have hperm : ((fs.children dir).mergeSort byName).Perm (fs.children dir) :=
      List.mergeSort_perm _ _
    -- what each entry contributes; the path of a sub-directory is longer, so the depth suffices
    have hentry : ∀ x ∈ (fs.children dir).mergeSort byName, ∃ found,
        visitEntry (visitLevels fs.readDirectory entryPoint depth) entryPoint p x = .ok found ∧
          Finds p (Through fs dir entryPoint x) found := by
      rintro ⟨n, e⟩ hx
      have hat := mem_children.1 (hperm.mem_iff.1 hx)
      have hn := isOrdinary_of_at? hat
      refine visitEntry_finds fun he => ?_
      rw [he] at hat
      have hlist' : ∀ ns, Reached fs (dir ++ [n]) ns →
          ∃ entries, fs.readDirectory ((p.join ⟨n⟩).under ns) = .ok entries :=
        fun ns hns => hlist (n :: ns) ((reached_cons hdir).2 ⟨hat, hns⟩)
      obtain ⟨entries, hsub⟩ := hlist' [] .here
      rw [Path.under_nil] at hsub
      obtain ⟨loc, hstat, -⟩ := readDirectory_eq_ok hsub
      obtain rfl := (leads_of_stat? hp).of_join hn (by simp [hat]) (leads_of_stat? hstat)
      have hlen := Path.length_lt_join_name p hn
      exact ih hstat hlist' (by omega)
    choose! found hfound hfinds using hentry
    refine ⟨_, ?_, finds_flatMap hdir hperm hfinds⟩
    simp only [visitLevels, hread]
    exact visitEntries_eq_ok hfound

/-- **A search finds the folders that are reached through real directories and hold an entry
    document, each once**, where everything that is reached can be listed. -/
theorem discover_iff {root : Path} (hroot : fs.stat? root = .ok (dir, .directory))
    (hlist : ∀ ns, Reached fs dir ns → ∃ entries, fs.readDirectory (root.under ns) = .ok entries)
    (entryPoint : String) :
    ∃ folders, discover fs root entryPoint = .ok folders ∧ folders.Nodup ∧
      ∀ folder, folder ∈ folders ↔ ∃ ns,
        (Reached fs dir ns ∧
          ∃ e, fs.at? (dir ++ ns ++ [Text.Utf8.bytes entryPoint]) = some e ∧ e ≠ .directory) ∧
        folder = ⟨root.under ns⟩ := by
  obtain ⟨folders, hok, hnodup, hmem⟩ := visitLevels_finds (Text.Utf8.bytes entryPoint) hroot hlist
    (Nat.le_add_right pathLimit _)
  exact ⟨folders, hok, hnodup, hmem⟩

/-- Whether every directory of a file system that stands at or below `dir` can be listed by its path
    behind `root`. -/
def allListed (fs : FileSystem) (root : Path) (dir : Location) : Bool :=
  (dir :: (fs.entries.map Prod.fst).filter dir.isPrefixOf).all fun loc =>
    !fs.isDirectory loc || (fs.readDirectory (root.under (loc.drop dir.length))).toBool

theorem readDirectory_of_allListed {root : Path} (hdir : fs.at? dir = some .directory)
    (h : allListed fs root dir = true) (ns : List Name) (hns : Reached fs dir ns) :
    ∃ entries, fs.readDirectory (root.under ns) = .ok entries := by
  have hat := hns.directory hdir
  have hmem : dir ++ ns ∈ dir :: (fs.entries.map Prod.fst).filter dir.isPrefixOf := by
    by_cases hnil : dir ++ ns = []
    · simp [(List.append_eq_nil_iff.1 hnil).1, (List.append_eq_nil_iff.1 hnil).2]
    · refine List.mem_cons_of_mem _ (List.mem_filter.2 ⟨?_, ?_⟩)
      · exact List.mem_map.2 ⟨_, (at?_eq_some_iff hnil).1 hat, rfl⟩
      · exact List.isPrefixOf_iff_prefix.2 (List.prefix_append _ _)
  have hread := List.all_eq_true.1 h _ hmem
  rw [isDirectory_iff.2 hat, List.drop_left, Bool.not_true, Bool.false_or] at hread
  cases hd : fs.readDirectory (root.under ns) with
  | ok entries => exact ⟨entries, rfl⟩
  | error e =>
    rw [hd] at hread
    cases hread

/-- A directory named like the entry document, an entry document that leads nowhere, and a link in a
    circle. -/
def winding : FileSystem :=
  .written [("r", .directory), ("r/main.typ", .directory),
    ("r/main.typ/main.typ", .file (Text.Utf8.bytes "= A") false),
    ("r/a", .directory), ("r/a/main.typ", .link (.ofString "nowhere")),
    ("r/a/up", .link (.ofString ".."))]

theorem discover_iff_winding :
    winding.stat? (.ofString "r") = .ok ([Text.Utf8.bytes "r"], .directory) ∧
    ∃ folders, discover winding (.ofString "r") "main.typ" = .ok folders ∧ folders.Nodup ∧
      ∀ folder, folder ∈ folders ↔ ∃ ns,
        (Reached winding [Text.Utf8.bytes "r"] ns ∧
          ∃ e, winding.at? ([Text.Utf8.bytes "r"] ++ ns ++ [Text.Utf8.bytes "main.typ"]) = some e ∧
            e ≠ .directory) ∧
        folder = ⟨(Path.ofString "r").under ns⟩ := by
  have hroot : winding.stat? (.ofString "r") = .ok ([Text.Utf8.bytes "r"], .directory) := by
    decide +kernel
  exact ⟨hroot, discover_iff hroot
    (readDirectory_of_allListed (at?_of_stat? hroot) (by decide +kernel)) "main.typ"⟩

/-! ## 4. Searches in two file systems -/

theorem mem_visitEntries {visit : Path → Except DiscoveryError (List TemplateFolder)}
    {entryPoint : Name} {p : Path} {entries : List (Name × Entry)} {folders : List TemplateFolder}
    (h : visitEntries visit entryPoint p entries = .ok folders) {folder : TemplateFolder}
    (hmem : folder ∈ folders) :
    ∃ x ∈ entries, ∃ found, visitEntry visit entryPoint p x = .ok found ∧ folder ∈ found := by
  induction entries generalizing folders with
  | nil =>
    cases h
    cases hmem
  | cons x rest ih =>
    unfold visitEntries at h
    split at h
    · cases h
    · rename_i found hfound
      split at h
      · cases h
      · rename_i more hmore
        cases h
        rcases List.mem_append.1 hmem with hmem | hmem
        · exact ⟨x, List.mem_cons_self, found, hfound, hmem⟩
        · obtain ⟨y, hy, hfound⟩ := ih hmore hmem
          exact ⟨y, List.mem_cons_of_mem _ hy, hfound⟩

/-- **What a search finds lies below its root, can be listed, and holds an entry document** that is
    no directory. -/
theorem visitLevels_sound {entryPoint : Name} {depth : Nat} {p : Path}
    {folders : List TemplateFolder}
    (h : visitLevels fs.readDirectory entryPoint depth p = .ok folders) {folder : TemplateFolder}
    (hmem : folder ∈ folders) :
    ∃ ns, (∀ n ∈ ns, Name.isOrdinary n = true) ∧ folder = ⟨p.under ns⟩ ∧
      ∃ entries, fs.readDirectory (p.under ns) = .ok entries ∧
        ∃ e, (entryPoint, e) ∈ entries ∧ e ≠ .directory := by
  induction depth generalizing p folders with
  | zero => cases h
  | succ depth ih =>
    unfold visitLevels at h
    split at h
    · cases h
    · rename_i entries hread
      obtain ⟨⟨n, e⟩, hx, found, hfound, hmem⟩ := mem_visitEntries h hmem
      rw [List.mem_mergeSort] at hx
      have hfile : e ≠ .directory → found = (if n = entryPoint then [⟨p⟩] else []) →
          ∃ ns, (∀ n ∈ ns, Name.isOrdinary n = true) ∧ folder = ⟨p.under ns⟩ ∧
            ∃ entries, fs.readDirectory (p.under ns) = .ok entries ∧
              ∃ e, (entryPoint, e) ∈ entries ∧ e ≠ .directory := by
        rintro he rfl
        split at hmem
        · rename_i hname
          rw [List.mem_singleton] at hmem
          exact ⟨[], nofun, hmem, entries, hread, e, hname ▸ hx, he⟩
        · cases hmem
      cases e with
      | file _ _ => exact hfile (by simp) (Except.ok.inj hfound).symm
      | link _ => exact hfile (by simp) (Except.ok.inj hfound).symm
      | directory =>
        obtain ⟨ns, hns, rfl, hentry⟩ := ih hfound hmem
        obtain ⟨loc, -, rfl⟩ := readDirectory_eq_ok hread
        exact ⟨n :: ns, List.forall_mem_cons.2 ⟨isOrdinary_of_mem_children hx, hns⟩, rfl, hentry⟩

theorem exists_readDirectory_of_visitLevels {entryPoint : Name} {depth : Nat} {p : Path}
    {folders : List TemplateFolder}
    (h : visitLevels fs.readDirectory entryPoint depth p = .ok folders) :
    ∃ entries, fs.readDirectory p = .ok entries := by
  cases depth with
  | zero => cases h
  | succ depth =>
    unfold visitLevels at h
    split at h
    · cases h
    · rename_i entries hread
      exact ⟨entries, hread⟩

theorem visitEntries_congr {visit visit' : Path → Except DiscoveryError (List TemplateFolder)}
    {entryPoint : Name} {p : Path} {entries : List (Name × Entry)}
    (h : ∀ x ∈ entries, x.2 = .directory → visit' (p.join ⟨x.1⟩) = visit (p.join ⟨x.1⟩)) :
    visitEntries visit' entryPoint p entries = visitEntries visit entryPoint p entries := by
  induction entries with
  | nil => rfl
  | cons x rest ih =>
    have hx : visitEntry visit' entryPoint p x = visitEntry visit entryPoint p x := by
      obtain ⟨n, e⟩ := x
      cases e with
      | directory => exact h _ List.mem_cons_self rfl
      | file _ _ => rfl
      | link _ => rfl
    unfold visitEntries
    rw [hx, ih fun y hy => h y (List.mem_cons_of_mem _ hy)]

/-- **Where every directory below the root is listed alike, the same is found.** -/
theorem visitLevels_congr {fs' : FileSystem} {entryPoint : Name} {depth : Nat} {p : Path}
    (h : ∀ ns, (∀ n ∈ ns, Name.isOrdinary n = true) →
      fs'.readDirectory (p.under ns) = fs.readDirectory (p.under ns)) :
    visitLevels fs'.readDirectory entryPoint depth p =
      visitLevels fs.readDirectory entryPoint depth p := by
  induction depth generalizing p with
  | zero => rfl
  | succ depth ih =>
    have hp : fs'.readDirectory p = fs.readDirectory p := h [] nofun
    unfold visitLevels
    rw [hp]
    cases hread : fs.readDirectory p with
    | error e => rfl
    | ok entries =>
      refine visitEntries_congr fun x hx _ => ih fun ns hns => ?_
      obtain ⟨loc, -, rfl⟩ := readDirectory_eq_ok hread
      rw [List.mem_mergeSort] at hx
      exact h (x.1 :: ns) (List.forall_mem_cons.2 ⟨isOrdinary_of_mem_children hx, hns⟩)

end Discovery

end TemplatePress
