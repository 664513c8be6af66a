import TemplatePress.Proofs.Identifiers
import TemplatePress.Proofs.SameTemplates

/-!
# The order of a search

The folders that a search finds are not in order themselves: a folder comes behind those below the
entries that sort before its entry document. What is in order are the paths of the entry documents.

* `Before`: the order of names on the way down. It is the order of the paths that they make behind
  one path (`compare_under_lt_iff`);
* `pairwise_sorted`, `mergeSort_congr`: sorted by name, the entries of a directory stand in one
  order, however they are listed;
* `Ordered`: the names that lead to the folders found, in the order of their entry documents. A
  directory hands it on from those below (`visitEntry_ordered`, `visitEntries_ordered`), and so does
  a search, by induction on the depth (`visitLevels_ordered`);
* `discover_increasing`: what this says of the folders that are found.
-/

namespace TemplatePress

open FileSystem

/-! ## 1. Names on the way down, in order -/

namespace Path

theorem compareBytes_self (a : Bytes) : compareBytes a a = .eq := by
  rw [Discovery.compareBytes_eq]
  exact Std.ReflCmp.compare_self

theorem eq_of_compareBytes {a b : Bytes} (h : compareBytes a b = .eq) : a = b := by
  rw [Discovery.compareBytes_eq] at h
  exact Std.LawfulEqCmp.eq_of_compare h

theorem compareBytes_swap (a b : Bytes) : compareBytes b a = (compareBytes a b).swap := by
  rw [Discovery.compareBytes_eq, Discovery.compareBytes_eq]
  exact Std.OrientedCmp.eq_swap

theorem Component.compare_self (c : Component) : c.compare c = .eq := by
  cases c with
  | root => rfl
  | current => rfl
  | parent => rfl
  | normal n => exact compareBytes_self n

theorem Component.compare_swap (c d : Component) : d.compare c = (c.compare d).swap := by
  have hrank : ∀ a b : Nat, Ord.compare b a = (Ord.compare a b).swap :=
    fun a b => Std.OrientedCmp.eq_swap
  cases c <;> cases d <;> first | exact hrank _ _ | exact compareBytes_swap _ _

theorem compareComponents_swap (cs ds : List Component) :
    compareComponents ds cs = (compareComponents cs ds).swap := by
  induction cs generalizing ds with
  | nil => cases ds <;> rfl
  | cons c cs ih =>
    cases ds with
    | nil => rfl
    | cons d ds => rw [compareComponents, compareComponents, Ordering.swap_then,
        Component.compare_swap c d, ih]

/-- No path comes both before and after another. -/
theorem compare_asymm {p q : Path} (h : p.compare q = .lt) : q.compare p ≠ .lt := by
  rw [compare] at h ⊢
  rw [compareComponents_swap, h]
  exact nofun

/-- What two rows of components begin with alike does not count. -/
theorem compareComponents_append (cs as bs : List Component) :
    compareComponents (cs ++ as) (cs ++ bs) = compareComponents as bs := by
  induction cs with
  | nil => rfl
  | cons c cs ih =>
    rw [List.cons_append, List.cons_append, compareComponents, Component.compare_self, ih]
    rfl

theorem compareComponents_self (cs : List Component) : compareComponents cs cs = .eq :=
  (congrArg₂ compareComponents (List.append_nil cs) (List.append_nil cs)).symm.trans
    (compareComponents_append cs [] [])

end Path

namespace Discovery

/-- Names on the way down come before others: those of a directory before those of everything below
    it, and below one directory in the order of the first names that differ. -/
inductive Before : List Name → List Name → Prop where
  | here {m : Name} {ms : List Name} : Before [] (m :: ms)
  | beside {n m : Name} {ns ms : List Name} : Path.compareBytes n m = .lt →
      Before (n :: ns) (m :: ms)
  | within {n : Name} {ns ms : List Name} : Before ns ms → Before (n :: ns) (n :: ms)

theorem before_cons_iff {n m : Name} {ns ms : List Name} :
    Before (n :: ns) (m :: ms) ↔ Path.compareBytes n m = .lt ∨ n = m ∧ Before ns ms := by
  constructor
  · intro h
    cases h with
    | beside hlt => exact Or.inl hlt
    | within h => exact Or.inr ⟨rfl, h⟩
  · rintro (hlt | ⟨rfl, h⟩)
    · exact .beside hlt
    · exact .within h

theorem compareComponents_normal_lt_iff {ns ms : List Name} :
    Path.compareComponents (ns.map .normal) (ms.map .normal) = .lt ↔ Before ns ms := by
  induction ns generalizing ms with
  | nil =>
    cases ms with
    | nil => exact ⟨nofun, nofun⟩
    | cons m ms => exact ⟨fun _ => .here, fun _ => rfl⟩
  | cons n ns ih =>
    cases ms with
    | nil => exact ⟨nofun, nofun⟩
    | cons m ms =>
      rw [before_cons_iff, ← ih]
      simp only [List.map_cons, Path.compareComponents, Path.Component.compare]
      cases hnm : Path.compareBytes n m with
      | lt => simp
      | eq => simp [Path.eq_of_compareBytes hnm]
      | gt =>
        have hne : n ≠ m := by
          rintro rfl
          rw [Path.compareBytes_self] at hnm
          cases hnm
        simp [hne]

/-- **Behind one path, the order of names is the order of paths.** -/
theorem compare_under_lt_iff (p : Path) {ns ms : List Name}
    (hns : ∀ n ∈ ns, Name.isOrdinary n = true) (hms : ∀ m ∈ ms, Name.isOrdinary m = true) :
    (p.under ns).compare (p.under ms) = .lt ↔ Before ns ms := by
  rw [Path.compare, Path.components_under p hns, Path.components_under p hms,
    Path.compareComponents_append, compareComponents_normal_lt_iff]

/-- Of different names one comes before the other. -/
theorem before_or_before {ns ms : List Name} (h : ns ≠ ms) : Before ns ms ∨ Before ms ns := by
  induction ns generalizing ms with
  | nil =>
    obtain ⟨m, ms, rfl⟩ := List.exists_cons_of_ne_nil h.symm
    exact Or.inl .here
  | cons n ns ih =>
    cases ms with
    | nil => exact Or.inr .here
    | cons m ms =>
      cases hnm : Path.compareBytes n m with
      | lt => exact Or.inl (.beside hnm)
      | gt => exact Or.inr (.beside (by rw [Path.compareBytes_swap, hnm]; rfl))
      | eq =>
        obtain rfl := Path.eq_of_compareBytes hnm
        exact (ih fun heq => h (heq ▸ rfl)).imp .within .within

/-! ## 2. The entries of a directory, sorted -/

theorem byName_trans (x y z : Name × Entry) (hxy : byName x y = true) (hyz : byName y z = true) :
    byName x z = true := by
  rw [byName_eq] at hxy hyz ⊢
  exact noLater_trans _ _ _ hxy hyz

theorem byName_total (x y : Name × Entry) : (byName x y || byName y x) = true := by
  rw [byName_eq, byName_eq]
  exact noLater_total _ _

/-- **Sorted entries of different names are strictly in order.** -/
theorem pairwise_sorted {entries : List (Name × Entry)} (h : (entries.map Prod.fst).Nodup) :
    (entries.mergeSort byName).Pairwise fun x y => Path.compareBytes x.1 y.1 = .lt := by
  have hnodup : ((entries.mergeSort byName).map Prod.fst).Nodup :=
    (((List.mergeSort_perm entries byName).map _).nodup_iff).2 h
  refine ((List.pairwise_mergeSort byName_trans byName_total entries).and
    (List.pairwise_map.1 hnodup)).imp ?_
  rintro x y ⟨hle, hne⟩
  cases hxy : Path.compareBytes x.1 y.1 with
  | lt => rfl
  | eq => exact absurd (Path.eq_of_compareBytes hxy) hne
  | gt =>
    rw [byName, hxy] at hle
    cases hle

/-- **How a directory is listed does not matter** once its entries are sorted. -/
theorem mergeSort_congr {entries entries' : List (Name × Entry)}
    (h : (entries.map Prod.fst).Nodup) (hperm : entries'.Perm entries) :
    entries'.mergeSort byName = entries.mergeSort byName := by
  have h' : (entries'.map Prod.fst).Nodup := (hperm.map _).nodup_iff.2 h
  refine List.Perm.eq_of_pairwise (fun x y _ _ hxy hyx => ?_) (pairwise_sorted h')
    (pairwise_sorted h) ?_
  · rw [Path.compareBytes_swap, hxy] at hyx
    cases hyx
  · exact (List.mergeSort_perm _ _).trans (hperm.trans (List.mergeSort_perm _ _).symm)

/-! ## 3. Folders in the order of their entry documents -/

/-- A way of listing names the entries of a directory, each once. -/
structure IsProper (list : Listing) : Prop where
  ordinary : ∀ {p entries}, list p = .ok entries → ∀ x ∈ entries, Name.isOrdinary x.1 = true
  nodup : ∀ {p entries}, list p = .ok entries → (entries.map Prod.fst).Nodup

theorem isProper_readDirectory (fs : FileSystem) : IsProper fs.readDirectory := by
  constructor <;> intro p entries h <;> obtain ⟨loc, -, rfl⟩ := readDirectory_eq_ok h
  · exact fun x => isOrdinary_of_mem_children
  · exact nodup_children fs loc

/-- Names lead from a path to the folders, in the order of their entry documents. -/
structure Ordered (p : Path) (entryPoint : Name) (leads : List (List Name))
    (folders : List TemplateFolder) : Prop where
  folders : folders = leads.map fun ns => ⟨p.under ns⟩
  ordinary : ∀ ns ∈ leads, ∀ n ∈ ns ++ [entryPoint], Name.isOrdinary n = true
  increasing : leads.Pairwise fun ns ms => Before (ns ++ [entryPoint]) (ms ++ [entryPoint])

/-- The way to an entry document begins with a name of the list. -/
def BeginsIn (entryPoint : Name) (names : List Name) (ns : List Name) : Prop :=
  ∃ n ∈ names, ∃ more, ns ++ [entryPoint] = n :: more

section Ordered

variable {list : Listing} {visit : Path → Except DiscoveryError (List TemplateFolder)}
  {entryPoint : Name} {p : Path} {folders : List TemplateFolder}

/-- **An entry contributes folders in order**, whose ways begin with its name. -/
theorem visitEntry_ordered {x : Name × Entry} (hx : Name.isOrdinary x.1 = true)
    (hvisit : ∀ found, visit (p.join ⟨x.1⟩) = .ok found →
      ∃ leads, Ordered (p.join ⟨x.1⟩) entryPoint leads found)
    (h : visitEntry visit entryPoint p x = .ok folders) :
    ∃ leads, Ordered p entryPoint leads folders ∧ ∀ ns ∈ leads, BeginsIn entryPoint [x.1] ns := by
  obtain ⟨n, e⟩ := x
  have hown : ∀ found, found = (if n = entryPoint then [⟨p⟩] else []) →
      ∃ leads, Ordered p entryPoint leads found ∧ ∀ ns ∈ leads, BeginsIn entryPoint [n] ns := by
    rintro found rfl
    split
    · rename_i hname
      refine ⟨[[]], ⟨rfl, ?_, List.pairwise_singleton _ _⟩, ?_⟩
      · simpa [← hname] using hx
      · exact List.forall_mem_singleton.2 ⟨n, List.mem_singleton_self n, [], by simp [hname]⟩
    · exact ⟨[], ⟨rfl, nofun, .nil⟩, nofun⟩
  cases e with
  | file _ _ => exact hown folders (Except.ok.inj h).symm
  | link _ => exact hown folders (Except.ok.inj h).symm
  | directory =>
    obtain ⟨leads, hleads⟩ := hvisit folders h
    refine ⟨leads.map (n :: ·), ⟨?_, ?_, ?_⟩, ?_⟩
    · rw [hleads.folders, List.map_map]
      rfl
    · intro ns hns
      obtain ⟨more, hmore, rfl⟩ := List.mem_map.1 hns
      exact List.forall_mem_cons.2 ⟨hx, hleads.ordinary more hmore⟩
    · exact List.pairwise_map.2 (hleads.increasing.imp .within)
    · intro ns hns
      obtain ⟨more, -, rfl⟩ := List.mem_map.1 hns
      exact ⟨n, List.mem_singleton_self n, more ++ [entryPoint], rfl⟩

/-- **Entries that are in order contribute folders in order.** The ways through one entry begin with
    its name, so they come before the ways through the next. -/
theorem visitEntries_ordered {entries : List (Name × Entry)}
    (hordinary : ∀ x ∈ entries, Name.isOrdinary x.1 = true)
    (hsorted : entries.Pairwise fun x y => Path.compareBytes x.1 y.1 = .lt)
    (hvisit : ∀ x ∈ entries, ∀ found, visit (p.join ⟨x.1⟩) = .ok found →
      ∃ leads, Ordered (p.join ⟨x.1⟩) entryPoint leads found)
    (h : visitEntries visit entryPoint p entries = .ok folders) :
    ∃ leads, Ordered p entryPoint leads folders ∧
      ∀ ns ∈ leads, BeginsIn entryPoint (entries.map Prod.fst) ns := by
  induction entries generalizing folders with
  | nil =>
    cases h
    exact ⟨[], ⟨rfl, nofun, .nil⟩, nofun⟩
  | cons x rest ih =>
    unfold visitEntries at h
    split at h
    · cases h
    rename_i found hfound
    split at h
    · cases h
    rename_i more hmore
    cases h
    rw [List.forall_mem_cons] at hordinary hvisit
    obtain ⟨hfirst, hsorted⟩ := List.pairwise_cons.1 hsorted
    obtain ⟨leads, hleads, hbegin⟩ := visitEntry_ordered hordinary.1 hvisit.1 hfound
    obtain ⟨others, hothers, hbegin'⟩ := ih hordinary.2 hsorted hvisit.2 hmore
    refine ⟨leads ++ others, ⟨?_, ?_, ?_⟩, ?_⟩
    · rw [hleads.folders, hothers.folders, List.map_append]
    · exact List.forall_mem_append.2 ⟨hleads.ordinary, hothers.ordinary⟩
    · refine List.pairwise_append.2 ⟨hleads.increasing, hothers.increasing, fun ns hns ms hms => ?_⟩
      obtain ⟨n, hn, back, hback⟩ := hbegin ns hns
      obtain ⟨m, hm, back', hback'⟩ := hbegin' ms hms
      obtain ⟨y, hy, rfl⟩ := List.mem_map.1 hm
      rw [hback, hback', List.mem_singleton.1 hn]
      exact .beside (hfirst y hy)
    · intro ns hns
      rcases List.mem_append.1 hns with hns | hns
      · obtain ⟨n, hn, hback⟩ := hbegin ns hns
        exact ⟨n, List.mem_cons.2 (Or.inl (List.mem_singleton.1 hn)), hback⟩
      · obtain ⟨n, hn, hback⟩ := hbegin' ns hns
        exact ⟨n, List.mem_cons_of_mem _ hn, hback⟩

/-- **A search finds folders in the order of their entry documents.** -/
theorem visitLevels_ordered (hlist : IsProper list) {depth : Nat}
    (h : visitLevels list entryPoint depth p = .ok folders) :
    ∃ leads, Ordered p entryPoint leads folders := by
  induction depth generalizing p folders with
  | zero => cases h
  | succ depth ih =>
    unfold visitLevels at h
    split at h
    · cases h
    · rename_i entries hentries
      obtain ⟨leads, hleads, -⟩ := visitEntries_ordered
        (fun x hx => hlist.ordinary hentries x (List.mem_mergeSort.1 hx))
        (pairwise_sorted (hlist.nodup hentries)) (fun x _ found hfound => ih hfound) h
      exact ⟨leads, hleads⟩

end Ordered

section Ordered

variable {p : Path} {entryPoint : Name} {leads : List (List Name)} {folders : List TemplateFolder}

/-- The entry documents of folders in order are strictly in order as paths. -/
theorem Ordered.pairwise (h : Ordered p entryPoint leads folders) :
    folders.Pairwise fun f g =>
      (f.path.join ⟨entryPoint⟩).compare (g.path.join ⟨entryPoint⟩) = .lt := by
  rw [h.folders, List.pairwise_map]
  refine h.increasing.imp_of_mem fun {ns ms} hns hms hbefore => ?_
  rw [← Path.under_concat, ← Path.under_concat]
  exact (compare_under_lt_iff p (h.ordinary ns hns) (h.ordinary ms hms)).2 hbefore

theorem Ordered.isOrdinary (h : Ordered p entryPoint leads folders) {folder : TemplateFolder}
    (hmem : folder ∈ folders) : Name.isOrdinary entryPoint = true := by
  rw [h.folders] at hmem
  obtain ⟨ns, hns, -⟩ := List.mem_map.1 hmem
  exact h.ordinary ns hns entryPoint (by simp)

end Ordered

/-- In a list that an order goes through, places are in that order. -/
theorem idxOf_lt_idxOf_iff {α : Type} [BEq α] [LawfulBEq α] {before : α → α → Prop}
    (hasymm : ∀ a b, before a b → ¬ before b a) {l : List α} (h : l.Pairwise before) {a b : α}
    (ha : a ∈ l) (hb : b ∈ l) : l.idxOf a < l.idxOf b ↔ before a b := by
  have hplaces : ∀ {x y : α}, x ∈ l → y ∈ l → l.idxOf x < l.idxOf y → before x y := by
    intro x y hx hy hlt
    have hbefore := List.pairwise_iff_getElem.1 h _ _ (List.idxOf_lt_length_iff.2 hx)
      (List.idxOf_lt_length_iff.2 hy) hlt
    rwa [List.getElem_idxOf, List.getElem_idxOf] at hbefore
  refine ⟨hplaces ha hb, fun hbefore => ?_⟩
  rcases Nat.lt_trichotomy (l.idxOf a) (l.idxOf b) with hlt | heq | hgt
  · exact hlt
  · rw [List.idxOf_inj ha] at heq
    rw [heq] at hbefore
    exact absurd hbefore (hasymm _ _ hbefore)
  · exact absurd (hplaces hb ha hgt) (hasymm _ _ hbefore)

/-! ## 4. Listing in another order -/

/-- Two answers to a listing show the same entries, in any order, or fail alike. -/
inductive Relisted :
    Except IoError (List (Name × Entry)) → Except IoError (List (Name × Entry)) → Prop where
  | ok {entries entries' : List (Name × Entry)} : entries'.Perm entries →
      Relisted (.ok entries) (.ok entries')
  | error (e : IoError) : Relisted (.error e) (.error e)

/-- **A search does not depend on the order in which directories are listed.** -/
theorem visitLevels_relisted {list list' : Listing} (hlist : IsProper list)
    (h : ∀ p, Relisted (list p) (list' p)) (entryPoint : Name) (depth : Nat) :
    visitLevels list' entryPoint depth = visitLevels list entryPoint depth := by
  induction depth with
  | zero => rfl
  | succ depth ih =>
    funext p
    have hp := h p
    unfold visitLevels
    rw [ih]
    generalize hentries : list p = listed, list' p = listed' at hp
    cases hp with
    | ok hperm => simp only [mergeSort_congr (hlist.nodup hentries) hperm]
    | error e => rfl

/-- **The entry documents of the folders that are found are strictly in order**, component by
    component. So no folder is found twice, whatever its spelling; a folder comes behind those below
    its entries that sort before its entry document, and before all others below it; and the order
    in which directories are listed changes nothing. -/
theorem discover_increasing {fs : FileSystem} {root : Path} {entryPoint : String}
    {folders : List TemplateFolder} (h : discover fs root entryPoint = .ok folders) :
    (folders.map fun f => f.path.join (.ofString entryPoint)).Pairwise
        (fun p q => p.compare q = .lt) ∧
      folders.Pairwise (fun f g => f.same g = false) ∧
      (∀ f ∈ folders, ∀ g ∈ folders, ∀ n rest,
        g.path.components = f.path.components ++ .normal n :: rest →
          (folders.idxOf g < folders.idxOf f ↔
            Path.compareBytes n (Text.Utf8.bytes entryPoint) = .lt)) ∧
      ∀ list : Listing, (∀ p, Relisted (fs.readDirectory p) (list p)) →
        discoverBy list root entryPoint = .ok folders := by
  obtain ⟨leads, hleads⟩ := visitLevels_ordered (isProper_readDirectory fs) h
  have hentry : ∀ {f}, f ∈ folders → (f.path.join (.ofString entryPoint)).components =
      f.path.components ++ [.normal (Text.Utf8.bytes entryPoint)] :=
    fun {f} hf => Path.components_join_name f.path (hleads.isOrdinary hf)
  refine ⟨List.pairwise_map.2 hleads.pairwise, ?_, ?_, fun list hlist => ?_⟩
  · refine hleads.pairwise.imp_of_mem fun {f g} hf hg hlt => ?_
    rw [TemplateFolder.same, Path.same, decide_eq_false_iff_not]
    intro heq
    have hsame : (f.path.join (.ofString entryPoint)).components =
        (g.path.join (.ofString entryPoint)).components := by
      rw [hentry hf, hentry hg, heq]
    change (f.path.join (.ofString entryPoint)).compare (g.path.join (.ofString entryPoint)) = _
      at hlt
    rw [Path.compare, hsame, Path.compareComponents_self] at hlt
    cases hlt
  · intro f hf g hg n rest hbelow
    rw [idxOf_lt_idxOf_iff (fun _ _ => Path.compare_asymm) hleads.pairwise hg hf]
    change (g.path.join (.ofString entryPoint)).compare (f.path.join (.ofString entryPoint)) = _ ↔ _
    -- behind the folder, the way on is compared with the entry document
    rw [Path.compare, hentry hg, hentry hf, hbelow, List.append_assoc,
      Path.compareComponents_append, List.cons_append, Path.compareComponents,
      Path.Component.compare]
    cases Path.compareBytes n (Text.Utf8.bytes entryPoint) with
    | lt => simp
    | gt => simp
    | eq => cases rest <;> simp [Path.compareComponents]
  · exact (congrFun (visitLevels_relisted (isProper_readDirectory fs) hlist _ _) root).trans h

/-- Names around that of the entry document: one that it begins with, one that goes on behind it,
    and one that sorts before it. -/
def thicket : FileSystem :=
  .written [("r", .directory), ("r/main.typ", .file (Text.Utf8.bytes "= R") false),
    ("r/main.typ2", .directory), ("r/main.typ2/main.typ", .file (Text.Utf8.bytes "= 2") false),
    ("r/main", .directory), ("r/main/main.typ", .link (.ofString "nowhere")),
    ("r/a", .directory), ("r/a/main.typ", .directory),
    ("r/a/main.typ/main.typ", .file (Text.Utf8.bytes "= A") false)]

/-- The folders of the thicket in the order of a search. -/
def thicketFolders : List TemplateFolder :=
  ["r/a/main.typ", "r/main", "r", "r/main.typ2"].map fun s => ⟨.ofString s⟩

theorem discover_thicket : discover thicket (.ofString "r") "main.typ" = .ok thicketFolders := by
  let main : Name := Text.Utf8.bytes "main.typ"
  have hroot : thicket.readDirectory (.ofString "r") = .ok
      [(main, .file (Text.Utf8.bytes "= R") false), (Text.Utf8.bytes "main.typ2", .directory),
        (Text.Utf8.bytes "main", .directory), (Text.Utf8.bytes "a", .directory)] := by
    decide +kernel
  have hsorted : List.mergeSort
      [(main, Entry.file (Text.Utf8.bytes "= R") false), (Text.Utf8.bytes "main.typ2", .directory),
        (Text.Utf8.bytes "main", .directory), (Text.Utf8.bytes "a", .directory)] byName =
      [(Text.Utf8.bytes "a", .directory), (Text.Utf8.bytes "main", .directory),
        (main, .file (Text.Utf8.bytes "= R") false),
        (Text.Utf8.bytes "main.typ2", .directory)] :=
    (mergeSort_congr (by decide +kernel) (by decide +kernel)).trans
      (List.mergeSort_of_pairwise (by decide +kernel))
  have ha : thicket.readDirectory (.ofString "r/a") = .ok [(main, .directory)] := by decide +kernel
  have hdeep : thicket.readDirectory (.ofString "r/a/main.typ") =
      .ok [(main, .file (Text.Utf8.bytes "= A") false)] := by decide +kernel
  have hshort : thicket.readDirectory (.ofString "r/main") =
      .ok [(main, .link (.ofString "nowhere"))] := by decide +kernel
  have hlong : thicket.readDirectory (.ofString "r/main.typ2") =
      .ok [(main, .file (Text.Utf8.bytes "= 2") false)] := by decide +kernel
  have hjoin₁ : (Path.ofString "r").join ⟨Text.Utf8.bytes "a"⟩ = .ofString "r/a" := by
    decide +kernel
  have hjoin₂ : (Path.ofString "r/a").join ⟨main⟩ = .ofString "r/a/main.typ" := by decide +kernel
  have hjoin₃ : (Path.ofString "r").join ⟨Text.Utf8.bytes "main"⟩ = .ofString "r/main" := by
    decide +kernel
  have hjoin₄ : (Path.ofString "r").join ⟨Text.Utf8.bytes "main.typ2"⟩ =
      .ofString "r/main.typ2" := by decide +kernel
  have hvisit : ∀ depth, visitLevels thicket.readDirectory main (depth + 3) (.ofString "r") =
      .ok thicketFolders := by
    intro depth
    simp only [visitLevels, hroot, hsorted, ha, hdeep, hshort, hlong, visitEntries, visitEntry,
      List.mergeSort_singleton, hjoin₁, hjoin₂, hjoin₃, hjoin₄, if_true, List.append_nil,
      List.cons_append, List.nil_append, thicketFolders, List.map_cons, List.map_nil]
  exact hvisit 4093

theorem discover_increasing_thicket :
    let found := thicketFolders
    discover thicket (.ofString "r") "main.typ" = .ok found ∧
      (found.map fun f => f.path.join (.ofString "main.typ")).Pairwise
        (fun p q => p.compare q = .lt) ∧
      found.Pairwise (fun f g => f.same g = false) ∧
      (∀ f ∈ found, ∀ g ∈ found, ∀ n rest,
        g.path.components = f.path.components ++ .normal n :: rest →
          (found.idxOf g < found.idxOf f ↔
            Path.compareBytes n (Text.Utf8.bytes "main.typ") = .lt)) ∧
      ∀ list : Listing, (∀ p, Relisted (thicket.readDirectory p) (list p)) →
        discoverBy list (.ofString "r") "main.typ" = .ok found := by
  exact ⟨discover_thicket, discover_increasing discover_thicket⟩

end Discovery

end TemplatePress
