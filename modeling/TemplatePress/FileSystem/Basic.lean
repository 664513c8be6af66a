import TemplatePress.Path

/-!
# File systems

A file system is a list of located entries, in the order in which they came to be, and a working
directory. Its view is `at?`: which entry stands at a location. This file fixes:

* what keeps a list of entries well formed: no location twice, an ordinary last name, a directory
  above;
* the three changes everything else is made of: `put` one entry, `prune` a location with all below
  it, `clear` what is below a location;
* what each change does to the view (`at?_put`, `at?_prune`, `at?_clear`), so that nothing else has
  to look at the list;
* `children`, the entries of a directory in listing order.
-/

namespace TemplatePress

/-- A place in a file system: the names on the way down from its root. -/
abbrev Location := List Name

/-- What stands at a location. -/
inductive Entry where
  | directory
  | file (content : Bytes) (executable : Bool)
  /-- A symbolic link with the path it points to. -/
  | link (target : Path)
  deriving DecidableEq

namespace Entry

def isDirectory : Entry → Bool
  | .directory => true
  | _ => false

end Entry

/-- A name that stands for itself: not empty, no separator in it, neither `.` nor `..`. -/
def Name.isOrdinary (n : Name) : Bool :=
  !n.isEmpty && n != Path.here && n != Path.above && !n.contains Path.separator

namespace Location

/-- The location above; the root stays. -/
def above (loc : Location) : Location :=
  loc.dropLast

/-- The name of `loc` in the directory `dir`, if that is the directory above it. -/
def nameIn? : (dir loc : Location) → Option Name
  | [], [n] => some n
  | d :: dir, n :: loc => if d = n then nameIn? dir loc else none
  | _, _ => none

theorem nameIn?_eq_some_iff {dir loc : Location} {n : Name} :
    nameIn? dir loc = some n ↔ loc = dir ++ [n] := by
  induction dir generalizing loc with
  | nil =>
    match loc with
    | [] => simp [nameIn?]
    | [m] => simp [nameIn?]
    | m :: k :: rest => simp [nameIn?]
  | cons d dir ih =>
    match loc with
    | [] => simp [nameIn?]
    | m :: rest =>
      by_cases h : d = m
      · simp [nameIn?, h, ih]
      · have h' : ¬ m = d := fun e => h e.symm
        simp [nameIn?, h, h']

end Location

/-- The last name is ordinary and the location above holds a directory of the list. -/
def Seated (entries : List (Location × Entry)) (loc : Location) : Prop :=
  ∃ dir n, loc = dir ++ [n] ∧ Name.isOrdinary n = true ∧
    (dir = [] ∨ (dir, Entry.directory) ∈ entries)

/-- A working directory and located entries, oldest first. The root itself is not listed. -/
structure FileSystem where
  home : Location
  entries : List (Location × Entry)
  nodup : (entries.map Prod.fst).Nodup
  seated : ∀ loc e, (loc, e) ∈ entries → Seated entries loc

namespace FileSystem

/-- A file system that holds nothing. -/
def empty : FileSystem :=
  ⟨[], [], List.nodup_nil, by simp⟩

/-! ## 1. The view -/

/-- The entry of a list at a location. Only locations of the same depth are compared name by
    name. -/
def find (entries : List (Location × Entry)) (loc : Location) : Option Entry :=
  let depth := loc.length
  (entries.find? fun x => x.1.length == depth && x.1 = loc).map Prod.snd

/-- **The depth excludes nothing that stands at the location.** -/
theorem find_eq (entries : List (Location × Entry)) (loc : Location) :
    find entries loc = (entries.find? (·.1 = loc)).map Prod.snd := by
  have (k : Location) : (k.length == loc.length && decide (k = loc)) = decide (k = loc) := by
    by_cases h : k = loc <;> simp [h]
  simp only [find, this]

/-- The entry at a location. The root is a directory. -/
def at? (fs : FileSystem) (loc : Location) : Option Entry :=
  if loc = [] then some .directory else find fs.entries loc

theorem find_eq_some_iff {entries : List (Location × Entry)}
    (nodup : (entries.map Prod.fst).Nodup) {loc : Location} {e : Entry} :
    find entries loc = some e ↔ (loc, e) ∈ entries := by
  induction entries with
  | nil => simp [find_eq]
  | cons x rest ih =>
    obtain ⟨k, v⟩ := x
    simp only [List.map_cons, List.nodup_cons] at nodup
    by_cases h : k = loc
    · subst h
      have hnot : ∀ w, (k, w) ∉ rest := fun w hw => nodup.1 (List.mem_map.2 ⟨(k, w), hw, rfl⟩)
      simp only [find_eq, List.find?_cons_of_pos, decide_true, Option.map_some, Option.some.injEq,
        List.mem_cons, Prod.mk.injEq, true_and]
      constructor
      · intro hv; exact Or.inl hv.symm
      · rintro (hv | hv)
        · exact hv.symm
        · exact absurd hv (hnot e)
    · have h' : ¬ loc = k := fun e => h e.symm
      have := ih nodup.2
      simp only [find_eq] at this
      simp [find_eq, h, h', this]

theorem isSome_find_iff {entries : List (Location × Entry)} {loc : Location} :
    (find entries loc).isSome = true ↔ loc ∈ entries.map Prod.fst := by
  simp [find_eq, List.mem_map]

theorem at?_nil (fs : FileSystem) : fs.at? [] = some .directory := rfl

theorem at?_eq_some_iff {fs : FileSystem} {loc : Location} {e : Entry} (h : loc ≠ []) :
    fs.at? loc = some e ↔ (loc, e) ∈ fs.entries := by
  simp [at?, h, find_eq_some_iff fs.nodup]

/-- Whether a directory stands at a location. -/
def isDirectory (fs : FileSystem) (loc : Location) : Bool :=
  fs.at? loc = some .directory

/-- **Above every entry stands a directory.** -/
theorem isDirectory_of_at? {fs : FileSystem} {dir : Location} {n : Name} {e : Entry}
    (h : fs.at? (dir ++ [n]) = some e) : fs.isDirectory dir = true := by
  have hne : dir ++ [n] ≠ [] := by simp
  obtain ⟨d, m, heq, _, hd⟩ := fs.seated _ _ ((at?_eq_some_iff hne).1 h)
  obtain ⟨rfl, _⟩ := List.append_inj' heq rfl
  rcases hd with rfl | hd
  · simp [isDirectory, at?]
  · by_cases hnil : dir = []
    · simp [isDirectory, at?, hnil]
    · simp [isDirectory, (at?_eq_some_iff hnil).2 hd]

/-- **The name of an entry is ordinary.** -/
theorem isOrdinary_of_at? {fs : FileSystem} {dir : Location} {n : Name} {e : Entry}
    (h : fs.at? (dir ++ [n]) = some e) : Name.isOrdinary n = true := by
  have hne : dir ++ [n] ≠ [] := by simp
  obtain ⟨d, m, heq, hm, _⟩ := fs.seated _ _ ((at?_eq_some_iff hne).1 h)
  obtain ⟨_, hmn⟩ := List.append_inj' heq rfl
  cases hmn
  exact hm

/-! ## 2. Changes -/

/-- Whether an entry may stand at `dir ++ [n]`: the name is ordinary, `dir` is a directory, and no
    directory there gives way to something else. -/
def admits (fs : FileSystem) (dir : Location) (n : Name) (e : Entry) : Bool :=
  Name.isOrdinary n && fs.isDirectory dir &&
    (e = .directory || fs.at? (dir ++ [n]) ≠ some .directory)

/-- Writes an entry over the one at a location. -/
def overwrite (entries : List (Location × Entry)) (loc : Location) (e : Entry) :
    List (Location × Entry) :=
  entries.map fun x => if x.1 = loc then (loc, e) else x

theorem map_fst_overwrite (entries : List (Location × Entry)) (loc : Location) (e : Entry) :
    (overwrite entries loc e).map Prod.fst = entries.map Prod.fst := by
  simp only [overwrite, List.map_map]
  refine List.map_congr_left fun x _ => ?_
  by_cases h : x.1 = loc <;> simp [h]

theorem mem_overwrite {entries : List (Location × Entry)} {loc k : Location} {e v : Entry} :
    (k, v) ∈ overwrite entries loc e ↔
      (k ≠ loc ∧ (k, v) ∈ entries) ∨ (k = loc ∧ v = e ∧ ∃ w, (loc, w) ∈ entries) := by
  simp only [overwrite, List.mem_map]
  constructor
  · rintro ⟨⟨k', v'⟩, hmem, heq⟩
    by_cases h : k' = loc
    · subst h
      simp at heq
      exact Or.inr ⟨heq.1.symm, heq.2.symm, v', hmem⟩
    · simp [h] at heq
      obtain ⟨rfl, rfl⟩ := heq
      exact Or.inl ⟨h, hmem⟩
  · rintro (⟨h, hmem⟩ | ⟨rfl, rfl, w, hmem⟩)
    · exact ⟨(k, v), hmem, by simp [h]⟩
    · exact ⟨(k, w), hmem, by simp⟩

/-- The list with an entry at a location: in place if there is one, else last. -/
def putIn (entries : List (Location × Entry)) (loc : Location) (e : Entry) :
    List (Location × Entry) :=
  if (find entries loc).isSome then overwrite entries loc e else entries ++ [(loc, e)]

theorem putIn_eq (entries : List (Location × Entry)) (loc : Location) (e : Entry) :
    putIn entries loc e =
      if loc ∈ entries.map Prod.fst then overwrite entries loc e else entries ++ [(loc, e)] := by
  simp only [putIn, isSome_find_iff]

theorem mem_putIn {entries : List (Location × Entry)} {loc k : Location} {e v : Entry} :
    (k, v) ∈ putIn entries loc e ↔ (k ≠ loc ∧ (k, v) ∈ entries) ∨ (k = loc ∧ v = e) := by
  by_cases h : loc ∈ entries.map Prod.fst
  · obtain ⟨⟨l, w⟩, hw, rfl⟩ := List.mem_map.1 h
    simp only [putIn_eq, h, if_true, mem_overwrite]
    constructor
    · rintro (h | ⟨h, hv, _⟩)
      · exact Or.inl h
      · exact Or.inr ⟨h, hv⟩
    · rintro (h | ⟨h, hv⟩)
      · exact Or.inl h
      · exact Or.inr ⟨h, hv, w, hw⟩
  · simp only [putIn_eq, h, if_false, List.mem_append, List.mem_singleton, Prod.mk.injEq]
    constructor
    · rintro (hm | hm)
      · refine Or.inl ⟨?_, hm⟩
        rintro rfl
        exact h (List.mem_map.2 ⟨_, hm, rfl⟩)
      · exact Or.inr hm
    · rintro (hm | hm)
      · exact Or.inl hm.2
      · exact Or.inr hm

theorem nodup_putIn {entries : List (Location × Entry)} (nodup : (entries.map Prod.fst).Nodup)
    (loc : Location) (e : Entry) : ((putIn entries loc e).map Prod.fst).Nodup := by
  by_cases h : loc ∈ entries.map Prod.fst
  · simpa only [putIn_eq, h, if_true, map_fst_overwrite] using nodup
  · simp only [putIn_eq, h, if_false, List.map_append, List.map_cons, List.map_nil]
    refine List.nodup_append.2 ⟨nodup, by simp, ?_⟩
    intro a ha b hb
    simp only [List.mem_singleton] at hb
    subst hb
    rintro rfl
    exact h ha

/-- Puts an entry at `dir ++ [n]`; where it may not stand nothing changes. -/
def put (fs : FileSystem) (dir : Location) (n : Name) (e : Entry) : FileSystem :=
  if h : fs.admits dir n e = true then
    { fs with
      entries := putIn fs.entries (dir ++ [n]) e
      nodup := nodup_putIn fs.nodup _ _
      seated := by
        simp only [admits, Bool.and_eq_true, Bool.or_eq_true, decide_eq_true_eq] at h
        have keep : ∀ d, (d, Entry.directory) ∈ fs.entries →
            (d, Entry.directory) ∈ putIn fs.entries (dir ++ [n]) e := by
          intro d hd
          rw [mem_putIn]
          by_cases hd' : d = dir ++ [n]
          · refine Or.inr ⟨hd', ?_⟩
            rcases h.2 with he | he
            · exact he.symm
            · have hne : dir ++ [n] ≠ [] := by simp
              exact absurd ((at?_eq_some_iff hne).2 (hd' ▸ hd)) he
          · exact Or.inl ⟨hd', hd⟩
        intro k v hkv
        rw [mem_putIn] at hkv
        rcases hkv with ⟨_, hmem⟩ | ⟨rfl, rfl⟩
        · obtain ⟨d, m, heq, hm, hd⟩ := fs.seated k v hmem
          exact ⟨d, m, heq, hm, hd.imp_right (keep d)⟩
        · refine ⟨dir, n, rfl, h.1.1, ?_⟩
          by_cases hnil : dir = []
          · exact Or.inl hnil
          · have hdir := h.1.2
            simp only [isDirectory, decide_eq_true_eq] at hdir
            exact Or.inr (keep dir ((at?_eq_some_iff hnil).1 hdir)) }
  else fs

/-- Keeps the entries whose location passes a test that passes every location above one that
    passes. -/
def keepWhere (fs : FileSystem) (p : Location → Bool)
    (closed : ∀ dir n, p (dir ++ [n]) = true → p dir = true) : FileSystem :=
  { fs with
    entries := fs.entries.filter fun x => p x.1
    nodup := fs.nodup.sublist ((List.filter_sublist (l := fs.entries)).map Prod.fst)
    seated := by
      intro k v hkv
      rw [List.mem_filter] at hkv
      obtain ⟨d, m, rfl, hm, hd⟩ := fs.seated k v hkv.1
      exact ⟨d, m, rfl, hm, hd.imp_right fun hd => List.mem_filter.2 ⟨hd, closed d m hkv.2⟩⟩ }

theorem at?_keepWhere (fs : FileSystem) (p : Location → Bool)
    (closed : ∀ dir n, p (dir ++ [n]) = true → p dir = true) (k : Location) (h : k ≠ []) :
    (fs.keepWhere p closed).at? k = if p k = true then fs.at? k else none := by
  apply Option.ext
  intro e
  rw [at?_eq_some_iff h]
  simp only [keepWhere, List.mem_filter]
  by_cases hp : p k = true
  · simp [hp, at?_eq_some_iff h]
  · simp [hp]

theorem isPrefixOf_above {loc dir : Location} {n : Name}
    (h : loc.isPrefixOf dir = true) : loc.isPrefixOf (dir ++ [n]) = true := by
  rw [List.isPrefixOf_iff_prefix] at h ⊢
  exact h.trans (List.prefix_append dir [n])

/-- Removes a location and everything below it. -/
def prune (fs : FileSystem) (loc : Location) : FileSystem :=
  fs.keepWhere (fun k => !loc.isPrefixOf k) fun dir n h => by
    cases hp : loc.isPrefixOf dir with
    | false => rfl
    | true => simp [isPrefixOf_above hp] at h

/-- Removes everything below a location. -/
def clear (fs : FileSystem) (loc : Location) : FileSystem :=
  fs.keepWhere (fun k => k = loc || !loc.isPrefixOf k) fun dir n h => by
    cases hp : loc.isPrefixOf dir with
    | false => simp
    | true =>
      have hne : dir ++ [n] ≠ loc := by
        rintro rfl
        have := (List.isPrefixOf_iff_prefix.1 hp).length_le
        simp only [List.length_append, List.length_singleton] at this
        omega
      simp [isPrefixOf_above hp, hne] at h

/-! ## 3. What a change does to the view -/

/-- **Putting an entry where it may stand changes that location only.** -/
theorem at?_put {fs : FileSystem} {dir : Location} {n : Name} {e : Entry}
    (h : fs.admits dir n e = true) (k : Location) :
    (fs.put dir n e).at? k = if k = dir ++ [n] then some e else fs.at? k := by
  by_cases hk : k = []
  · subst hk; simp [at?]
  · apply Option.ext
    intro v
    rw [at?_eq_some_iff hk]
    simp only [put, h, dif_pos, mem_putIn]
    by_cases he : k = dir ++ [n]
    · simp [he, eq_comm]
    · simp [he, at?_eq_some_iff hk]

/-- **Pruning empties a location and everything below it, and nothing else.** -/
theorem at?_prune (fs : FileSystem) (loc k : Location) (h : k ≠ []) :
    (fs.prune loc).at? k = if loc <+: k then none else fs.at? k := by
  rw [prune, at?_keepWhere _ _ _ _ h]
  by_cases hp : loc <+: k
  · simp [hp, List.isPrefixOf_iff_prefix.2 hp]
  · have : loc.isPrefixOf k = false := by
      cases hb : loc.isPrefixOf k with
      | false => rfl
      | true => exact absurd (List.isPrefixOf_iff_prefix.1 hb) hp
    simp [hp, this]

/-- **Clearing empties what is below a location, and nothing else.** -/
theorem at?_clear (fs : FileSystem) (loc k : Location) (h : k ≠ []) :
    (fs.clear loc).at? k = if loc <+: k ∧ k ≠ loc then none else fs.at? k := by
  rw [clear, at?_keepWhere _ _ _ _ h]
  by_cases hp : loc <+: k
  · by_cases he : k = loc <;> simp [hp, List.isPrefixOf_iff_prefix.2 hp, he]
  · have : loc.isPrefixOf k = false := by
      cases hb : loc.isPrefixOf k with
      | false => rfl
      | true => exact absurd (List.isPrefixOf_iff_prefix.1 hb) hp
    simp [hp, this]

/-! ## 4. Listing -/

/-- The entries of a directory with their names, oldest first. Only locations one level deeper are
    compared name by name. -/
def children (fs : FileSystem) (dir : Location) : List (Name × Entry) :=
  let depth := dir.length + 1
  fs.entries.filterMap fun (k, e) =>
    if k.length = depth then (Location.nameIn? dir k).map fun n => (n, e) else none

/-- **A directory lists exactly the entries that stand in it.** -/
theorem mem_children {fs : FileSystem} {dir : Location} {n : Name} {e : Entry} :
    (n, e) ∈ fs.children dir ↔ fs.at? (dir ++ [n]) = some e := by
  rw [at?_eq_some_iff (by simp)]
  simp only [children, List.mem_filterMap, Option.ite_none_right_eq_some,
    Option.map_eq_some_iff, Prod.mk.injEq]
  constructor
  · rintro ⟨⟨k, v⟩, hmem, _, m, hm, rfl, rfl⟩
    rw [Location.nameIn?_eq_some_iff] at hm
    subst hm
    exact hmem
  · intro hmem
    exact ⟨_, hmem, by simp, n, Location.nameIn?_eq_some_iff.2 rfl, rfl, rfl⟩

end FileSystem

end TemplatePress
