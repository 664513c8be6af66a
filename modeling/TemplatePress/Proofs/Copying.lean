import Mathlib.Data.List.Nodup
import TemplatePress.Proofs.Changes

/-!
# Copying a tree

* `copyLevels_grows`: whatever the source is and wherever the copying stops, only the place of the
  copy grows, and it stays free of links. The induction is on the depth; along the entries of one
  directory the region of each lies in the region of the directory (`copyEntries_grows`).
* `copyLevels_copied`: a copy that succeeds at a place where nothing stood holds what the source
  held at the start, entry by entry (`IsCopy`), if nothing of the source depends on the place
  (`Settled`).
-/

namespace TemplatePress.FileSystem

/-! ## 1. Listings -/

theorem isOrdinary_of_mem_children {fs : FileSystem} {loc : Location} {x : Name × Entry}
    (h : x ∈ fs.children loc) : Name.isOrdinary x.1 = true :=
  isOrdinary_of_at? (mem_children.1 h)

/-- The names of a directory's entries differ. -/
theorem nodup_children (fs : FileSystem) (loc : Location) :
    ((fs.children loc).map Prod.fst).Nodup := by
  have hname : (fs.children loc).map Prod.fst =
      (fs.entries.map Prod.fst).filterMap fun k =>
        if k.length = loc.length + 1 then Location.nameIn? loc k else none := by
    rw [children, List.map_filterMap, List.filterMap_map]
    congr 1
    funext x
    by_cases hx : x.1.length = loc.length + 1 <;> simp [hx, Function.comp_def]
  rw [hname]
  refine List.Nodup.filterMap (fun k k' n hk hk' => ?_) fs.nodup
  simp only [Option.mem_def, Option.ite_none_right_eq_some, Location.nameIn?_eq_some_iff] at hk hk'
  rw [hk.2, hk'.2]

theorem readDirectory_eq_ok {fs : FileSystem} {p : Path} {entries : List (Name × Entry)}
    (h : fs.readDirectory p = .ok entries) :
    ∃ loc, fs.stat? p = .ok (loc, .directory) ∧ entries = fs.children loc := by
  unfold readDirectory at h
  split at h
  · cases h
  · rename_i loc hs
    cases h
    exact ⟨loc, hs, rfl⟩
  · cases h

/-! ## 2. What copying touches -/

/-- What every action keeps is kept along a list of items, to the end or to the first failure. -/
theorem each_left {α : Type} {act : α → Disk Unit} {inv : FileSystem → Prop} {items : List α}
    (hact : ∀ a ∈ items, ∀ fs, inv fs → inv (Disk.left (act a fs))) {fs : FileSystem}
    (h : inv fs) : inv (Disk.left (each act items fs)) := by
  induction items generalizing fs with
  | nil => exact h
  | cons a rest ih =>
    have ha := hact a List.mem_cons_self fs h
    unfold each
    split
    · rename_i heq
      rw [heq] at ha
      exact ha
    · rename_i fs' heq
      rw [heq] at ha
      exact ih (fun b hb => hact b (List.mem_cons_of_mem _ hb)) ha

section Kept

variable {inv : FileSystem → Prop}
  (hmake : ∀ fs fs' p, inv fs → fs.makeDirectory p = .ok fs' → inv fs')
  (hcopy : ∀ fs fs' source p, inv fs → fs.copyFile source p = .ok fs' → inv fs')

include hmake hcopy

/-- **What is kept by making a directory and by copying a file is kept by copying a tree**, wherever
    the copying stops. -/
theorem copyLevels_left {fs : FileSystem} (h : inv fs) (depth : Nat) (source destination : Path) :
    inv (Disk.left (copyLevels depth source destination fs)) := by
  induction depth generalizing fs source destination with
  | zero => exact h
  | succ depth ih =>
    have hfile : ∀ (n : Name) (fs : FileSystem), inv fs → inv (Disk.left (Disk.change
        (fun fs => fs.copyFile (source.join ⟨n⟩) (destination.join ⟨n⟩)) fs)) := by
      intro n fs h
      unfold Disk.change
      split
      · exact hcopy _ _ _ _ h (by assumption)
      · exact h
    have hentry : ∀ (x : Name × Entry) (fs : FileSystem), inv fs →
        inv (Disk.left (copyEntry (copyLevels depth) source destination x fs)) := by
      rintro ⟨n, e⟩ fs h
      cases e with
      | directory => exact ih h _ _
      | file _ _ => exact hfile n fs h
      | link _ => exact hfile n fs h
    have hmade := makeDirectories_left hmake h destination
    unfold copyLevels
    split <;> rename_i heq <;> rw [heq] at hmade
    · exact hmade
    · split
      · exact hmade
      · exact each_left (fun x _ => hentry x) hmade

end Kept

/-- The copier only lets the place of the copy grow, where no link stands. -/
def OnlyGrows (tree : Path → Path → Disk Unit) : Prop :=
  ∀ (fs : FileSystem) (source p : Path) (dir : Location) (n : Name), fs.Leads p dir →
    Name.isOrdinary n = true → fs.LinkFree (dir ++ [n]) →
    Grows (dir ++ [n]) fs (Disk.left (tree source (p.join ⟨n⟩) fs))

theorem LinkFree.below {fs : FileSystem} {top : Location} (h : fs.LinkFree top)
    (more : List Name) : fs.LinkFree (top ++ more) :=
  fun loc hloc => h loc ((List.prefix_append _ _).trans hloc)

theorem LinkFree.self {fs : FileSystem} {top : Location} (h : fs.LinkFree top) (target : Path) :
    fs.at? top ≠ some (.link target) :=
  h top List.prefix_rfl target

theorem copyFile_grows {fs : FileSystem} {p : Path} {dir : Location} {n : Name}
    (hl : fs.Leads p dir) (hn : Name.isOrdinary n = true) (hf : fs.LinkFree (dir ++ [n]))
    (source : Path) :
    Grows (dir ++ [n]) fs
      (Disk.left (Disk.change (fun fs => fs.copyFile source (p.join ⟨n⟩)) fs)) := by
  unfold Disk.change
  split
  · rename_i fs' h
    obtain ⟨_, _, _, _, _, hg, _⟩ := copyFile_join_ok hl hn hf.self h
    exact hg
  · exact Grows.refl _ _

section Grows

variable {tree : Path → Path → Disk Unit} (htree : OnlyGrows tree)

include htree

theorem copyEntry_grows {fs : FileSystem} (source : Path) {p : Path} {dir : Location}
    (hl : fs.Leads p dir) (hf : fs.LinkFree dir) {x : Name × Entry}
    (hx : Name.isOrdinary x.1 = true) :
    Grows (dir ++ [x.1]) fs (Disk.left (copyEntry tree source p x fs)) := by
  obtain ⟨n, e⟩ := x
  cases e with
  | directory => exact htree fs _ p dir n hl hx (hf.below [n])
  | file _ _ => exact copyFile_grows hl hx (hf.below [n]) _
  | link _ => exact copyFile_grows hl hx (hf.below [n]) _

/-- **Copying the entries of a directory lets the place of the copy grow.** -/
theorem copyEntries_grows {fs : FileSystem} (source : Path) {p : Path} {dir : Location}
    (hl : fs.Leads p dir) (hf : fs.LinkFree dir) {entries : List (Name × Entry)}
    (hx : ∀ x ∈ entries, Name.isOrdinary x.1 = true) :
    Grows dir fs (Disk.left (each (copyEntry tree source p) entries fs)) := by
  let inv (fs' : FileSystem) : Prop := Grows dir fs fs'
  refine each_left (fun x hmem fs' (hg : inv fs') => ?_) (Grows.refl dir fs)
  have hg' := copyEntry_grows htree source (hl.mono hg.keepsWays) (hf.grows hg) (hx x hmem)
  exact hg.trans (hg'.mono (List.prefix_append dir [x.1]))

/-- Copying the entries of a directory changes nothing but what is inside the place of the copy. -/
theorem copyEntries_inside {fs : FileSystem} (source : Path) {p : Path} {dir : Location}
    (hl : fs.Leads p dir) (hf : fs.LinkFree dir) {entries : List (Name × Entry)}
    (hx : ∀ x ∈ entries, Name.isOrdinary x.1 = true) :
    Kept (Inside dir) fs (Disk.left (each (copyEntry tree source p) entries fs)) := by
  let inv (fs' : FileSystem) : Prop := Grows dir fs fs' ∧ Kept (Inside dir) fs fs'
  have hstart : inv fs := ⟨Grows.refl dir fs, Kept.refl _ fs⟩
  refine (each_left (fun x hmem fs' hinv => ?_) hstart).2
  obtain ⟨hg, hkept⟩ := hinv
  have hg' := copyEntry_grows htree source (hl.mono hg.keepsWays) (hf.grows hg) (hx x hmem)
  exact ⟨hg.trans (hg'.mono (List.prefix_append dir [x.1])),
    hkept.trans (hg'.kept.mono fun _ hloc => ⟨x.1, hloc⟩)⟩

end Grows

/-- Once its directory stands, a tree is copied entry by entry. -/
theorem copyLevels_succ {depth : Nat} {source destination : Path} {fs fs₁ : FileSystem}
    (h : makeDirectories destination fs = .ok () fs₁) :
    (∃ e, copyLevels (depth + 1) source destination fs = .error e fs₁) ∨
      ∃ loc, fs₁.stat? source = .ok (loc, .directory) ∧
        copyLevels (depth + 1) source destination fs =
          each (copyEntry (copyLevels depth) source destination) (fs₁.children loc) fs₁ := by
  cases hread : fs₁.readDirectory source with
  | error e => exact Or.inl ⟨e, by simp only [copyLevels, h, hread]⟩
  | ok entries =>
    obtain ⟨loc, hs, rfl⟩ := readDirectory_eq_ok hread
    exact Or.inr ⟨loc, hs, by simp only [copyLevels, h, hread]⟩

/-- What the source leads to once the directory of the copy stands is copied entry by entry. -/
theorem copyTree_eq {source destination : Path} {fs fs₁ : FileSystem} {loc : Location}
    (h : makeDirectories destination fs = .ok () fs₁)
    (hs : fs₁.stat? source = .ok (loc, .directory)) :
    copyTree source destination fs =
      each (copyEntry (copyLevels (pathLimit - 1)) source destination) (fs₁.children loc) fs₁ := by
  change copyLevels (pathLimit - 1 + 1) source destination fs = _
  simp only [copyLevels, h, readDirectory, hs]

/-- **Copying a tree lets the place of the copy grow, whatever the source is.** -/
theorem copyLevels_grows (depth : Nat) : OnlyGrows (copyLevels depth) := by
  induction depth with
  | zero => exact fun fs source p dir n _ _ _ => Grows.refl _ _
  | succ depth ih =>
    intro fs source p dir n hl hn hf
    cases hm : makeDirectories (p.join ⟨n⟩) fs with
    | error e fs₁ =>
      cases makeDirectories_join_error hl hn hm
      simp only [copyLevels, hm]
      exact Grows.refl _ _
    | ok _ fs₁ =>
      obtain ⟨hc, hat, hg, -⟩ := makeDirectories_join_ok hl hn hf.self hm
      have hl₁ : fs₁.Leads (p.join ⟨n⟩) (dir ++ [n]) :=
        (hl.mono hg.keepsWays).join hn (length_le_of_nameCheck hc) hat
      rcases copyLevels_succ hm with ⟨e, heq⟩ | ⟨loc, -, heq⟩ <;> rw [heq]
      · exact hg
      · exact hg.trans
          (copyEntries_grows ih source hl₁ (hf.grows hg) fun x => isOrdinary_of_mem_children)

/-- A copied tree stands at its place. -/
theorem copyLevels_ok_directory {depth : Nat} {fs fs' : FileSystem} {source p : Path}
    {dir : Location} {n : Name} (hl : fs.Leads p dir) (hn : Name.isOrdinary n = true)
    (hf : fs.LinkFree (dir ++ [n]))
    (h : copyLevels depth source (p.join ⟨n⟩) fs = .ok () fs') :
    nameCheck p n = .ok () ∧ fs'.at? (dir ++ [n]) = some .directory := by
  cases depth with
  | zero => cases h
  | succ depth =>
    cases hm : makeDirectories (p.join ⟨n⟩) fs with
    | error e fs₁ =>
      simp only [copyLevels, hm] at h
      cases h
    | ok _ fs₁ =>
      obtain ⟨hc, hat, hg, -⟩ := makeDirectories_join_ok hl hn hf.self hm
      have hl₁ : fs₁.Leads (p.join ⟨n⟩) (dir ++ [n]) :=
        (hl.mono hg.keepsWays).join hn (length_le_of_nameCheck hc) hat
      rcases copyLevels_succ hm with ⟨e, heq⟩ | ⟨loc, -, heq⟩ <;> rw [heq] at h
      · cases h
      · have hg' := copyEntries_grows (copyLevels_grows depth) source hl₁ (hf.grows hg)
          fun x (hx : x ∈ fs₁.children loc) => isOrdinary_of_mem_children hx
        rw [h] at hg'
        exact ⟨hc, hg'.directory _ hat⟩

/-- **A tree copied to where nothing stood changes that place and adds the directories missing
    above it.** -/
theorem copyLevels_hosts {fs : FileSystem} {p : Path} {dir : Location} {n : Name}
    (h : Hosts fs (Below (dir ++ [n])) p dir) (hn : Name.isOrdinary n = true)
    (hat : fs.at? (dir ++ [n]) = none) (depth : Nat) (source : Path) :
    Framed (dir ++ [n]) fs (Disk.left (copyLevels depth source (p.join ⟨n⟩) fs)) := by
  cases depth with
  | zero => exact Framed.refl _ _
  | succ depth =>
    obtain ⟨hadds, hok⟩ := makeDirectories_hosts h hn hat
    cases hm : makeDirectories (p.join ⟨n⟩) fs with
    | error e fs₁ =>
      rw [hm] at hadds
      simp only [copyLevels, hm]
      exact hadds.framed
    | ok _ fs₁ =>
      rw [hm, Disk.left_ok] at hadds
      obtain ⟨hl, hc, hdir⟩ := hok fs₁ hm
      rcases copyLevels_succ hm with ⟨e, heq⟩ | ⟨loc, -, heq⟩ <;> rw [heq]
      · exact hadds.framed
      · have hl₁ : fs₁.Leads (p.join ⟨n⟩) (dir ++ [n]) :=
          hl.join hn (length_le_of_nameCheck hc) hdir
        have hfree : fs₁.LinkFree (dir ++ [n]) := fun loc hloc target hlink =>
          linkFree_of_none hat loc hloc target (hadds.link hlink)
        have hg := copyEntries_grows (copyLevels_grows depth) source hl₁ hfree
          fun x (hx : x ∈ fs₁.children loc) => isOrdinary_of_mem_children hx
        exact hadds.framed.trans hg.kept.framed

/-! ## 3. What a copy holds -/

/-- What a copy of the tree at `loc`, which `source` leads to, holds behind names: nothing where the
    tree holds nothing, a directory for a directory, and for anything else the file that its path
    leads to. -/
def IsCopy (fs : FileSystem) (source : Path) (loc : Location) (ns : List Name)
    (copied : Option Entry) : Prop :=
  match fs.at? (loc ++ ns) with
  | none => copied = none
  | some .directory => copied = some .directory
  | some _ => ∃ origin content executable,
    fs.stat? (source.under ns) = .ok (origin, .file content executable) ∧
      copied = some (.file content executable)

/-- No part of the source's tree stands in the region, and neither where the source leads to nor
    what any path of its tree leads to depends on the region. -/
structure Settled (fs : FileSystem) (region : Location → Prop) (source : Path) : Prop where
  path : Apart fs region source
  outside : ∀ loc, fs.Leads source loc → ∀ ns, ¬ region (loc ++ ns)
  inside : ∀ loc, fs.Leads source loc → ∀ ns, fs.at? (loc ++ ns) ≠ none →
    Apart fs region (source.under ns)

section Settled

variable {fs₀ : FileSystem} {region : Location → Prop} {source : Path} {loc : Location} {n : Name}

theorem Settled.join (hs : Settled fs₀ region source) (hl : fs₀.Leads source loc)
    (hat : fs₀.at? (loc ++ [n]) = some .directory) : Settled fs₀ region (source.join ⟨n⟩) := by
  have hn := isOrdinary_of_at? hat
  have hloc : ∀ loc', fs₀.Leads (source.join ⟨n⟩) loc' → loc' = loc ++ [n] :=
    fun loc' => hl.of_join hn fun target => by simp [hat]
  refine ⟨hs.inside loc hl [n] (by simp [hat]), fun loc' hl' ns => ?_, fun loc' hl' ns hns => ?_⟩
  · rw [hloc loc' hl', List.append_assoc]
    exact hs.outside loc hl _
  · rw [hloc loc' hl', List.append_assoc] at hns
    exact hs.inside loc hl (n :: ns) hns

/-- **A source whose paths all lead on when a place is emptied is settled outside it**, if neither
    lies inside the other. -/
theorem settled_of_prune {top : Location}
    (hs : (fs₀.prune top).stat? source = .ok (loc, .directory)) (hin : ¬ top <+: loc)
    (hout : ¬ loc <+: top)
    (hall : ∀ x ∈ fs₀.entries, loc <+: x.1 →
      ((fs₀.prune top).stat? (source.under (x.1.drop loc.length))).toBool = true) :
    Settled fs₀ (Below top) source := by
  have hpath := apart_of_prune hs
  have hloc : ∀ loc', fs₀.Leads source loc' → loc' = loc := by
    intro loc' hl'
    refine hl'.unique (leads_of_stat? ?_)
    rw [← hs]
    exact (hpath _ (sameOutside_prune fs₀ top)).symm
  refine ⟨hpath, fun loc' hl' ns hb => ?_, fun loc' hl' ns hns => ?_⟩
  · rw [hloc loc' hl'] at hb
    rcases List.prefix_or_prefix_of_prefix hb (List.prefix_append loc ns) with h | h
    · exact hin h
    · exact hout h
  · rw [hloc loc' hl'] at hns
    by_cases hnil : ns = []
    · rw [hnil]
      exact hpath
    · obtain ⟨e, he⟩ := Option.ne_none_iff_exists'.1 hns
      have hmem := (at?_eq_some_iff (by simp [hnil])).1 he
      have hok := hall _ hmem (List.prefix_append loc ns)
      rw [List.drop_left] at hok
      exact apart_of_toBool hok

/-- Below a straight path without links every path is straight. -/
theorem Straight.under (hs : fs₀.Straight source) (hfree : fs₀.LinkFree (fs₀.place source))
    {ns : List Name} (hns : ∀ n ∈ ns, Name.isOrdinary n = true) :
    fs₀.Straight (source.under ns) ∧ fs₀.place (source.under ns) = fs₀.place source ++ ns ∧
      (source.under ns).names = source.names ++ ns := by
  induction ns using List.reverseRecOn with
  | nil => exact ⟨hs, (List.append_nil _).symm, (List.append_nil _).symm⟩
  | append_singleton ns n ih =>
    obtain ⟨hs', hplace, hnames⟩ := ih fun m hm => hns m (List.mem_append_left _ hm)
    have hn := hns n (by simp)
    rw [Path.under_concat]
    refine ⟨hs'.join hn ?_, ?_, ?_⟩
    · rw [hplace, List.append_assoc]
      exact (hfree.below _).self
    · rw [place_join fs₀ _ hn, hplace, List.append_assoc]
    · rw [Path.names_join_name _ hn, hnames, List.append_assoc]

/-- The names on the way down to what stands somewhere are ordinary. -/
theorem isOrdinary_of_at?_append {ns : List Name} (h : fs₀.at? (loc ++ ns) ≠ none) :
    ∀ m ∈ ns, Name.isOrdinary m = true := by
  induction ns using List.reverseRecOn with
  | nil => exact nofun
  | append_singleton ns k ih =>
    rw [← List.append_assoc] at h
    obtain ⟨e, he⟩ := Option.ne_none_iff_exists'.1 h
    have hdir := isDirectory_iff.1 (isDirectory_of_at? he)
    simp only [List.forall_mem_append, List.forall_mem_singleton]
    exact ⟨ih (by simp [hdir]), isOrdinary_of_at? he⟩

/-- **A source without links that a straight path leads to is settled** outside a region that its
    way does not enter and that holds nothing below it. -/
theorem settled_of_straight (hs : fs₀.Straight source) (hfree : fs₀.LinkFree (fs₀.place source))
    (hway : ∀ ns, ns <+: source.names → ¬ region (fs₀.start source ++ ns))
    (hout : ∀ ns, ¬ region (fs₀.place source ++ ns)) : Settled fs₀ region source := by
  refine ⟨apart_of_straight hs hway, fun loc hl => ?_, fun loc hl ns hns => ?_⟩ <;>
    obtain rfl := (place_of_leads hs hl).1
  · exact hout
  · obtain ⟨hs', hplace, hnames⟩ := hs.under hfree (isOrdinary_of_at?_append hns)
    have hstart : fs₀.start (source.under ns) = fs₀.start source := by
      have h := hplace
      rw [place, place, hnames, List.append_assoc] at h
      exact List.append_cancel_right h
    refine apart_of_straight hs' fun ms hms hreg => ?_
    rw [hstart] at hreg
    rw [hnames] at hms
    rcases List.prefix_or_prefix_of_prefix hms (List.prefix_append _ _) with hin | ⟨more, rfl⟩
    · exact hway ms hin hreg
    · rw [← List.append_assoc] at hreg
      exact hout more hreg

/-- A source without links is settled outside a location if neither lies inside the other. -/
theorem settled_of_disjoint {top : Location} (hs : fs₀.Straight source)
    (hfree : fs₀.LinkFree (fs₀.place source)) (hin : ¬ top <+: fs₀.place source)
    (hout : ¬ fs₀.place source <+: top) : Settled fs₀ (Below top) source := by
  refine settled_of_straight hs hfree (fun ns hns hb => hin ?_) fun ns hb => ?_
  · exact hb.trans ((List.prefix_append_right_inj _).2 hns)
  · rcases List.prefix_or_prefix_of_prefix hb (List.prefix_append _ _) with h | h
    · exact hin h
    · exact hout h

theorem Settled.mono {region' : Location → Prop} (h : Settled fs₀ region source)
    (hr : ∀ k, region' k → region k) : Settled fs₀ region' source :=
  ⟨fun fs hs => h.path fs (hs.mono hr), fun loc hl ns hreg => h.outside loc hl ns (hr _ hreg),
    fun loc hl ns hns fs hs => h.inside loc hl ns hns fs (hs.mono hr)⟩

/-- **A source that leads to a directory stays settled** whatever happens in the region. -/
theorem Settled.of_same {fs : FileSystem} (h : Settled fs₀ region source)
    (hstat : fs₀.stat? source = .ok (loc, .directory)) (hs : SameOutside region fs₀ fs) :
    Settled fs region source := by
  have hsl := leads_of_stat? hstat
  have hloc : ∀ loc', fs.Leads source loc' → loc' = loc := fun loc' hl' =>
    hl'.unique (leads_of_stat? ((h.path fs hs).trans hstat))
  refine ⟨h.path.of_same hs, fun loc' hl' ns => ?_, fun loc' hl' ns hns => ?_⟩
  · rw [hloc loc' hl']
    exact h.outside loc hsl ns
  · rw [hloc loc' hl', hs.entry _ (h.outside loc hsl ns)] at hns
    exact (h.inside loc hsl ns hns).of_same hs

theorem isCopy_join {ns : List Name} {copied : Option Entry} :
    fs₀.IsCopy (source.join ⟨n⟩) (loc ++ [n]) ns copied ↔
      fs₀.IsCopy source loc (n :: ns) copied := by
  rw [IsCopy, IsCopy, List.append_assoc, Path.under_cons]
  rfl

theorem isCopy_none {ns : List Name} (h : fs₀.at? (loc ++ ns) = none) :
    fs₀.IsCopy source loc ns none := by
  rw [IsCopy, h]

theorem isCopy_directory {ns : List Name} (h : fs₀.at? (loc ++ ns) = some .directory) :
    fs₀.IsCopy source loc ns (some .directory) := by
  rw [IsCopy, h]

theorem isCopy_file {ns : List Name} {e : Entry} (h : fs₀.at? (loc ++ ns) = some e)
    (he : e ≠ .directory) {origin : Location} {content : Bytes} {executable : Bool}
    (hs : fs₀.stat? (source.under ns) = .ok (origin, .file content executable)) :
    fs₀.IsCopy source loc ns (some (.file content executable)) := by
  rw [IsCopy, h]
  match e, he with
  | .file _ _, _ => exact ⟨origin, content, executable, hs, rfl⟩
  | .link _, _ => exact ⟨origin, content, executable, hs, rfl⟩
  | .directory, he => exact absurd rfl he

end Settled

/-- The copier reproduces sources that are settled outside the region, at places in the region where
    nothing stands. -/
def Reproduces (fs₀ : FileSystem) (region : Location → Prop) (tree : Path → Path → Disk Unit) :
    Prop :=
  ∀ (fs fs' : FileSystem) (source p : Path) (dir : Location) (n : Name),
    Settled fs₀ region source → SameOutside region fs₀ fs →
    (∀ loc, Below (dir ++ [n]) loc → region loc) → fs.Leads p dir → Name.isOrdinary n = true →
    fs.at? (dir ++ [n]) = none → tree source (p.join ⟨n⟩) fs = .ok () fs' →
    ∃ loc, fs₀.Leads source loc ∧
      ∀ ns, fs₀.IsCopy source loc ns (fs'.at? (dir ++ [n] ++ ns))

section Reproduces

variable {fs₀ fs fs' : FileSystem} {region : Location → Prop} {tree : Path → Path → Disk Unit}
  {source p : Path} {loc dir : Location}

/-- A copied file holds what its path led to at the start. -/
theorem copyFile_copied {n : Name} (hs : Settled fs₀ region source) (hsl : fs₀.Leads source loc)
    (hsame : SameOutside region fs₀ fs) (hl : fs.Leads p dir) (hnone : fs.at? (dir ++ [n]) = none)
    {e : Entry} (hat : fs₀.at? (loc ++ [n]) = some e) (he : e ≠ .directory)
    (h : fs.copyFile (source.join ⟨n⟩) (p.join ⟨n⟩) = .ok fs') (ns : List Name) :
    fs₀.IsCopy source loc (n :: ns) (fs'.at? (dir ++ n :: ns)) := by
  have hn := isOrdinary_of_at? hat
  obtain ⟨origin, content, executable, hstat, hput, -, -⟩ := copyFile_join_new hl hn hnone h
  cases ns with
  | nil =>
    have hstat₀ : fs₀.stat? (source.under [n]) = .ok (origin, .file content executable) :=
      (hs.inside loc hsl [n] (by simp [hat]) fs hsame).symm.trans hstat
    rw [hput]
    exact isCopy_file hat he hstat₀
  | cons m more =>
    have hbelow : fs'.at? (dir ++ n :: m :: more) = none :=
      at?_cons_eq_none (by simp [hput]) (List.cons_ne_nil m more)
    have hbelow₀ : fs₀.at? (loc ++ n :: m :: more) = none :=
      at?_cons_eq_none (by simpa [hat] using he) (List.cons_ne_nil m more)
    rw [hbelow]
    exact isCopy_none hbelow₀

/-- **A copied entry holds what the source's entry held at the start.** -/
theorem copyEntry_copied (hrep : Reproduces fs₀ region tree) (hs : Settled fs₀ region source)
    (hsl : fs₀.Leads source loc) (hsame : SameOutside region fs₀ fs) (hl : fs.Leads p dir)
    (hregion : ∀ k, Below dir k → region k) {x : Name × Entry}
    (hat : fs₀.at? (loc ++ [x.1]) = some x.2) (hnone : fs.at? (dir ++ [x.1]) = none)
    (h : copyEntry tree source p x fs = .ok () fs') (ns : List Name) :
    fs₀.IsCopy source loc (x.1 :: ns) (fs'.at? (dir ++ x.1 :: ns)) := by
  obtain ⟨n, e⟩ := x
  have hfile : e ≠ .directory →
      Disk.change (fun fs => fs.copyFile (source.join ⟨n⟩) (p.join ⟨n⟩)) fs = .ok () fs' →
      fs₀.IsCopy source loc (n :: ns) (fs'.at? (dir ++ n :: ns)) := by
    intro he hcopy
    unfold Disk.change at hcopy
    split at hcopy
    · rename_i fs'' hok
      cases hcopy
      exact copyFile_copied hs hsl hsame hl hnone hat he hok ns
    · cases hcopy
  cases e with
  | directory =>
    obtain ⟨loc', hl', hcopied⟩ := hrep fs fs' (source.join ⟨n⟩) p dir n (hs.join hsl hat) hsame
      (fun k hk => hregion k (below_of_below (List.prefix_append _ _) hk)) hl
      (isOrdinary_of_at? hat) hnone h
    obtain rfl := hsl.of_join (isOrdinary_of_at? hat) (by simp [hat]) hl'
    have := isCopy_join.1 (hcopied ns)
    rwa [List.append_assoc] at this
  | file _ _ => exact hfile (by simp) h
  | link _ => exact hfile (by simp) h

/-- **Copied entries hold what the source's entries held, and no other place changes.** The
    induction is on the entries; a later entry neither finds nor touches what an earlier one made,
    since their names differ. -/
theorem copyEntries_copied (hgrow : OnlyGrows tree) (hrep : Reproduces fs₀ region tree)
    (hs : Settled fs₀ region source) (hsl : fs₀.Leads source loc)
    (hregion : ∀ k, Below dir k → region k) {entries : List (Name × Entry)}
    (hnodup : (entries.map Prod.fst).Nodup)
    (hat : ∀ x ∈ entries, fs₀.at? (loc ++ [x.1]) = some x.2)
    (hsame : SameOutside region fs₀ fs) (hl : fs.Leads p dir) (hf : fs.LinkFree dir)
    (hnone : ∀ x ∈ entries, fs.at? (dir ++ [x.1]) = none)
    (h : each (copyEntry tree source p) entries fs = .ok () fs') :
    (∀ x ∈ entries, ∀ ns, fs₀.IsCopy source loc (x.1 :: ns) (fs'.at? (dir ++ x.1 :: ns))) ∧
      ∀ k, (∀ x ∈ entries, ¬ Below (dir ++ [x.1]) k) → fs'.at? k = fs.at? k := by
  induction entries generalizing fs with
  | nil =>
    cases h
    exact ⟨fun x hx => absurd hx List.not_mem_nil, fun _ _ => rfl⟩
  | cons x rest ih =>
    rw [List.map_cons, List.nodup_cons] at hnodup
    unfold each at h
    split at h
    · cases h
    · rename_i fs₁ heq
      have hord := isOrdinary_of_at? (hat x List.mem_cons_self)
      have hg : Grows (dir ++ [x.1]) fs fs₁ := by
        have := copyEntry_grows hgrow source hl hf hord
        rwa [heq] at this
      have hx := copyEntry_copied hrep hs hsl hsame hl hregion (hat x List.mem_cons_self)
        (hnone x List.mem_cons_self) heq
      -- the places of two entries lie apart
      have hapart : ∀ y ∈ rest, ∀ k, Below (dir ++ [y.1]) k → ¬ Below (dir ++ [x.1]) k :=
        fun y hy k hk hk' => hnodup.1 (eq_of_below hk hk' ▸ List.mem_map_of_mem hy)
      have hsame₁ : SameOutside region fs₀ fs₁ := hsame.trans (hg.outside.mono fun k hk =>
        hregion k (below_of_below (List.prefix_append _ _) hk))
      have hnone₁ : ∀ y ∈ rest, fs₁.at? (dir ++ [y.1]) = none := by
        intro y hy
        rw [hg.outside.entry _ (hapart y hy _ List.prefix_rfl)]
        exact hnone y (List.mem_cons_of_mem _ hy)
      obtain ⟨hrest, hother⟩ := ih hnodup.2 (fun y hy => hat y (List.mem_cons_of_mem _ hy)) hsame₁
        (hl.mono hg.keepsWays) (hf.grows hg) hnone₁ h
      refine ⟨fun y hy ns => ?_, fun k hk => ?_⟩
      · rcases List.mem_cons.1 hy with rfl | hy
        · rw [hother _ fun z hz hk => hapart z hz _ hk ⟨ns, by simp⟩]
          exact hx ns
        · exact hrest y hy ns
      · rw [hother k fun y hy => hk y (List.mem_cons_of_mem _ hy)]
        exact hg.outside.entry k (hk x List.mem_cons_self)

/-- Where all listed entries are copied into an empty directory, the directory is a copy. -/
theorem isCopy_of_entries {top : Location} {fs₁ : FileSystem}
    (hdir : fs₀.at? loc = some .directory) (hat : fs₁.at? top = some .directory)
    (hempty : ∀ ns, ns ≠ [] → fs₁.at? (top ++ ns) = none) {entries : List (Name × Entry)}
    (hlist : ∀ n e, (n, e) ∈ entries ↔ fs₀.at? (loc ++ [n]) = some e)
    (hin : ∀ x ∈ entries, ∀ ns, fs₀.IsCopy source loc (x.1 :: ns) (fs'.at? (top ++ x.1 :: ns)))
    (hother : ∀ k, (∀ x ∈ entries, ¬ Below (top ++ [x.1]) k) → fs'.at? k = fs₁.at? k)
    (ns : List Name) : fs₀.IsCopy source loc ns (fs'.at? (top ++ ns)) := by
  cases ns with
  | nil =>
    have hself := hother (top ++ []) fun x hx hk => by
      have := hk.length_le
      simp only [List.append_nil, List.length_append, List.length_singleton] at this
      omega
    rw [hself, List.append_nil, hat]
    exact isCopy_directory (by simpa using hdir)
  | cons n more =>
    cases hn : fs₀.at? (loc ++ [n]) with
    | some e => exact hin (n, e) ((hlist n e).2 hn) more
    | none =>
      have hnone : fs₀.at? (loc ++ n :: more) = none := by
        by_cases hmore : more = []
        · rw [hmore, hn]
        · exact at?_cons_eq_none (by simp [hn]) hmore
      -- no entry of this name was listed
      have hself := hother (top ++ n :: more) fun x hx hk => by
        have heq : x.1 = n := eq_of_below hk ⟨more, by simp⟩
        have := (hlist x.1 x.2).1 hx
        rw [heq, hn] at this
        cases this
      rw [hself, hempty _ (List.cons_ne_nil n more)]
      exact isCopy_none hnone

end Reproduces

/-- **A tree copied to where nothing stands is held there as it stood at the start.** -/
theorem copyLevels_copied (fs₀ : FileSystem) (region : Location → Prop) (depth : Nat) :
    Reproduces fs₀ region (copyLevels depth) := by
  induction depth with
  | zero =>
    intro fs fs' source p dir n _ _ _ _ _ _ h
    cases h
  | succ depth ih =>
    intro fs fs' source p dir n hs hsame hregion hl hn hnone h
    cases hm : makeDirectories (p.join ⟨n⟩) fs with
    | error e fs₁ =>
      simp only [copyLevels, hm] at h
      cases h
    | ok _ fs₁ =>
      have hfree := linkFree_of_none hnone
      obtain ⟨hc, hat, hg, hput⟩ := makeDirectories_join_ok hl hn hfree.self hm
      have hl₁ : fs₁.Leads (p.join ⟨n⟩) (dir ++ [n]) :=
        (hl.mono hg.keepsWays).join hn (length_le_of_nameCheck hc) hat
      have hsame₁ : SameOutside region fs₀ fs₁ := hsame.trans (hg.outside.mono hregion)
      have hempty : ∀ ns, ns ≠ [] → fs₁.at? (dir ++ [n] ++ ns) = none := by
        intro ns hns
        obtain ⟨hdir, -⟩ | ⟨-, rfl⟩ := hput
        · rw [hnone] at hdir
          cases hdir
        · have hadds := adds_put (admits_join hl hn (Or.inl rfl)) hnone
          rw [hadds.below hns]
          exact at?_append_eq_none (by simp [hnone]) hns
      rcases copyLevels_succ hm with ⟨e, heq⟩ | ⟨loc, hstat, heq⟩ <;> rw [heq] at h
      · cases h
      · rw [hs.path fs₁ hsame₁] at hstat
        have hsl : fs₀.Leads source loc := leads_of_stat? hstat
        -- the listing is that of the start
        have hlist : ∀ m e, (m, e) ∈ fs₁.children loc ↔ fs₀.at? (loc ++ [m]) = some e := by
          intro m e
          rw [mem_children, hsame₁.entry _ (hs.outside loc hsl [m])]
        obtain ⟨hin, hother⟩ := copyEntries_copied (copyLevels_grows depth) ih hs hsl hregion
          (nodup_children fs₁ loc) (fun x hx => (hlist x.1 x.2).1 hx) hsame₁ hl₁ (hfree.grows hg)
          (fun x hx => hempty [x.1] (by simp)) h
        exact ⟨loc, hsl, isCopy_of_entries (isDirectory_iff.1 hsl.isDirectory) hat hempty hlist hin
          hother⟩

end TemplatePress.FileSystem
