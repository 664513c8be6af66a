import TemplatePress.Proofs.Copying

/-!
# A copy and its source, side by side

* `Beside`: neither of two locations is inside the other.
* `Duplicate`: of two trees in one file system one is a copy of the other, as both stand now, and
  every directory of either is listed by its path.
* `copyLevels_duplicates`: a tree that is copied to where nothing stood beside it is duplicated,
  whatever its links pass through or lead to. The induction is on the depth. Along the entries of
  one directory what was copied stays as it is, since entries are only added.
-/

namespace TemplatePress.FileSystem

/-! ## 1. Locations beside one another -/

/-- Neither location is inside the other. -/
def Beside (a b : Location) : Prop :=
  ¬ a <+: b ∧ ¬ b <+: a

instance (a b : Location) : Decidable (Beside a b) :=
  inferInstanceAs (Decidable (_ ∧ _))

section Beside

variable {a b : Location}

/-- Nothing below the one location is at or below the other. -/
theorem Beside.not_below (h : Beside a b) (ns : List Name) : ¬ Below b (a ++ ns) := by
  intro hb
  rcases List.prefix_or_prefix_of_prefix hb (List.prefix_append a ns) with hb | ha
  · exact h.2 hb
  · exact h.1 ha

theorem Beside.append (h : Beside a b) (ns ms : List Name) : Beside (a ++ ns) (b ++ ms) := by
  refine ⟨fun hp => ?_, fun hp => h.not_below ns ((List.prefix_append b ms).trans hp)⟩
  rcases List.prefix_or_prefix_of_prefix ((List.prefix_append a ns).trans hp)
    (List.prefix_append b ms) with ha | hb
  · exact h.1 ha
  · exact h.2 hb

/-- What happens at and below the one location leaves what is at and below the other. -/
theorem Beside.at?_eq (h : Beside a b) {fs fs' : FileSystem} (hs : SameOutside (Below b) fs fs')
    (ns : List Name) : fs'.at? (a ++ ns) = fs.at? (a ++ ns) :=
  hs.entry _ (h.not_below ns)

end Beside

/-! ## 2. Duplicates -/

/-- What stands behind names in the tree at `loc`, which `source` leads to, stands behind them in
    the tree at `top`, which `copy` leads to, as its copy. A directory is listed by both paths. -/
structure Doubled (fs : FileSystem) (source : Path) (loc : Location) (copy : Path) (top : Location)
    (ns : List Name) : Prop where
  entry : fs.IsCopy source loc ns (fs.at? (top ++ ns))
  listed : fs.at? (loc ++ ns) = some .directory →
    fs.stat? (source.under ns) = .ok (loc ++ ns, .directory) ∧
      fs.stat? (copy.under ns) = .ok (top ++ ns, .directory)

/-- The tree at `top`, which `copy` leads to, is a copy of the tree at `loc`, which `source` leads
    to, and every directory of either is listed by its path. -/
structure Duplicate (fs : FileSystem) (source : Path) (loc : Location) (copy : Path)
    (top : Location) : Prop where
  directory : fs.at? loc = some .directory
  doubled : ∀ ns, Doubled fs source loc copy top ns

section Doubled

variable {fs fs' : FileSystem} {source copy : Path} {loc top : Location} {n : Name}
  {ns : List Name}

theorem doubled_join : Doubled fs (source.join ⟨n⟩) (loc ++ [n]) (copy.join ⟨n⟩) (top ++ [n]) ns ↔
    Doubled fs source loc copy top (n :: ns) := by
  have hloc : loc ++ [n] ++ ns = loc ++ n :: ns := by simp
  have htop : top ++ [n] ++ ns = top ++ n :: ns := by simp
  constructor
  · rintro ⟨hentry, hlisted⟩
    rw [isCopy_join, htop] at hentry
    rw [hloc, htop] at hlisted
    exact ⟨hentry, hlisted⟩
  · rintro ⟨hentry, hlisted⟩
    refine ⟨?_, ?_⟩
    · rwa [isCopy_join, htop]
    · rwa [hloc, htop]

/-- Where nothing stands in either tree there is nothing to copy. -/
theorem doubled_none (h : fs.at? (loc ++ ns) = none) (h' : fs.at? (top ++ ns) = none) :
    Doubled fs source loc copy top ns := by
  refine ⟨?_, fun hdir => ?_⟩
  · rw [h']
    exact isCopy_none h
  · rw [h] at hdir
    cases hdir

theorem doubled_file {e : Entry} (h : fs.at? (loc ++ ns) = some e) (he : e ≠ .directory)
    {origin : Location} {content : Bytes} {executable : Bool}
    (hs : fs.stat? (source.under ns) = .ok (origin, .file content executable))
    (h' : fs.at? (top ++ ns) = some (.file content executable)) :
    Doubled fs source loc copy top ns := by
  refine ⟨?_, fun hdir => ?_⟩
  · rw [h']
    exact isCopy_file h he hs
  · rw [h, Option.some.injEq] at hdir
    exact absurd hdir he

/-- What a path leads to is kept when entries are added, and with it what is copied from there. -/
theorem IsCopy.of_extends {copied : Option Entry} (h : fs.IsCopy source loc ns copied)
    (he : Extends fs fs') (hloc : fs'.at? (loc ++ ns) = fs.at? (loc ++ ns)) :
    fs'.IsCopy source loc ns copied := by
  unfold IsCopy at h ⊢
  rw [hloc]
  cases hat : fs.at? (loc ++ ns) with
  | none => simpa only [hat] using h
  | some e =>
    rw [hat] at h
    cases e with
    | directory => exact h
    | file _ _ =>
      obtain ⟨origin, content, executable, hs, hc⟩ := h
      exact ⟨origin, content, executable, stat?_of_extends he hs, hc⟩
    | link _ =>
      obtain ⟨origin, content, executable, hs, hc⟩ := h
      exact ⟨origin, content, executable, stat?_of_extends he hs, hc⟩

/-- **What is doubled stays doubled when entries are added elsewhere.** -/
theorem Doubled.of_extends (h : Doubled fs source loc copy top ns) (he : Extends fs fs')
    (hloc : fs'.at? (loc ++ ns) = fs.at? (loc ++ ns))
    (htop : fs'.at? (top ++ ns) = fs.at? (top ++ ns)) : Doubled fs' source loc copy top ns := by
  refine ⟨?_, fun hdir => ?_⟩
  · rw [htop]
    exact h.entry.of_extends he hloc
  · rw [hloc] at hdir
    obtain ⟨hs, hc⟩ := h.listed hdir
    exact ⟨stat?_of_extends he hs, stat?_of_extends he hc⟩

end Doubled

namespace Duplicate

variable {fs fs' : FileSystem} {source copy : Path} {loc top : Location}

theorem stat?_source (h : Duplicate fs source loc copy top) :
    fs.stat? source = .ok (loc, .directory) := by
  have := ((h.doubled []).listed (by simpa using h.directory)).1
  simpa using this

theorem stat?_copy (h : Duplicate fs source loc copy top) :
    fs.stat? copy = .ok (top, .directory) := by
  have := ((h.doubled []).listed (by simpa using h.directory)).2
  simpa using this

theorem isCopy (h : Duplicate fs source loc copy top) (ns : List Name) :
    fs.IsCopy source loc ns (fs.at? (top ++ ns)) :=
  (h.doubled ns).entry

/-- **Entries that are added beside both trees leave a duplicate.** -/
theorem of_extends (h : Duplicate fs source loc copy top) (he : Extends fs fs')
    (hloc : ∀ ns, fs'.at? (loc ++ ns) = fs.at? (loc ++ ns))
    (htop : ∀ ns, fs'.at? (top ++ ns) = fs.at? (top ++ ns)) :
    Duplicate fs' source loc copy top :=
  ⟨he.entry _ _ h.directory, fun ns => (h.doubled ns).of_extends he (hloc ns) (htop ns)⟩

end Duplicate

/-! ## 3. Copying duplicates -/

/-- The copier duplicates trees beside the place of the copy, where nothing stands. -/
def Duplicates (tree : Path → Path → Disk Unit) : Prop :=
  ∀ (fs fs' : FileSystem) (source p : Path) (dir : Location) (n : Name), fs.Leads p dir →
    Name.isOrdinary n = true → fs.at? (dir ++ [n]) = none →
    (∀ loc, fs'.Leads source loc → Beside loc (dir ++ [n])) →
    tree source (p.join ⟨n⟩) fs = .ok () fs' →
    ∃ loc, Duplicate fs' source loc (p.join ⟨n⟩) (dir ++ [n])

section Duplicates

variable {tree : Path → Path → Disk Unit} {fs fs' : FileSystem} {source p : Path}
  {loc dir : Location}

/-- A copied file doubles what its path leads to, which is as it was before. -/
theorem copyFile_doubled {n : Name} (hl : fs.Leads p dir) (hnone : fs.at? (dir ++ [n]) = none)
    {e : Entry} (hat : fs.at? (loc ++ [n]) = some e) (he : e ≠ .directory) (hb : Beside loc dir)
    (h : fs.copyFile (source.join ⟨n⟩) (p.join ⟨n⟩) = .ok fs') (ns : List Name) :
    Doubled fs' source loc p dir (n :: ns) := by
  have hn := isOrdinary_of_at? hat
  obtain ⟨origin, content, executable, hstat, hput, hg, -⟩ := copyFile_join_new hl hn hnone h
  have hat' : fs'.at? (loc ++ [n]) = some e := by
    rw [hg.outside.entry _ fun hk => hb.not_below [n] (below_of_below (List.prefix_append _ _) hk)]
    exact hat
  cases ns with
  | nil => exact doubled_file hat' he (stat?_of_extends (hg.onlyAdds hnone) hstat) hput
  | cons m more =>
    refine doubled_none (at?_cons_eq_none ?_ (List.cons_ne_nil m more))
      (at?_cons_eq_none (by simp [hput]) (List.cons_ne_nil m more))
    simpa [hat'] using he

/-- **An entry is copied to where nothing stood, and doubled.** -/
theorem copyEntry_doubled (hdup : Duplicates tree) (hsl : fs.Leads source loc)
    (hl : fs.Leads p dir) (hb : Beside loc dir) {x : Name × Entry}
    (hat : fs.at? (loc ++ [x.1]) = some x.2) (hnone : fs.at? (dir ++ [x.1]) = none)
    (hg : Grows (dir ++ [x.1]) fs fs') (h : copyEntry tree source p x fs = .ok () fs')
    (ns : List Name) : Doubled fs' source loc p dir (x.1 :: ns) := by
  obtain ⟨n, e⟩ := x
  have hfile : e ≠ .directory →
      Disk.change (fun fs => fs.copyFile (source.join ⟨n⟩) (p.join ⟨n⟩)) fs = .ok () fs' →
      Doubled fs' source loc p dir (n :: ns) := by
    intro he hcopy
    unfold Disk.change at hcopy
    split at hcopy
    · rename_i fs'' hok
      cases hcopy
      exact copyFile_doubled hl hnone hat he hb hok ns
    · cases hcopy
  cases e with
  | directory =>
    have hn := isOrdinary_of_at? hat
    have hat' : fs'.at? (loc ++ [n]) = some .directory := hg.directory _ hat
    have hloc : ∀ loc', fs'.Leads (source.join ⟨n⟩) loc' → loc' = loc ++ [n] :=
      fun loc' => (hsl.mono hg.keepsWays).of_join hn fun target => by simp [hat']
    obtain ⟨loc', hd⟩ := hdup fs fs' (source.join ⟨n⟩) p dir n hl hn hnone
      (fun loc' hl' => hloc loc' hl' ▸ hb.append [n] [n]) h
    obtain rfl := hloc loc' (leads_of_stat? hd.stat?_source)
    exact doubled_join.1 (hd.doubled ns)
  | file _ _ => exact hfile (by simp) h
  | link _ => exact hfile (by simp) h

/-- **Entries that are copied in turn are all doubled, and nothing else changes.** Each is copied to
    where nothing stood, so that none disturbs those before it. -/
theorem copyEntries_doubled (hgrow : OnlyGrows tree) (hdup : Duplicates tree)
    {entries : List (Name × Entry)} (hnodup : (entries.map Prod.fst).Nodup)
    (hsl : fs.Leads source loc) (hat : ∀ x ∈ entries, fs.at? (loc ++ [x.1]) = some x.2)
    (hb : Beside loc dir) (hl : fs.Leads p dir) (hf : fs.LinkFree dir)
    (hnone : ∀ x ∈ entries, fs.at? (dir ++ [x.1]) = none)
    (h : each (copyEntry tree source p) entries fs = .ok () fs') :
    Extends fs fs' ∧
      (∀ x ∈ entries, ∀ ns, Doubled fs' source loc p dir (x.1 :: ns)) ∧
      ∀ k, (∀ x ∈ entries, ¬ Below (dir ++ [x.1]) k) → fs'.at? k = fs.at? k := by
  induction entries generalizing fs with
  | nil =>
    cases h
    exact ⟨Extends.refl _, fun x hx => absurd hx List.not_mem_nil, fun _ _ => rfl⟩
  | cons x rest ih =>
    rw [List.map_cons, List.nodup_cons] at hnodup
    unfold each at h
    split at h
    · cases h
    · rename_i fs₁ heq
      have hg : Grows (dir ++ [x.1]) fs fs₁ := by
        have := copyEntry_grows hgrow source hl hf (isOrdinary_of_at? (hat x List.mem_cons_self))
        rwa [heq] at this
      have hx := copyEntry_doubled hdup hsl hl hb (hat x List.mem_cons_self)
        (hnone x List.mem_cons_self) hg heq
      have hadd := hg.onlyAdds (hnone x List.mem_cons_self)
      -- the places of two entries lie apart
      have hapart : ∀ y ∈ rest, ∀ k, Below (dir ++ [y.1]) k → ¬ Below (dir ++ [x.1]) k :=
        fun y hy k hk hk' => hnodup.1 (eq_of_below hk hk' ▸ List.mem_map_of_mem hy)
      have hnone₁ : ∀ y ∈ rest, fs₁.at? (dir ++ [y.1]) = none := by
        intro y hy
        rw [hg.outside.entry _ (hapart y hy _ List.prefix_rfl)]
        exact hnone y (List.mem_cons_of_mem _ hy)
      obtain ⟨hrest, hin, hother⟩ := ih hnodup.2 (hsl.mono hg.keepsWays)
        (fun y hy => hadd.entry _ _ (hat y (List.mem_cons_of_mem _ hy))) (hl.mono hg.keepsWays)
        (hf.grows hg) hnone₁ h
      refine ⟨hadd.trans hrest, fun y hy ns => ?_, fun k hk => ?_⟩
      · rcases List.mem_cons.1 hy with rfl | hy
        · have hbelow : ∀ z ∈ rest, ¬ Below (dir ++ [z.1]) (loc ++ y.1 :: ns) := fun z _ hk =>
            hb.not_below _ (below_of_below (List.prefix_append _ _) hk)
          exact (hx ns).of_extends hrest (hother _ hbelow)
            (hother _ fun z hz hk => hapart z hz _ hk ⟨ns, by simp⟩)
        · exact hin y hy ns
      · rw [hother k fun y hy => hk y (List.mem_cons_of_mem _ hy)]
        exact hg.outside.entry k (hk x List.mem_cons_self)

/-- **A directory into which all entries of another were copied, beside it, is its duplicate**, if it
    was empty before. -/
theorem duplicate_of_copyEntries {copy : Path} {top : Location} (hgrow : OnlyGrows tree)
    (hdup : Duplicates tree) (hs : fs.stat? source = .ok (loc, .directory))
    (hc : fs.stat? copy = .ok (top, .directory))
    (hempty : ∀ ns, ns ≠ [] → fs.at? (top ++ ns) = none) (hb : Beside loc top)
    (h : each (copyEntry tree source copy) (fs.children loc) fs = .ok () fs') :
    Extends fs fs' ∧ Duplicate fs' source loc copy top := by
  have hsl := leads_of_stat? hs
  have htop := at?_of_stat? hc
  have hfree := linkFree_of_empty (by simp [htop]) hempty
  obtain ⟨hadd, hin, hother⟩ := copyEntries_doubled hgrow hdup (nodup_children fs loc) hsl
    (fun x hx => mem_children.1 hx) hb (leads_of_stat? hc) hfree
    (fun x _ => hempty [x.1] (by simp)) h
  have hdir := isDirectory_iff.1 hsl.isDirectory
  have hdir' := hadd.entry _ _ hdir
  refine ⟨hadd, hdir', fun ns => ?_⟩
  cases ns with
  | nil =>
    refine ⟨?_, fun _ => ?_⟩
    · rw [List.append_nil, hadd.entry _ _ htop]
      exact isCopy_directory (by simpa using hdir')
    · simpa using ⟨stat?_of_extends hadd hs, stat?_of_extends hadd hc⟩
  | cons n more =>
    cases hn : fs.at? (loc ++ [n]) with
    | some e => exact hin (n, e) (mem_children.2 hn) more
    | none =>
      -- no entry of this name was listed, and none came to stand in either tree
      have hlisted : ∀ x ∈ fs.children loc, x.1 ≠ n := by
        rintro x hx rfl
        rw [mem_children.1 hx] at hn
        cases hn
      have hloc : fs'.at? (loc ++ n :: more) = fs.at? (loc ++ n :: more) :=
        hother _ fun x _ hk => hb.not_below _ (below_of_below (List.prefix_append _ _) hk)
      have hcopy : fs'.at? (top ++ n :: more) = fs.at? (top ++ n :: more) :=
        hother _ fun x hx hk => hlisted x hx (eq_of_below hk ⟨more, by simp⟩)
      refine doubled_none ?_ (hcopy.trans (hempty _ (List.cons_ne_nil n more)))
      rw [hloc]
      by_cases hmore : more = []
      · rw [hmore, hn]
      · exact at?_cons_eq_none (by simp [hn]) hmore

end Duplicates

/-- **A tree that is copied to where nothing stood beside it is duplicated.** -/
theorem copyLevels_duplicates (depth : Nat) : Duplicates (copyLevels depth) := by
  induction depth with
  | zero =>
    intro fs fs' source p dir n _ _ _ _ h
    cases h
  | succ depth ih =>
    intro fs fs' source p dir n hl hn hnone hb h
    cases hm : makeDirectories (p.join ⟨n⟩) fs with
    | error e fs₁ =>
      simp only [copyLevels, hm] at h
      cases h
    | ok _ fs₁ =>
      have hfree := linkFree_of_none hnone
      obtain ⟨hc, hat, hg, hput⟩ := makeDirectories_join_ok hl hn hfree.self hm
      have hl₁ : fs₁.Leads (p.join ⟨n⟩) (dir ++ [n]) :=
        (hl.mono hg.keepsWays).join hn (length_le_of_nameCheck hc) hat
      have hempty : ∀ ns, ns ≠ [] → fs₁.at? (dir ++ [n] ++ ns) = none := by
        intro ns hns
        obtain ⟨hdir, -⟩ | ⟨-, rfl⟩ := hput
        · rw [hnone] at hdir
          cases hdir
        · have hadds := adds_put (admits_join hl hn (Or.inl rfl)) hnone
          rw [hadds.below hns]
          exact at?_append_eq_none (by simp [hnone]) hns
      rcases copyLevels_succ hm with ⟨e, heq⟩ | ⟨loc, hstat, heq⟩ <;> rw [heq] at h
      · cases h
      · have hgrow := copyEntries_grows (copyLevels_grows depth) source hl₁ (hfree.grows hg)
          fun x (hx : x ∈ fs₁.children loc) => isOrdinary_of_mem_children hx
        rw [h] at hgrow
        have hb' := hb loc ((leads_of_stat? hstat).mono hgrow.keepsWays)
        exact ⟨loc, (duplicate_of_copyEntries (copyLevels_grows depth) ih hstat
          (stat?_of_leads hl₁ (checkPath_of_nameCheck hc)) hempty hb' h).2⟩

end TemplatePress.FileSystem
