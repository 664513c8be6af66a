import TemplatePress.Proofs.Destinations
import TemplatePress.Proofs.StalePackages

/-!
# Spellings of a folder

One folder may be spelled with doubled separators, with a separator at the end, or with `.` parts.
Every look-up below such spellings ends alike, with one exception: a longer spelling may be over the
limit where a shorter one is not. This file fixes:

* `checkPath_cases`: spellings of one path are refused alike, unless one of them is too long;
* `readDirectory_spelling`, `stat?_spelling`: they lead to one directory, and to the same entries
  behind it;
* `CopiesAlike`: copying from two spellings does the same, or stops at something whose path is too
  long in one of them. It holds of every tree, by induction on the depth (`copyLevels_alike`);
* `generate_spellings`: so do the builds of one folder under two spellings.
-/

namespace TemplatePress

open FileSystem TemplatePress.Path

/-! ## 1. What a spelling does not change -/

namespace Path

theorem exists_mem_split {bs : Bytes} {b : UInt8} (h : b ∈ bs) (hb : b ≠ separator) :
    ∃ part ∈ split bs, b ∈ part := by
  induction bs with
  | nil => cases h
  | cons a rest ih =>
    obtain ⟨part, parts, hsplit⟩ := List.exists_cons_of_ne_nil (split_ne_nil rest)
    by_cases ha : a = separator
    · obtain rfl | hrest := List.mem_cons.1 h
      · exact absurd ha hb
      · obtain ⟨part', hmem, hin⟩ := ih hrest
        exact ⟨part', by simp [split, ha, hmem], hin⟩
    · have hcons : split (a :: rest) = (a :: part) :: parts := by simp [split, ha, hsplit]
      rw [hcons]
      obtain rfl | hrest := List.mem_cons.1 h
      · exact ⟨b :: part, List.mem_cons_self, List.mem_cons_self⟩
      · obtain ⟨part', hmem, hin⟩ := ih hrest
        rw [hsplit] at hmem
        obtain rfl | hmem := List.mem_cons.1 hmem
        · exact ⟨a :: part', List.mem_cons_self, List.mem_cons_of_mem _ hin⟩
        · exact ⟨part', List.mem_cons_of_mem _ hmem, hin⟩

/-- A byte other than a separator or a dot stands in a component. -/
theorem mem_bytes_iff {p : Path} {b : UInt8} (hsep : b ≠ separator) (hdot : b ∉ here) :
    b ∈ p.bytes ↔ ∃ bs ∈ p.components.map Component.bytes, b ∈ bs := by
  constructor
  · intro h
    obtain ⟨part, hmem, hin⟩ := exists_mem_split h hsep
    have hne : part ≠ [] := List.ne_nil_of_mem hin
    have hhere : part ≠ here := by
      rintro rfl
      exact hdot hin
    have hinner : part ∈ (inner p.parts).map Component.bytes := by
      rw [map_bytes_inner, List.mem_filter]
      exact ⟨List.mem_filter.2 ⟨hmem, by simpa using hne⟩, by simpa using hhere⟩
    refine ⟨part, ?_, hin⟩
    unfold components
    split
    · exact List.mem_cons_of_mem _ hinner
    · split
      · exact List.mem_cons_of_mem _ hinner
      · exact hinner
  · rintro ⟨part, hmem, hin⟩
    exact mem_bytes_of_mem_split ((map_bytes_components p).subset hmem) hin

theorem isEmpty_iff_components (p : Path) : p.isEmpty = true ↔ p.components = [] := by
  obtain ⟨bytes⟩ := p
  constructor
  · intro h
    obtain rfl : bytes = [] := List.isEmpty_iff.1 h
    rfl
  · intro h
    cases bytes with
    | nil => rfl
    | cons b rest =>
      -- what is written first is the root, or a part that counts
      obtain ⟨part, parts, hsplit⟩ := List.exists_cons_of_ne_nil (split_ne_nil rest)
      by_cases hb : b = separator
      · simp [components, isAbsolute, hb] at h
      · have hparts : Path.parts ⟨b :: rest⟩ =
            (b :: part) :: parts.filter (! ·.isEmpty) := by
          simp [Path.parts, split, hb, hsplit]
        have habs : Path.isAbsolute ⟨b :: rest⟩ = false := by simp [isAbsolute, hb]
        by_cases hhere : b :: part = here
        · simp [components, habs, hparts, hhere] at h
        · simp [components, habs, hparts, hhere, inner_cons] at h

end Path

namespace FileSystem

section Spelling

variable {fs : FileSystem} {p q : Path} (h : p.components = q.components)

include h

/-- **Two spellings are refused alike**, unless one of them is over the limit and the other not. -/
theorem checkPath_cases : checkPath q = checkPath p ∨
    (pathLimit ≤ p.bytes.length ∧ checkPath p = .error (.os .nameTooLong) ∧ checkPath q = .ok ()) ∨
    (pathLimit ≤ q.bytes.length ∧ checkPath q = .error (.os .nameTooLong) ∧
      checkPath p = .ok ()) := by
  have hzero : p.bytes.contains 0 = q.bytes.contains 0 := by
    rw [Bool.eq_iff_iff, List.contains_iff_mem, List.contains_iff_mem,
      mem_bytes_iff (by decide) (by decide), mem_bytes_iff (by decide) (by decide), h]
  have hempty : p.isEmpty = q.isEmpty := by
    rw [Bool.eq_iff_iff, isEmpty_iff_components, isEmpty_iff_components, h]
  unfold checkPath
  rw [hzero, hempty]
  split
  · exact Or.inl rfl
  · split
    · exact Or.inl rfl
    · by_cases hp : p.bytes.length < pathLimit <;> by_cases hq : q.bytes.length < pathLimit
      · exact Or.inl (by rw [if_pos hp, if_pos hq])
      · exact Or.inr (Or.inr ⟨by omega, if_neg hq, if_pos hp⟩)
      · exact Or.inr (Or.inl ⟨by omega, if_neg hp, if_pos hq⟩)
      · exact Or.inl (by rw [if_neg hp, if_neg hq])

theorem checkPath_spelling (hp : p.bytes.length < pathLimit) (hq : q.bytes.length < pathLimit) :
    checkPath q = checkPath p := by
  rcases checkPath_cases h with hsame | ⟨hlong, -, -⟩ | ⟨hlong, -, -⟩
  · exact hsame
  · omega
  · omega

theorem start_spelling : fs.start q = fs.start p := by
  rw [start, start, isAbsolute_eq_head, isAbsolute_eq_head, h]

theorem moves_spelling : moves q.steps = moves p.steps := by
  rw [← moves_steps_ofComponents q, ← moves_steps_ofComponents p, h]

/-- **Two spellings lead to one directory.** -/
theorem leads_spelling {loc : Location} (hl : fs.Leads p loc) : fs.Leads q loc := by
  rw [← leads_ofComponents, ← h, leads_ofComponents]
  exact hl

end Spelling

/-! ## 2. Reading by two spellings -/

/-- The directory at the end of a walk. -/
def directoryAt (fs : FileSystem) : Except Errno Spot → Except Errno Location
  | .error e => .error e
  | .ok s =>
    match fs.at? s.location with
    | none => .error .notFound
    | some .directory => .ok s.location
    | some _ => .error .notDirectory

theorem readDirectory_eq (fs : FileSystem) (p : Path) :
    fs.readDirectory p =
      match checkPath p with
      | .error e => .error e
      | .ok () =>
        match fs.directoryAt (fs.walk true linkLimit (fs.start p) p.steps p.endsInSeparator) with
        | .error e => .error (.os e)
        | .ok loc => .ok (fs.children loc) := by
  simp only [readDirectory, stat?, spot, ← show fs.start p = if p.isAbsolute then [] else fs.home
    from rfl]
  cases checkPath p with
  | error e => rfl
  | ok =>
    cases fs.walk true linkLimit (fs.start p) p.steps p.endsInSeparator with
    | error e => rfl
    | ok s =>
      simp only [present, directoryAt]
      cases fs.at? s.location with
      | none => rfl
      | some e => cases e <;> cases s.slash <;> rfl

/-- A step that stays, behind the others, asks for a directory and changes nothing else. -/
def AsksDirectory (fs : FileSystem) (walk : Walk) : Prop :=
  ∀ (dir : Location) (steps : List Step) (slash slash' : Bool),
    fs.directoryAt (walk dir (steps ++ [.stay]) slash') = fs.directoryAt (walk dir steps slash)

theorem asksDirectory_walk_of_beyond {fs : FileSystem} {links : Nat}
    (hb : AsksDirectory fs (fs.beyond true links)) : AsksDirectory fs (fs.walk true links) := by
  intro dir steps slash slash'
  rw [walk_eq, walk_eq]
  induction steps generalizing dir with
  | nil => rfl
  | cons step steps ih =>
    have hrest : steps ++ [Step.stay] ≠ [] := by simp
    rw [List.cons_append]
    cases step with
    | stay =>
      rw [walkSteps_stay hrest]
      cases steps with
      | nil => rfl
      | cons next steps =>
        rw [walkSteps_stay (by simp)]
        exact ih dir
    | up =>
      rw [walkSteps_up hrest]
      cases steps with
      | nil => rfl
      | cons next steps =>
        rw [walkSteps_up (by simp)]
        exact ih dir.above
    | enter n =>
      by_cases hn : n.length ≤ nameLimit
      case neg =>
        have hlong : nameLimit < n.length := by omega
        simp [walkSteps, hlong]
      cases steps with
      | nil =>
        -- the name at the end: what stands there answers for the directory that is asked for
        cases hat : fs.at? (dir ++ [n]) with
        | none => simp [walkSteps, hat, directoryAt, Spot.location, Nat.not_lt.2 hn]
        | some e =>
          cases e with
          | file _ _ => simp [walkSteps, hat, directoryAt, Spot.location, Nat.not_lt.2 hn]
          | directory => simp [walkSteps, hat, directoryAt, Spot.location, Nat.not_lt.2 hn]
          | link target =>
            rw [List.nil_append, walkSteps_enter_link (by simp) hn hat, walkSteps_last_link hn hat]
            exact hb _ _ _ _
      | cons next steps =>
        cases hat : fs.at? (dir ++ [n]) with
        | none => simp [walkSteps, hat]
        | some e =>
          cases e with
          | file _ _ => simp [walkSteps, hat]
          | directory =>
            rw [walkSteps_enter_directory hrest hn hat, walkSteps_enter_directory (by simp) hn hat]
            exact ih _
          | link target =>
            rw [walkSteps_enter_link hrest hn hat, walkSteps_enter_link (by simp) hn hat,
              ← List.append_assoc]
            exact hb _ _ _ _

theorem asksDirectory_walk (fs : FileSystem) (links : Nat) :
    AsksDirectory fs (fs.walk true links) := by
  induction links with
  | zero => exact asksDirectory_walk_of_beyond fun _ _ _ _ => rfl
  | succ links ih => exact asksDirectory_walk_of_beyond ih

section Spelling

variable {fs : FileSystem} {p q : Path} (h : p.components = q.components)

include h

/-- **A directory lists the same by two spellings**, if they are refused alike. -/
theorem readDirectory_spelling (hc : checkPath q = checkPath p) :
    fs.readDirectory q = fs.readDirectory p := by
  have hwalk : fs.directoryAt (fs.walk true linkLimit (fs.start q) q.steps q.endsInSeparator) =
      fs.directoryAt (fs.walk true linkLimit (fs.start p) p.steps p.endsInSeparator) := by
    rw [← asksDirectory_walk fs linkLimit _ q.steps _ false,
      ← asksDirectory_walk fs linkLimit _ p.steps _ false,
      leadsByMoves_walk fs true .stay linkLimit _ q.steps,
      leadsByMoves_walk fs true .stay linkLimit _ p.steps, start_spelling h, moves_spelling h]
  rw [readDirectory_eq, readDirectory_eq, hc, hwalk]

/-- **A name behind two spellings leads to the same**, if the joined paths are refused alike. -/
theorem stat?_spelling {n : Name} (hn : Name.isOrdinary n = true)
    (hc : checkPath (q.join ⟨n⟩) = checkPath (p.join ⟨n⟩)) :
    fs.stat? (q.join ⟨n⟩) = fs.stat? (p.join ⟨n⟩) := by
  have hwalk : fs.walk true linkLimit (fs.start q) (q.steps ++ [.enter n]) false =
      fs.walk true linkLimit (fs.start p) (p.steps ++ [.enter n]) false := by
    rw [leadsByMoves_walk fs true (.enter n) linkLimit _ q.steps,
      leadsByMoves_walk fs true (.enter n) linkLimit _ p.steps, start_spelling h, moves_spelling h]
  have hspot : fs.spot true (q.join ⟨n⟩) = fs.spot true (p.join ⟨n⟩) := by
    simp only [spot, hc, ← show ∀ r, fs.start r = if r.isAbsolute then [] else fs.home from
      fun _ => rfl, start_join fs _ hn, Path.steps_join_name _ hn,
      Path.endsInSeparator_join_name _ hn, hwalk]
  rw [stat?, stat?, hspot]

end Spelling

/-! ## 3. What copying keeps -/

/-- Directories and links stay, and wherever something stands something does. -/
structure KeepsEntries (fs fs' : FileSystem) : Prop extends KeepsWays fs fs' where
  present : ∀ loc, fs.at? loc ≠ none → fs'.at? loc ≠ none

theorem KeepsEntries.refl (fs : FileSystem) : KeepsEntries fs fs :=
  ⟨⟨rfl, fun _ => id, fun _ _ => id⟩, fun _ => id⟩

theorem KeepsEntries.trans {fs fs' fs'' : FileSystem} (h : KeepsEntries fs fs')
    (h' : KeepsEntries fs' fs'') : KeepsEntries fs fs'' :=
  ⟨⟨h'.home.trans h.home, fun loc hat => h'.directory loc (h.directory loc hat),
    fun loc target hat => h'.link loc target (h.link loc target hat)⟩,
    fun loc hat => h'.present loc (h.present loc hat)⟩

/-- What is put where neither a directory nor a link stood keeps the entries. -/
theorem keepsEntries_put {fs : FileSystem} {dir : Location} {n : Name} (e : Entry)
    (hdir : fs.at? (dir ++ [n]) ≠ some .directory)
    (hlink : ∀ target, fs.at? (dir ++ [n]) ≠ some (.link target)) :
    KeepsEntries fs (fs.put dir n e) := by
  by_cases ha : fs.admits dir n e = true
  · have hother : ∀ {loc}, loc ≠ dir ++ [n] → (fs.put dir n e).at? loc = fs.at? loc := by
      intro loc hloc
      rw [at?_put ha, if_neg hloc]
    refine ⟨⟨by simp [put, ha], fun loc hat => ?_, fun loc target hat => ?_⟩, fun loc hat => ?_⟩
    · rwa [hother fun heq => hdir (heq ▸ hat)]
    · rwa [hother fun heq => hlink target (heq ▸ hat)]
    · rw [at?_put ha]
      split
      · simp
      · exact hat
  · rw [put, dif_neg ha]
    exact KeepsEntries.refl fs

theorem keepsEntries_makeDirectory {fs fs' : FileSystem} {p : Path}
    (h : fs.makeDirectory p = .ok fs') : KeepsEntries fs fs' := by
  obtain ⟨dir, n, _, -, hat, -, rfl⟩ := makeDirectory_eq_ok h
  exact keepsEntries_put _ (by simp [hat]) (by simp [hat])

/-- A write goes to where nothing stands or a file. -/
theorem writeTarget_eq_ok {fs : FileSystem} {p : Path} {dir : Location} {n : Name}
    {executable : Option Bool} (h : fs.writeTarget p = .ok (dir, n, executable)) :
    fs.at? (dir ++ [n]) ≠ some .directory ∧ ∀ target, fs.at? (dir ++ [n]) ≠ some (.link target) := by
  unfold writeTarget at h
  split at h
  · cases h
  · split at h
    · rename_i hat
      split at h <;> cases h
      simp [hat]
    · rename_i hat
      cases h
      simp [hat]
    · cases h
  · cases h

theorem keepsEntries_copyFile {fs fs' : FileSystem} {source p : Path}
    (h : fs.copyFile source p = .ok fs') : KeepsEntries fs fs' := by
  unfold copyFile at h
  split at h
  · cases h
  · split at h
    · cases h
    · rename_i hw
      cases h
      obtain ⟨hdir, hlink⟩ := writeTarget_eq_ok hw
      exact keepsEntries_put _ hdir hlink
  · cases h

/-- **Copying a tree keeps the entries**, wherever it stops. -/
theorem copyLevels_keepsEntries (fs : FileSystem) (depth : Nat) (source destination : Path) :
    KeepsEntries fs (Disk.left (copyLevels depth source destination fs)) :=
  copyLevels_left (fun _ _ _ h hm => h.trans (keepsEntries_makeDirectory hm))
    (fun _ _ _ _ h hc => h.trans (keepsEntries_copyFile hc)) (KeepsEntries.refl fs) depth source
    destination

/-! ## 4. Copying from two spellings -/

/-- Something is found by names below one spelling, and below the other these names are over the
    limit. -/
def OverLimit (fs : FileSystem) (p q : Path) : Prop :=
  ∃ ns found, fs.lstat? (q.under ns) = .ok found ∧ pathLimit ≤ (p.under ns).bytes.length

theorem OverLimit.of_join {fs : FileSystem} {p q : Path} {n : Name}
    (h : OverLimit fs (p.join ⟨n⟩) (q.join ⟨n⟩)) : OverLimit fs p q := by
  obtain ⟨ns, found, hfound, hlong⟩ := h
  exact ⟨n :: ns, found, hfound, hlong⟩

/-- Both copies do the same, or one stops at something whose path is too long in its spelling only. -/
inductive CopiesAlike (p q : Path) :
    EStateM.Result IoError FileSystem Unit → EStateM.Result IoError FileSystem Unit → Prop where
  | same (x) : CopiesAlike p q x x
  | first {fs : FileSystem} (h : OverLimit fs p q) (y) :
      CopiesAlike p q (.error (.os .nameTooLong) fs) y
  | second {fs : FileSystem} (h : OverLimit fs q p) (x) :
      CopiesAlike p q x (.error (.os .nameTooLong) fs)

theorem CopiesAlike.of_join {p q : Path} {n : Name}
    {x y : EStateM.Result IoError FileSystem Unit} (h : CopiesAlike (p.join ⟨n⟩) (q.join ⟨n⟩) x y) :
    CopiesAlike p q x y := by
  cases h with
  | same => exact .same x
  | first h => exact .first h.of_join y
  | second h => exact .second h.of_join x

/-- Items are acted on alike as long as what holds at the start is kept. -/
theorem each_copiesAlike {α : Type} {p q : Path} {act act' : α → Disk Unit}
    (inv : FileSystem → Prop) {items : List α}
    (hact : ∀ a ∈ items, ∀ fs, inv fs → CopiesAlike p q (act a fs) (act' a fs))
    (hinv : ∀ a ∈ items, ∀ fs, inv fs → inv (Disk.left (act a fs))) {fs : FileSystem}
    (h : inv fs) : CopiesAlike p q (each act items fs) (each act' items fs) := by
  induction items generalizing fs with
  | nil => exact .same _
  | cons a rest ih =>
    have ha := hact a List.mem_cons_self fs h
    have hleft := hinv a List.mem_cons_self fs h
    simp only [each]
    generalize act a fs = x, act' a fs = y at ha hleft
    cases ha with
    | same =>
      cases x with
      | error e fs₁ => exact .same _
      | ok _ fs₁ =>
        exact ih (fun b hb => hact b (List.mem_cons_of_mem _ hb))
          (fun b hb => hinv b (List.mem_cons_of_mem _ hb)) hleft
    | first h => exact .first h _
    | second h => exact .second h _

/-- One reading by two spellings gives the same, or is refused as too long in one of them. -/
inductive ReadsAlike {α : Type} (fs : FileSystem) (p q : Path) :
    Except IoError α → Except IoError α → Prop where
  | same (x) : ReadsAlike fs p q x x
  | first (h : OverLimit fs p q) (y) : ReadsAlike fs p q (.error (.os .nameTooLong)) y
  | second (h : OverLimit fs q p) (x) : ReadsAlike fs p q x (.error (.os .nameTooLong))

section Join

variable {fs : FileSystem} {p q : Path} (h : p.components = q.components) {loc : Location}
  (hl : fs.Leads p loc) {n : Name} (hn : Name.isOrdinary n = true)
  (hat : fs.at? (loc ++ [n]) ≠ none)

include h hn

theorem components_join_spelling : (p.join ⟨n⟩).components = (q.join ⟨n⟩).components := by
  rw [components_join_name p hn, components_join_name q hn, h]

include hl hat

/-- What stands at a name is over the limit from one spelling only, if the name is not too long. -/
theorem overLimit_join (hlong : pathLimit ≤ (p.join ⟨n⟩).bytes.length)
    (hc : nameCheck q n = .ok ()) : OverLimit fs (p.join ⟨n⟩) (q.join ⟨n⟩) := by
  obtain ⟨e, he⟩ := Option.ne_none_iff_exists'.1 hat
  refine ⟨[], (loc ++ [n], e), ?_, hlong⟩
  rw [under_nil, lstat?_join (leads_spelling h hl) hn hc, he]
  rfl

/-- **A name behind two spellings is read alike** by whatever refuses what a look-up refuses. -/
theorem readsAlike_join {α : Type} (read : Path → Except IoError α)
    (hrefuse : ∀ {r : Path} {e : IoError}, fs.Leads r loc → nameCheck r n = .error e →
      read (r.join ⟨n⟩) = .error e)
    (hsame : checkPath (q.join ⟨n⟩) = checkPath (p.join ⟨n⟩) →
      read (q.join ⟨n⟩) = read (p.join ⟨n⟩)) :
    ReadsAlike fs (p.join ⟨n⟩) (q.join ⟨n⟩) (read (p.join ⟨n⟩)) (read (q.join ⟨n⟩)) := by
  have hlong : ∀ {r : Path}, checkPath (r.join ⟨n⟩) = .error (.os .nameTooLong) →
      nameCheck r n = .error (.os .nameTooLong) := fun hc => by simp only [nameCheck, hc]
  have hname : ∀ {r : Path}, checkPath (r.join ⟨n⟩) = .ok () →
      nameCheck r n = .ok () ∨ nameCheck r n = .error (.os .nameTooLong) := by
    intro r hc
    by_cases hlength : nameLimit < n.length <;> simp [nameCheck, hc, hlength]
  have hq := leads_spelling h hl
  rcases checkPath_cases (components_join_spelling h hn) with hc | ⟨hp, hc, hc'⟩ | ⟨hp, hc, hc'⟩
  · rw [hsame hc]
    exact .same _
  · rw [hrefuse hl (hlong hc)]
    rcases hname hc' with hok | herror
    · exact .first (overLimit_join h hl hn hat hp hok) _
    · rw [hrefuse hq herror]
      exact .same _
  · rw [hrefuse hq (hlong hc)]
    rcases hname hc' with hok | herror
    · exact .second (overLimit_join h.symm hq hn hat hp hok) _
    · rw [hrefuse hl herror]
      exact .same _

end Join

/-- The copier does the same from two spellings of what stands at a name, or stops at a limit. -/
def SpellsAlike (tree : Path → Path → Disk Unit) : Prop :=
  ∀ (fs : FileSystem) (p q destination : Path) (loc : Location) (n : Name),
    p.components = q.components → fs.Leads p loc → Name.isOrdinary n = true →
    fs.at? (loc ++ [n]) ≠ none →
    CopiesAlike (p.join ⟨n⟩) (q.join ⟨n⟩) (tree (p.join ⟨n⟩) destination fs)
      (tree (q.join ⟨n⟩) destination fs)

section Copy

variable {fs : FileSystem} {p q : Path} (h : p.components = q.components) {loc : Location}
  (hl : fs.Leads p loc)

include h hl

theorem copyFile_alike (destination : Path) {n : Name} (hn : Name.isOrdinary n = true)
    (hat : fs.at? (loc ++ [n]) ≠ none) :
    CopiesAlike (p.join ⟨n⟩) (q.join ⟨n⟩)
      (Disk.change (fun fs => fs.copyFile (p.join ⟨n⟩) destination) fs)
      (Disk.change (fun fs => fs.copyFile (q.join ⟨n⟩) destination) fs) := by
  have hread := readsAlike_join h hl hn hat fs.stat?
    (fun hr hc => stat?_join_error hr hn hc) (stat?_spelling h hn)
  simp only [Disk.change, copyFile]
  generalize fs.stat? (p.join ⟨n⟩) = x, fs.stat? (q.join ⟨n⟩) = y at hread
  cases hread with
  | same => exact .same _
  | first h => exact .first h _
  | second h => exact .second h _

/-- **The entries of a directory are copied alike** from two spellings of it. -/
theorem copyEntries_alike {tree : Path → Path → Disk Unit} (htree : SpellsAlike tree)
    (hkeep : ∀ fs source destination,
      KeepsEntries fs (Disk.left (tree source destination fs))) (destination : Path) :
    CopiesAlike p q (each (copyEntry tree p destination) (fs.children loc) fs)
      (each (copyEntry tree q destination) (fs.children loc) fs) := by
  refine each_copiesAlike (KeepsEntries fs) ?_ ?_ (KeepsEntries.refl fs)
  · rintro ⟨n, e⟩ hmem fs' hk
    have hn : Name.isOrdinary n = true := isOrdinary_of_mem_children hmem
    have hl' : fs'.Leads p loc := hl.mono hk.toKeepsWays
    have hat : fs'.at? (loc ++ [n]) ≠ none := hk.present _ (by simp [mem_children.1 hmem])
    cases e with
    | directory => exact (htree fs' p q _ loc n h hl' hn hat).of_join
    | file _ _ => exact (copyFile_alike h hl' _ hn hat).of_join
    | link _ => exact (copyFile_alike h hl' _ hn hat).of_join
  · rintro ⟨n, e⟩ hmem fs' hk
    have hfile : KeepsEntries fs' (Disk.left (Disk.change
        (fun fs => fs.copyFile (p.join ⟨n⟩) (destination.join ⟨n⟩)) fs')) := by
      unfold Disk.change
      split
      · exact keepsEntries_copyFile (by assumption)
      · exact KeepsEntries.refl _
    cases e with
    | directory => exact hk.trans (hkeep _ _ _)
    | file _ _ => exact hk.trans hfile
    | link _ => exact hk.trans hfile

end Copy

/-- A tree is copied alike from two spellings by which its directory is read alike. -/
theorem copyLevels_succ_alike {depth : Nat} (hdeeper : SpellsAlike (copyLevels depth))
    {fs : FileSystem} {p q destination : Path} (h : p.components = q.components)
    (hread : ∀ fs₁, makeDirectories destination fs = .ok () fs₁ →
      ReadsAlike fs₁ p q (fs₁.readDirectory p) (fs₁.readDirectory q)) :
    CopiesAlike p q (copyLevels (depth + 1) p destination fs)
      (copyLevels (depth + 1) q destination fs) := by
  cases hm : makeDirectories destination fs with
  | error e fs₁ =>
    simp only [copyLevels, hm]
    exact .same _
  | ok _ fs₁ =>
    have hread := hread fs₁ hm
    simp only [copyLevels, hm]
    cases hp : fs₁.readDirectory p with
    | error e =>
      rw [hp] at hread
      generalize fs₁.readDirectory q = y at hread
      cases hread with
      | same => exact .same _
      | first h => exact .first h _
      | second h => exact .second h _
    | ok entries =>
      obtain ⟨loc, hstat, rfl⟩ := readDirectory_eq_ok hp
      rw [hp] at hread
      generalize fs₁.readDirectory q = y at hread
      cases hread with
      | same =>
        exact copyEntries_alike h (leads_of_stat? hstat) hdeeper
          (fun _ => copyLevels_keepsEntries _ depth) destination
      | second h => exact .second h _

/-- **A tree is copied alike from two spellings** of what stands at a name. The induction is on the
    depth. -/
theorem copyLevels_spellsAlike (depth : Nat) : SpellsAlike (copyLevels depth) := by
  induction depth with
  | zero => exact fun _ _ _ _ _ _ _ _ _ _ => .same _
  | succ depth ih =>
    intro fs p q destination loc n h hl hn hat
    refine copyLevels_succ_alike ih (components_join_spelling h hn) fun fs₁ hm => ?_
    have hmake := makeDirectories_left (fun _ _ _ h hm => h.trans (keepsEntries_makeDirectory hm))
      (KeepsEntries.refl fs) destination
    rw [hm, Disk.left_ok] at hmake
    exact readsAlike_join h (hl.mono hmake.toKeepsWays) hn (hmake.present _ hat) fs₁.readDirectory
      (fun hr hc => by simp only [readDirectory, stat?_join_error hr hn hc])
      (readDirectory_spelling (components_join_spelling h hn))

/-- **Two spellings within the limit are copied alike.** -/
theorem copyLevels_alike (depth : Nat) {p q : Path} (h : p.components = q.components)
    (hp : p.bytes.length < pathLimit) (hq : q.bytes.length < pathLimit) (destination : Path)
    (fs : FileSystem) :
    CopiesAlike p q (copyLevels depth p destination fs) (copyLevels depth q destination fs) := by
  cases depth with
  | zero => exact .same _
  | succ depth =>
    refine copyLevels_succ_alike (copyLevels_spellsAlike depth) h fun fs₁ _ => ?_
    rw [readDirectory_spelling h (checkPath_spelling h hp hq)]
    exact .same _

end FileSystem

/-! ## 5. Building under two spellings -/

/-- The worlds differ at most in the calls that are recorded. -/
def SameButCalls (w w' : World (Counted (List ToolCall))) : Prop :=
  w'.files = w.files ∧ w'.tools.seen = w.tools.seen

/-- The error of a folder as it reads under another spelling of the folder. -/
def PackageError.spelled (folder : Path) : PackageError → PackageError
  | .unnamedFolder _ => .unnamedFolder folder
  | .reservedName _ => .reservedName folder
  | e => e

section Build

variable {r : Rehearsal} {faults : List Fault} {layout : Layout} {options : PackageOptions}
  {w w' : World (Counted (List ToolCall))}

/-- A call does the same whatever calls were recorded. -/
theorem run_sameButCalls (call : ToolCall) (h : SameButCalls w w') :
    Agree SameButCalls ((r.toolchain.withFaults faults).run call w)
      ((r.toolchain.withFaults faults).run call w') := by
  obtain ⟨files, ⟨calls, seen⟩⟩ := w
  obtain ⟨files', ⟨calls', seen'⟩⟩ := w'
  obtain ⟨rfl, rfl⟩ : files' = files ∧ seen' = seen := h
  simp only [Toolchain.withFaults, Rehearsal.toolchain]
  split
  · exact .error _ ⟨rfl, rfl⟩
  · cases r.perform call files' with
    | ok _ files => exact .ok () ⟨rfl, rfl⟩
    | error e files => exact .error e ⟨rfl, rfl⟩

/-- The outcomes and the worlds of two builds are the same, or one stops at something whose path is
    too long in its spelling of the folder only. -/
inductive BuildsAlike {α : Type} (typst p q : Path) :
    EStateM.Result PackageError (World (Counted (List ToolCall))) α →
    EStateM.Result PackageError (World (Counted (List ToolCall))) α → Prop where
  | same {x y} (h : Agree SameButCalls x y) : BuildsAlike typst p q x y
  | first {w : World (Counted (List ToolCall))} (h : OverLimit w.files p q) (y) :
      BuildsAlike typst p q (.error (.copySource typst (.io (.os .nameTooLong))) w) y
  | second {w : World (Counted (List ToolCall))} (h : OverLimit w.files q p) (x) :
      BuildsAlike typst p q x (.error (.copySource typst (.io (.os .nameTooLong))) w)

theorem onFiles_sameButCalls {ε α : Type} (wrap : IoError → ε) (act : Disk α)
    (h : SameButCalls w w') :
    Agree SameButCalls (World.onFiles wrap act w) (World.onFiles wrap act w') := by
  simp only [World.onFiles, h.1]
  cases act w.files with
  | ok a files => exact .ok a ⟨rfl, h.2⟩
  | error e files => exact .error _ ⟨rfl, h.2⟩

/-- Builds that are alike go on alike. -/
theorem BuildsAlike.bind {α β : Type} {typst p q : Path}
    {f g : EStateM PackageError (World (Counted (List ToolCall))) α}
    {f' g' : α → EStateM PackageError (World (Counted (List ToolCall))) β}
    (h : BuildsAlike typst p q (f w) (g w'))
    (h' : ∀ a s t, SameButCalls s t → Agree SameButCalls (f' a s) (g' a t)) :
    BuildsAlike typst p q ((f >>= f') w) ((g >>= g') w') := by
  change BuildsAlike typst p q (EStateM.bind f f' w) (EStateM.bind g g' w')
  unfold EStateM.bind
  generalize f w = x, g w' = y at h ⊢
  cases h with
  | same h =>
    cases h with
    | ok a h => exact .same (h' a _ _ h)
    | error e h => exact .same (.error e h)
  | first h => exact .first h _
  | second h => exact .second h _

/-- What asking for a copy comes to: the fault that it meets, or what copying comes to. -/
theorem askCopy_eq (p typst : Path) (w : World (Counted (List ToolCall))) :
    let seen := ToolCall.Kind.copyTree :: w.tools.seen
    let calls := w.tools.inner ++ [.copyTree p typst]
    Package.ask (r.toolchain.withFaults faults) (.copyTree p typst) (.copySource typst) w =
      match Fault.meets? faults .copyTree (seen.count .copyTree) with
      | some fault => .error (.copySource typst fault.error) ⟨w.files, ⟨w.tools.inner, seen⟩⟩
      | none =>
        match copyTree p typst w.files with
        | .ok () files => .ok () ⟨files, ⟨calls, seen⟩⟩
        | .error e files => .error (.copySource typst (.io e)) ⟨files, ⟨calls, seen⟩⟩ := by
  simp only [Package.ask, Toolchain.withFaults, Rehearsal.toolchain, ToolCall.kind,
    Rehearsal.perform]
  cases Fault.meets? faults .copyTree
    ((ToolCall.Kind.copyTree :: w.tools.seen).count .copyTree) with
  | some fault => rfl
  | none => cases copyTree p typst w.files <;> rfl

section Spelling

variable {p q : Path} (h : p.components = q.components) (hp : p.bytes.length < pathLimit)
  (hq : q.bytes.length < pathLimit)

include h hp hq

/-- **The source is copied alike.** -/
theorem askCopy_alike (typst : Path) (w : World (Counted (List ToolCall))) :
    BuildsAlike typst p q
      (Package.ask (r.toolchain.withFaults faults) (.copyTree p typst) (.copySource typst) w)
      (Package.ask (r.toolchain.withFaults faults) (.copyTree q typst) (.copySource typst) w) := by
  rw [askCopy_eq, askCopy_eq]
  cases Fault.meets? faults .copyTree
    ((ToolCall.Kind.copyTree :: w.tools.seen).count .copyTree) with
  | some fault => exact .same (.error _ ⟨rfl, rfl⟩)
  | none =>
    have hcopy := copyLevels_alike pathLimit h hp hq typst w.files
    simp only [copyTree]
    generalize copyLevels pathLimit p typst w.files = x,
      copyLevels pathLimit q typst w.files = y at hcopy
    cases hcopy with
    | same =>
      cases x with
      | ok _ files => exact .same (.ok () ⟨rfl, rfl⟩)
      | error e files => exact .same (.error _ ⟨rfl, rfl⟩)
    | first hover => exact .first (w := ⟨_, ⟨_, _⟩⟩) hover _
    | second hover => exact .second (w := ⟨_, ⟨_, _⟩⟩) hover _

/-- **A package is filled alike**: behind the source nothing reads the folder. -/
theorem fill_alike (paths : PackagePaths) (w : World (Counted (List ToolCall))) :
    BuildsAlike paths.typst p q
      (Package.fill (r.toolchain.withFaults faults) layout options p paths w)
      (Package.fill (r.toolchain.withFaults faults) layout options q paths w) := by
  have hask : ∀ {call : ToolCall} (wrap : ToolError → PackageError)
      {a b : World (Counted (List ToolCall))}, SameButCalls a b →
      Agree SameButCalls (Package.ask (r.toolchain.withFaults faults) call wrap a)
        (Package.ask (r.toolchain.withFaults faults) call wrap b) :=
    fun wrap _ _ hab => ask_agree wrap (run_sameButCalls _ hab)
  refine (askCopy_alike h hp hq paths.typst w).bind fun _ a b hab => ?_
  refine (onFiles_sameButCalls _ _ hab).bind fun _ a b hab => ?_
  exact (hask _ hab).bind fun _ a b hab => hask _ hab

end Spelling

end Build

/-- What goes wrong while a package is filled is not about the folder's name. -/
theorem spelled_of_fill {σ : Type} {tools : Toolchain σ} {layout : Layout}
    {options : PackageOptions} {folder : Path} {paths : PackagePaths} {w w' : World σ}
    {e : PackageError} (other : Path)
    (h : Package.fill tools layout options folder paths w = .error e w') : e.spelled other = e := by
  rcases fill_eq_error h with ⟨e', -, rfl⟩ | ⟨w₁, -, ⟨e', -, rfl, -⟩ | ⟨fs₂, -, hrest⟩⟩
  · rfl
  · rfl
  · rcases hrest with ⟨e', -, rfl⟩ | ⟨w₃, -, e', -, rfl⟩
    · rfl
    · rfl

/-- A build stops at something below its folder whose path is over the limit, while the same thing is
    found from another spelling of the folder. -/
def StopsShort (layout : Layout) (options : PackageOptions) (folder other : TemplateFolder)
    (ended : EStateM.Result PackageError (World (Counted (List ToolCall))) TemplatePackage) : Prop :=
  ∃ name w', folder.name? = some name ∧
    ended = .error (.copySource (layout.package name options.entryPoint).typst
      (.io (.os .nameTooLong))) w' ∧
    OverLimit w'.files folder.path other.path

/-- **A folder is built alike however it is spelled.** Two spellings within the limit have the same
    name, so it is the same package that is replaced. The builds come to the same package or to the
    same error, about the folder as it is spelled, and leave the same files, whatever calls meet
    faults. The only exception is that copying stops at something below the folder whose path is over
    the limit behind one spelling and not behind the other. -/
theorem generate_spellings (r : Rehearsal) (faults : List Fault) (layout : Layout)
    (options : PackageOptions) {f g : TemplateFolder} (h : f.same g = true)
    (hf : f.path.bytes.length < pathLimit) (hg : g.path.bytes.length < pathLimit)
    (w : World (Counted (List ToolCall))) :
    let build := fun folder => generate (r.toolchain.withFaults faults) layout options folder w
    f.name? = g.name? ∧
      (Disk.outcome (build g) =
            (Disk.outcome (build f)).mapError (PackageError.spelled g.path) ∧
          SameButCalls (Disk.left (build f)) (Disk.left (build g)) ∨
        StopsShort layout options f g (build f) ∨ StopsShort layout options g f (build g)) := by
  intro build
  have hcomponents : f.path.components = g.path.components := of_decide_eq_true h
  have hname : f.name? = g.name? := by
    simp only [TemplateFolder.name?, fileName, hcomponents]
  refine ⟨hname, ?_⟩
  cases hn : f.name? with
  | none =>
    refine Or.inl ?_
    simp only [build, generate, hn, hname.symm.trans hn]
    exact ⟨rfl, rfl, rfl⟩
  | some name =>
    have hn' : g.name? = some name := hname.symm.trans hn
    by_cases hreserved : name = Text.Utf8.bytes Layout.referencePackage
    · refine Or.inl ?_
      simp only [build, generate, hn, hn', if_pos hreserved]
      exact ⟨rfl, rfl, rfl⟩
    · cases hprepare : Package.prepare (layout.packageDir name) w.files with
      | error e fs =>
        refine Or.inl ?_
        simp only [build, generate_unprepared ⟨hn, hreserved⟩ hprepare,
          generate_unprepared ⟨hn', hreserved⟩ hprepare]
        exact ⟨rfl, rfl, rfl⟩
      | ok _ fs =>
        let fill (folder : Path) := Package.fill (r.toolchain.withFaults faults) layout options folder
          (layout.package name options.entryPoint) { w with files := fs }
        have hfill : BuildsAlike _ f.path g.path (fill f.path) (fill g.path) :=
          fill_alike hcomponents hf hg _ _
        have hspelled : ∀ e w', fill f.path = .error e w' → e.spelled g.path = e :=
          fun e w' => spelled_of_fill g.path
        simp only [build, generate_prepared ⟨hn, hreserved⟩ hprepare,
          generate_prepared ⟨hn', hreserved⟩ hprepare]
        simp only [fill] at hfill hspelled
        generalize Package.fill _ layout options f.path _ _ = x,
          Package.fill _ layout options g.path _ _ = y at hfill hspelled
        cases hfill with
        | same hagree =>
          cases hagree with
          | ok _ hab => exact Or.inl ⟨rfl, hab⟩
          | error e hab =>
            refine Or.inl ⟨?_, hab⟩
            simp only [Disk.outcome_error, Except.mapError, hspelled e _ rfl]
        | first hover => exact Or.inr (Or.inl ⟨name, _, hn, rfl, hover⟩)
        | second hover => exact Or.inr (Or.inr ⟨name, _, hn', rfl, hover⟩)

theorem generate_spellings_workshop :
    let r : Rehearsal := {}
    let faults : List Fault := [⟨.rasterize, some 2, .io (.os .notFound)⟩]
    let layout : Layout := ⟨.ofString "T"⟩
    let f : TemplateFolder := ⟨.ofString "s/x"⟩
    let g : TemplateFolder := ⟨.ofString "s//./x/./"⟩
    let w : World (Counted (List ToolCall)) := ⟨workshop, ⟨[], []⟩⟩
    let build := fun folder => generate (r.toolchain.withFaults faults) layout {} folder w
    (f.same g = true ∧ f.path.bytes.length < pathLimit ∧ g.path.bytes.length < pathLimit) ∧
      f.name? = g.name? ∧
      (Disk.outcome (build g) =
            (Disk.outcome (build f)).mapError (PackageError.spelled g.path) ∧
          SameButCalls (Disk.left (build f)) (Disk.left (build g)) ∨
        StopsShort layout {} f g (build f) ∨ StopsShort layout {} g f (build g)) :=
  ⟨⟨by decide, by decide, by decide⟩,
    generate_spellings {} _ _ {} (by decide) (by decide) (by decide) _⟩

set_option maxRecDepth 20000 in
/-- **A long spelling may stop where a short one does not**: the folder's path is within the limit in
    both, and that of its document in one only. -/
theorem generate_spellings_padded :
    let f : TemplateFolder := ⟨.ofString "s/x"⟩
    let g : TemplateFolder :=
      ⟨⟨Text.Utf8.bytes "s/" ++ (List.replicate 2043 [0x2E, 0x2F]).flatten ++ Text.Utf8.bytes "x"⟩⟩
    let w : World (Counted (List ToolCall)) := ⟨workshop, ⟨[], []⟩⟩
    let tools := (Rehearsal.toolchain {}).withFaults []
    let layout : Layout := ⟨.ofString "T"⟩
    f.same g = true ∧ f.path.bytes.length < pathLimit ∧ g.path.bytes.length < pathLimit ∧
      Disk.outcome (generate tools layout {} f w) =
        .ok (Package.report (Text.Utf8.bytes "x") (layout.package (Text.Utf8.bytes "x") "main.typ")) ∧
      Disk.outcome (generate tools layout {} g w) =
        .error (.copySource (.ofString "T/x.sr/Typst") (.io (.os .nameTooLong))) := by
  refine ⟨by decide +kernel, by decide +kernel, by decide +kernel, by decide +kernel,
    by decide +kernel⟩

end TemplatePress
