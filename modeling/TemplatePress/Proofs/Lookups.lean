import TemplatePress.FileSystem.Lookup
import TemplatePress.Proofs.Paths

/-!
# Where look-ups lead

* `walk_append`: a walk along two rows of steps is the walk along the second row from the directory
  that the first row leads to;
* `walk_mono`: a walk that succeeds goes the same way wherever its directories and links still
  stand;
* `Leads`: a path leads to a directory, all links followed. What is looked up by a name behind such
  a path is looked up in that directory (`spot_join`), unless the path or the name is over its
  limit (`nameCheck`);
* `stat?_of_extends`: what a path leads to stays when entries are added.
-/

namespace TemplatePress.FileSystem

open TemplatePress.Path (Step)

/-! ## 1. Entries and what stands above them -/

theorem isDirectory_iff {fs : FileSystem} {loc : Location} :
    fs.isDirectory loc = true ↔ fs.at? loc = some .directory := by
  simp [isDirectory]

/-- **Below a location where no directory stands there is nothing.** -/
theorem at?_append_eq_none {fs : FileSystem} {loc : Location}
    (h : fs.at? loc ≠ some .directory) {ns : List Name} (hns : ns ≠ []) :
    fs.at? (loc ++ ns) = none := by
  obtain ⟨front, n, rfl⟩ := (List.eq_nil_or_concat' ns).resolve_left hns
  cases hat : fs.at? (loc ++ (front ++ [n])) with
  | none => rfl
  | some e =>
    have hdir : fs.isDirectory (loc ++ front) = true :=
      isDirectory_of_at? (n := n) (e := e) (by rw [List.append_assoc]; exact hat)
    exact absurd (isDirectory_iff.1 (isDirectory_of_append front hdir)) h

theorem at?_cons_eq_none {fs : FileSystem} {loc : Location} {n : Name}
    (h : fs.at? (loc ++ [n]) ≠ some .directory) {ns : List Name} (hns : ns ≠ []) :
    fs.at? (loc ++ n :: ns) = none := by
  rw [List.append_cons]
  exact at?_append_eq_none h hns

/-! ## 2. Walks -/

/-- How a walk with so many links left goes on behind a link. -/
def beyond (fs : FileSystem) (follow : Bool) : Nat → Walk
  | 0 => fun _ _ _ => .error .linkLoop
  | links + 1 => fs.walk follow links

theorem walk_eq (fs : FileSystem) (follow : Bool) (links : Nat) (dir : Location)
    (steps : List Step) (slash : Bool) :
    fs.walk follow links dir steps slash =
      fs.walkSteps follow (fs.beyond follow links) dir steps slash := by
  cases links with
  | zero => exact walk_zero fs follow dir steps slash
  | succ links => exact walk_succ fs follow links dir steps slash

section Steps

variable {fs : FileSystem} {follow slash : Bool} {expand : Walk} {dir : Location} {n : Name}
  {rest : List Step} {s : Spot}

theorem walkSteps_stay (h : rest ≠ []) :
    fs.walkSteps follow expand dir (.stay :: rest) slash =
      fs.walkSteps follow expand dir rest slash := by
  simp [walkSteps, h]

theorem walkSteps_up (h : rest ≠ []) :
    fs.walkSteps follow expand dir (.up :: rest) slash =
      fs.walkSteps follow expand dir.above rest slash := by
  simp [walkSteps, h]

theorem walkSteps_enter_directory (h : rest ≠ []) (hn : n.length ≤ nameLimit)
    (hat : fs.at? (dir ++ [n]) = some .directory) :
    fs.walkSteps follow expand dir (.enter n :: rest) slash =
      fs.walkSteps follow expand (dir ++ [n]) rest slash := by
  have hn' : ¬ nameLimit < n.length := by omega
  simp [walkSteps, h, hn', hat]

theorem walkSteps_enter_link (h : rest ≠ []) (hn : n.length ≤ nameLimit) {target : Path}
    (hat : fs.at? (dir ++ [n]) = some (.link target)) :
    fs.walkSteps follow expand dir (.enter n :: rest) slash =
      expand (linkBase dir target) (target.steps ++ rest) slash := by
  have hn' : ¬ nameLimit < n.length := by omega
  simp [walkSteps, h, hn', hat]

/-- A name that is not the last one is passed through a directory or a link. -/
theorem walkSteps_enter_ok (h : rest ≠ [])
    (hs : fs.walkSteps follow expand dir (.enter n :: rest) slash = .ok s) :
    n.length ≤ nameLimit ∧
      ((fs.at? (dir ++ [n]) = some .directory ∧
        fs.walkSteps follow expand (dir ++ [n]) rest slash = .ok s) ∨
      ∃ target, fs.at? (dir ++ [n]) = some (.link target) ∧
        expand (linkBase dir target) (target.steps ++ rest) slash = .ok s) := by
  by_cases hn : nameLimit < n.length
  · simp [walkSteps, hn] at hs
  · refine ⟨by omega, ?_⟩
    cases hat : fs.at? (dir ++ [n]) with
    | none => simp [walkSteps, h, hn, hat] at hs
    | some e =>
      cases e with
      | directory =>
        rw [walkSteps_enter_directory h (by omega) hat] at hs
        exact Or.inl ⟨rfl, hs⟩
      | file content executable => simp [walkSteps, h, hn, hat] at hs
      | link target =>
        rw [walkSteps_enter_link h (by omega) hat] at hs
        exact Or.inr ⟨target, rfl, hs⟩

theorem walkSteps_last_link (hn : n.length ≤ nameLimit) {target : Path}
    (hat : fs.at? (dir ++ [n]) = some (.link target)) :
    fs.walkSteps true expand dir [.enter n] slash =
      expand (linkBase dir target) target.steps (slash || target.endsInSeparator) := by
  have hn' : ¬ nameLimit < n.length := by omega
  simp [walkSteps, hn', hat]

theorem walkSteps_last (hn : n.length ≤ nameLimit)
    (h : follow = true → ∀ target, fs.at? (dir ++ [n]) ≠ some (.link target)) :
    fs.walkSteps follow expand dir [.enter n] slash = .ok ⟨dir, .enter n, slash⟩ := by
  have hn' : ¬ nameLimit < n.length := by omega
  cases hat : fs.at? (dir ++ [n]) with
  | none => simp [walkSteps, hn', hat]
  | some e =>
    cases e with
    | directory => simp [walkSteps, hn', hat]
    | file content executable => simp [walkSteps, hn', hat]
    | link target =>
      cases follow with
      | false => simp [walkSteps, hn', hat]
      | true => exact absurd hat (h rfl target)

/-- The last name is where the walk ends, unless it is that of a link to be followed. -/
theorem walkSteps_last_ok (hs : fs.walkSteps follow expand dir [.enter n] slash = .ok s) :
    n.length ≤ nameLimit ∧
      (((follow = true → ∀ target, fs.at? (dir ++ [n]) ≠ some (.link target)) ∧
        s = ⟨dir, .enter n, slash⟩) ∨
      ∃ target, follow = true ∧ fs.at? (dir ++ [n]) = some (.link target) ∧
        expand (linkBase dir target) target.steps (slash || target.endsInSeparator) = .ok s) := by
  by_cases hn : nameLimit < n.length
  · simp [walkSteps, hn] at hs
  · refine ⟨by omega, ?_⟩
    by_cases hl : ∃ target, follow = true ∧ fs.at? (dir ++ [n]) = some (.link target)
    · obtain ⟨target, rfl, hat⟩ := hl
      rw [walkSteps_last_link (by omega) hat] at hs
      exact Or.inr ⟨target, rfl, hat, hs⟩
    · have hnot : follow = true → ∀ target, fs.at? (dir ++ [n]) ≠ some (.link target) :=
        fun hf target hat => hl ⟨target, hf, hat⟩
      rw [walkSteps_last (by omega) hnot] at hs
      cases hs
      exact Or.inl ⟨hnot, rfl⟩

/-- Where links are not followed at the end, a walk ends at its last name. -/
theorem eq_of_walkSteps_last (hs : fs.walkSteps false expand dir [.enter n] slash = .ok s) :
    s = ⟨dir, .enter n, slash⟩ := by
  obtain ⟨-, ⟨-, hs⟩ | ⟨target, hf, -⟩⟩ := walkSteps_last_ok hs
  · exact hs
  · cases hf

theorem walkSteps_last_error (hn : nameLimit < n.length) :
    fs.walkSteps follow expand dir [.enter n] slash = .error .nameTooLong := by
  simp [walkSteps, hn]

end Steps

/-- The second part of a walk starts where the first part led. Its links are those that are left. -/
def GoesOn (fs : FileSystem) (follow : Bool) (first whole : Walk) : Prop :=
  ∀ (dir : Location) (steps : List Step) (slash : Bool) (s : Spot),
    first dir steps slash = .ok s → fs.isDirectory s.location = true →
    ∀ (rest : List Step) (slash' : Bool), rest ≠ [] →
      ∃ links, whole dir (steps ++ rest) slash' = fs.walk follow links s.location rest slash'

theorem goesOn_walk_of_beyond {fs : FileSystem} {follow : Bool} {links : Nat}
    (hb : GoesOn fs follow (fs.beyond true links) (fs.beyond follow links)) :
    GoesOn fs follow (fs.walk true links) (fs.walk follow links) := by
  intro dir steps slash s h hdir rest slash' hrest
  rw [walk_eq] at h
  -- along the steps: a step that is taken leaves a shorter row, a link hands over to `hb`
  induction steps generalizing dir with
  | nil =>
    cases h
    exact ⟨links, rfl⟩
  | cons step steps ih =>
    have happend : steps ++ rest ≠ [] := by simp [hrest]
    rw [List.cons_append, walk_eq]
    cases step with
    | stay =>
      rw [walkSteps_stay happend, ← walk_eq]
      cases steps with
      | nil =>
        cases h
        exact ⟨links, rfl⟩
      | cons next steps =>
        rw [walkSteps_stay (by simp)] at h
        exact ih _ h
    | up =>
      rw [walkSteps_up happend, ← walk_eq]
      cases steps with
      | nil =>
        cases h
        exact ⟨links, rfl⟩
      | cons next steps =>
        rw [walkSteps_up (by simp)] at h
        exact ih _ h
    | enter n =>
      cases steps with
      | nil =>
        obtain ⟨hn, ⟨-, rfl⟩ | ⟨target, -, hat, hs⟩⟩ := walkSteps_last_ok h
        · rw [walkSteps_enter_directory happend hn (isDirectory_iff.1 hdir), ← walk_eq]
          exact ⟨links, rfl⟩
        · rw [walkSteps_enter_link happend hn hat]
          exact hb _ _ _ _ hs hdir _ slash' hrest
      | cons next steps =>
        obtain ⟨hn, ⟨hat, hs⟩ | ⟨target, hat, hs⟩⟩ := walkSteps_enter_ok (by simp) h
        · rw [walkSteps_enter_directory happend hn hat, ← walk_eq]
          exact ih _ hs
        · rw [walkSteps_enter_link happend hn hat, ← List.append_assoc]
          exact hb _ _ _ _ hs hdir _ slash' hrest

/-- **A walk along two rows of steps is the walk along the second from where the first leads.** -/
theorem walk_append (fs : FileSystem) (follow : Bool) (links : Nat) :
    GoesOn fs follow (fs.walk true links) (fs.walk follow links) := by
  induction links with
  | zero =>
    refine goesOn_walk_of_beyond fun dir steps slash s h => ?_
    cases h
  | succ links ih => exact goesOn_walk_of_beyond ih

/-! ## 3. Walks in a file system that keeps the way -/

/-- Every directory and every link of one file system also stands in the other. -/
structure KeepsWays (fs fs' : FileSystem) : Prop where
  home : fs'.home = fs.home
  directory : ∀ loc, fs.at? loc = some .directory → fs'.at? loc = some .directory
  link : ∀ loc target, fs.at? loc = some (.link target) → fs'.at? loc = some (.link target)

/-- A spot of one walk is the spot of the other, unless a new link stands there to be followed. -/
def Repeats (fs fs' : FileSystem) (follow : Bool) (one other : Walk) : Prop :=
  ∀ (dir : Location) (steps : List Step) (slash : Bool) (s : Spot),
    one dir steps slash = .ok s →
    (follow = true → ∀ target, fs'.at? s.location = some (.link target) →
      fs.at? s.location = some (.link target)) →
    other dir steps slash = .ok s

theorem repeats_walk_of_beyond {fs fs' : FileSystem} {follow : Bool} {links : Nat}
    (hk : KeepsWays fs fs')
    (hb : Repeats fs fs' follow (fs.beyond follow links) (fs'.beyond follow links)) :
    Repeats fs fs' follow (fs.walk follow links) (fs'.walk follow links) := by
  intro dir steps slash s h hnew
  rw [walk_eq] at h ⊢
  induction steps generalizing dir with
  | nil => exact h
  | cons step steps ih =>
    cases steps with
    | nil =>
      cases step with
      | stay => exact h
      | up => exact h
      | enter n =>
        obtain ⟨hn, ⟨hlink, rfl⟩ | ⟨target, rfl, hat, hs⟩⟩ := walkSteps_last_ok h
        · exact walkSteps_last hn fun hf target hat => hlink hf target (hnew hf target hat)
        · rw [walkSteps_last_link hn (hk.link _ _ hat)]
          exact hb _ _ _ _ hs hnew
    | cons next steps =>
      have hne : next :: steps ≠ [] := by simp
      cases step with
      | stay =>
        rw [walkSteps_stay hne] at h ⊢
        exact ih _ h
      | up =>
        rw [walkSteps_up hne] at h ⊢
        exact ih _ h
      | enter n =>
        obtain ⟨hn, ⟨hat, hs⟩ | ⟨target, hat, hs⟩⟩ := walkSteps_enter_ok hne h
        · rw [walkSteps_enter_directory hne hn (hk.directory _ hat)]
          exact ih _ hs
        · rw [walkSteps_enter_link hne hn (hk.link _ _ hat)]
          exact hb _ _ _ _ hs hnew

/-- **A walk that succeeds goes the same way wherever its directories and links still stand.** -/
theorem walk_mono {fs fs' : FileSystem} (hk : KeepsWays fs fs') (follow : Bool) (links : Nat) :
    Repeats fs fs' follow (fs.walk follow links) (fs'.walk follow links) := by
  induction links with
  | zero =>
    refine repeats_walk_of_beyond hk fun dir steps slash s h => ?_
    cases h
  | succ links ih => exact repeats_walk_of_beyond hk ih

/-! ## 4. Paths that lead to a directory -/

/-- Where the look-up of a path starts. -/
def start (fs : FileSystem) (p : Path) : Location :=
  if p.isAbsolute then [] else fs.home

theorem start_join (fs : FileSystem) (p : Path) {n : Name} (hn : Name.isOrdinary n = true) :
    fs.start (p.join ⟨n⟩) = fs.start p := by
  rw [start, start, Path.isAbsolute_join p (Path.isAbsolute_name hn)]

section Spot

variable {fs : FileSystem} {follow : Bool} {p : Path} {s : Spot}

/-- The walk behind a look-up that succeeds. -/
theorem spot_eq_ok :
    fs.spot follow p = .ok s ↔ checkPath p = .ok () ∧
      fs.walk follow linkLimit (fs.start p) p.steps p.endsInSeparator = .ok s := by
  simp only [spot, ← show fs.start p = if p.isAbsolute then [] else fs.home from rfl]
  cases checkPath p with
  | error e => simp
  | ok =>
    cases fs.walk follow linkLimit (fs.start p) p.steps p.endsInSeparator <;> simp

theorem spot_eq_error {e : IoError} :
    fs.spot follow p = .error e ↔ checkPath p = .error e ∨ checkPath p = .ok () ∧
      ∃ errno, e = .os errno ∧
        fs.walk follow linkLimit (fs.start p) p.steps p.endsInSeparator = .error errno := by
  simp only [spot, ← show fs.start p = if p.isAbsolute then [] else fs.home from rfl]
  cases checkPath p with
  | error e => simp
  | ok =>
    cases fs.walk follow linkLimit (fs.start p) p.steps p.endsInSeparator <;> simp [eq_comm]

/-- What a path leads to stands where its look-up ends. -/
theorem stat?_eq_ok {loc : Location} {e : Entry} :
    fs.stat? p = .ok (loc, e) ↔ ∃ s, fs.spot true p = .ok s ∧ s.location = loc ∧
      fs.at? loc = some e ∧ (s.slash = true → e.isDirectory = true) := by
  unfold stat?
  cases fs.spot true p with
  | error e => simp
  | ok s =>
    cases hat : fs.at? s.location with
    | none =>
      simp only [present, hat, Except.ok.injEq, exists_eq_left', reduceCtorEq, false_iff]
      rintro ⟨rfl, he, -⟩
      rw [hat] at he
      cases he
    | some e' =>
      simp only [present, hat, Except.ok.injEq, exists_eq_left']
      constructor
      · intro h
        split at h <;> cases h
        rename_i hslash
        exact ⟨rfl, hat, by simpa using hslash⟩
      · rintro ⟨rfl, he, hslash⟩
        cases hat.symm.trans he
        rw [if_neg (by simpa using hslash)]

theorem at?_of_stat? {loc : Location} {e : Entry} (h : fs.stat? p = .ok (loc, e)) :
    fs.at? loc = some e := by
  obtain ⟨s, -, -, hat, -⟩ := stat?_eq_ok.1 h
  exact hat

theorem leadsToDirectory_iff :
    fs.leadsToDirectory p = true ↔ ∃ loc, fs.stat? p = .ok (loc, .directory) := by
  unfold leadsToDirectory
  split
  · rename_i loc heq
    simp [heq]
  · rename_i hne
    simpa using hne

end Spot

/-- The path leads to the directory at the location, all links followed. -/
def Leads (fs : FileSystem) (p : Path) (loc : Location) : Prop :=
  ∃ s, fs.walk true linkLimit (fs.start p) p.steps p.endsInSeparator = .ok s ∧
    s.location = loc ∧ fs.isDirectory loc = true

theorem Leads.isDirectory {fs : FileSystem} {p : Path} {loc : Location} (h : fs.Leads p loc) :
    fs.isDirectory loc = true := by
  obtain ⟨_, _, _, hdir⟩ := h
  exact hdir

theorem Leads.unique {fs : FileSystem} {p : Path} {loc loc' : Location} (h : fs.Leads p loc)
    (h' : fs.Leads p loc') : loc = loc' := by
  obtain ⟨s, hs, rfl, -⟩ := h
  obtain ⟨s', hs', rfl, -⟩ := h'
  rw [hs] at hs'
  cases hs'
  rfl

/-- **A path keeps leading to its directory as long as directories and links stay.** -/
theorem Leads.mono {fs fs' : FileSystem} {p : Path} {loc : Location} (h : fs.Leads p loc)
    (hk : KeepsWays fs fs') : fs'.Leads p loc := by
  obtain ⟨s, hs, rfl, hdir⟩ := h
  have hdir' := hk.directory _ (isDirectory_iff.1 hdir)
  have hstart : fs'.start p = fs.start p := by simp only [start, hk.home]
  refine ⟨s, ?_, rfl, isDirectory_iff.2 hdir'⟩
  rw [hstart]
  refine walk_mono hk true linkLimit _ _ _ _ hs fun _ target ht => ?_
  rw [hdir'] at ht
  cases ht

/-- What is refused of a name behind a path before anything is looked up in the directory. -/
def nameCheck (p : Path) (n : Name) : Except IoError Unit :=
  match checkPath (p.join ⟨n⟩) with
  | .error e => .error e
  | .ok () => if n.length > nameLimit then .error (.os .nameTooLong) else .ok ()

theorem checkPath_of_nameCheck {p : Path} {n : Name} (h : nameCheck p n = .ok ()) :
    checkPath (p.join ⟨n⟩) = .ok () := by
  unfold nameCheck at h
  split at h
  · cases h
  · assumption

theorem length_le_of_nameCheck {p : Path} {n : Name} (h : nameCheck p n = .ok ()) :
    n.length ≤ nameLimit := by
  unfold nameCheck at h
  split at h
  · cases h
  · split at h
    · cases h
    · omega

theorem nameCheck_eq_error {p : Path} {n : Name} {e : IoError} (h : nameCheck p n = .error e) :
    checkPath (p.join ⟨n⟩) = .error e ∨
      checkPath (p.join ⟨n⟩) = .ok () ∧ nameLimit < n.length ∧ e = .os .nameTooLong := by
  unfold nameCheck at h
  split at h
  · cases h
    exact Or.inl (by assumption)
  · rename_i hp
    split at h
    · rename_i hlen
      cases h
      exact Or.inr ⟨hp, hlen, rfl⟩
    · cases h

theorem isNotFound_of_checkPath {p : Path} (hp : p.isEmpty = false) {e : IoError}
    (h : checkPath p = .error e) : e.isNotFound = false := by
  unfold checkPath at h
  rw [hp] at h
  split at h
  · cases h
    rfl
  · split at h
    · rename_i hfalse
      cases hfalse
    · split at h
      · cases h
      · cases h
        rfl

/-- **A refusal of the name is not taken for a missing entry.** -/
theorem isNotFound_of_nameCheck {p : Path} {n : Name} (hn : Name.isOrdinary n = true) {e : IoError}
    (h : nameCheck p n = .error e) : e.isNotFound = false := by
  rcases nameCheck_eq_error h with hp | ⟨-, -, rfl⟩
  · exact isNotFound_of_checkPath (Path.isEmpty_join_name p hn) hp
  · rfl

section Join

variable {fs : FileSystem} {p : Path} {loc : Location} {n : Name}

/-- What is looked up behind a path that leads to a directory is looked up there. -/
theorem walk_join (h : fs.Leads p loc) (hn : Name.isOrdinary n = true) (follow slash : Bool) :
    ∃ links, fs.walk follow linkLimit (fs.start (p.join ⟨n⟩)) (p.join ⟨n⟩).steps slash =
      fs.walk follow links loc [.enter n] slash := by
  obtain ⟨s, hs, rfl, hdir⟩ := h
  rw [start_join fs p hn, Path.steps_join_name p hn]
  exact walk_append fs follow linkLimit _ _ _ _ hs hdir _ slash (by simp)

/-- **The look-up of a name behind a path that leads to a directory ends in that directory.** -/
theorem spot_join (h : fs.Leads p loc) (hn : Name.isOrdinary n = true)
    (hc : nameCheck p n = .ok ()) {follow : Bool}
    (hlink : follow = true → ∀ target, fs.at? (loc ++ [n]) ≠ some (.link target)) :
    fs.spot follow (p.join ⟨n⟩) = .ok ⟨loc, .enter n, false⟩ := by
  obtain ⟨links, hw⟩ := walk_join h hn follow false
  rw [walk_eq _ _ links, walkSteps_last (length_le_of_nameCheck hc) hlink] at hw
  refine spot_eq_ok.2 ⟨checkPath_of_nameCheck hc, ?_⟩
  rw [Path.endsInSeparator_join_name p hn, hw]

/-- Where a link at the end is not followed, it does not matter what stands there. -/
theorem spot_join_unfollowed (h : fs.Leads p loc) (hn : Name.isOrdinary n = true)
    (hc : nameCheck p n = .ok ()) :
    fs.spot false (p.join ⟨n⟩) = .ok ⟨loc, .enter n, false⟩ :=
  spot_join h hn hc fun hf => by cases hf

/-- A refused name ends every look-up. -/
theorem spot_join_error (h : fs.Leads p loc) (hn : Name.isOrdinary n = true) {e : IoError}
    (hc : nameCheck p n = .error e) (follow : Bool) :
    fs.spot follow (p.join ⟨n⟩) = .error e := by
  rcases nameCheck_eq_error hc with hp | ⟨hp, hlen, rfl⟩
  · exact spot_eq_error.2 (Or.inl hp)
  · obtain ⟨links, hw⟩ := walk_join h hn follow false
    rw [walk_eq _ _ links, walkSteps_last_error hlen] at hw
    refine spot_eq_error.2 (Or.inr ⟨hp, _, rfl, ?_⟩)
    rw [Path.endsInSeparator_join_name p hn, hw]

theorem present_enter (n : Name) :
    fs.present ⟨loc, .enter n, false⟩ =
      (fs.at? (loc ++ [n])).elim (.error (.os .notFound)) fun e => .ok (loc ++ [n], e) := by
  unfold present Spot.location
  cases fs.at? (loc ++ [n]) <;> simp

/-- What stands at a name behind a path that leads to a directory is what stands there. -/
theorem lstat?_join (h : fs.Leads p loc) (hn : Name.isOrdinary n = true)
    (hc : nameCheck p n = .ok ()) :
    fs.lstat? (p.join ⟨n⟩) =
      (fs.at? (loc ++ [n])).elim (.error (.os .notFound)) fun e => .ok (loc ++ [n], e) := by
  rw [lstat?, Path.endsInSeparator_join_name p hn, spot_join_unfollowed h hn hc]
  exact present_enter n

theorem lstat?_join_error (h : fs.Leads p loc) (hn : Name.isOrdinary n = true) {e : IoError}
    (hc : nameCheck p n = .error e) : fs.lstat? (p.join ⟨n⟩) = .error e := by
  rw [lstat?, spot_join_error h hn hc]

theorem stat?_join (h : fs.Leads p loc) (hn : Name.isOrdinary n = true)
    (hc : nameCheck p n = .ok ())
    (hlink : ∀ target, fs.at? (loc ++ [n]) ≠ some (.link target)) :
    fs.stat? (p.join ⟨n⟩) =
      (fs.at? (loc ++ [n])).elim (.error (.os .notFound)) fun e => .ok (loc ++ [n], e) := by
  rw [stat?, spot_join h hn hc fun _ => hlink]
  exact present_enter n

/-- A file is found by its name. -/
theorem stat?_join_file (h : fs.Leads p loc) (hc : nameCheck p n = .ok ()) {content : Bytes}
    {executable : Bool} (hat : fs.at? (loc ++ [n]) = some (.file content executable)) :
    fs.stat? (p.join ⟨n⟩) = .ok (loc ++ [n], .file content executable) := by
  rw [stat?_join h (isOrdinary_of_at? hat) hc (by simp [hat]), hat]
  rfl

theorem stat?_join_error (h : fs.Leads p loc) (hn : Name.isOrdinary n = true) {e : IoError}
    (hc : nameCheck p n = .error e) : fs.stat? (p.join ⟨n⟩) = .error e := by
  rw [stat?, spot_join_error h hn hc]

/-- **A directory in the directory that a path leads to is led to by its name.** -/
theorem Leads.join (h : fs.Leads p loc) (hn : Name.isOrdinary n = true)
    (hlen : n.length ≤ nameLimit) (hat : fs.at? (loc ++ [n]) = some .directory) :
    fs.Leads (p.join ⟨n⟩) (loc ++ [n]) := by
  obtain ⟨links, hw⟩ := walk_join h hn true (p.join ⟨n⟩).endsInSeparator
  refine ⟨⟨loc, .enter n, (p.join ⟨n⟩).endsInSeparator⟩, ?_, rfl, isDirectory_iff.2 hat⟩
  rw [hw, walk_eq]
  exact walkSteps_last hlen fun _ target ht => by
    rw [hat] at ht
    cases ht

/-- A path behind a path to a directory leads to what stands in the directory, if that is no link. -/
theorem Leads.of_join {loc' : Location} (h : fs.Leads p loc) (hn : Name.isOrdinary n = true)
    (hlink : ∀ target, fs.at? (loc ++ [n]) ≠ some (.link target))
    (h' : fs.Leads (p.join ⟨n⟩) loc') : loc' = loc ++ [n] := by
  obtain ⟨s, hs, rfl, -⟩ := h'
  obtain ⟨links, hw⟩ := walk_join h hn true (p.join ⟨n⟩).endsInSeparator
  rw [hw, walk_eq] at hs
  obtain ⟨-, ⟨-, rfl⟩ | ⟨target, -, hat, -⟩⟩ := walkSteps_last_ok hs
  · rfl
  · exact absurd hat (hlink target)

/-- Nothing is found behind a name at which nothing stands. -/
theorem stat?_join_join_none {m : Name} (h : fs.Leads p loc) (hn : Name.isOrdinary n = true)
    (hm : Name.isOrdinary m = true) (hat : fs.at? (loc ++ [n]) = none) (r : Location × Entry) :
    fs.stat? ((p.join ⟨n⟩).join ⟨m⟩) ≠ .ok r := by
  intro hstat
  obtain ⟨s, hspot, -, -, -⟩ := stat?_eq_ok.1 (show fs.stat? _ = .ok (r.1, r.2) from hstat)
  obtain ⟨-, hs⟩ := spot_eq_ok.1 hspot
  obtain ⟨s₀, hs₀, rfl, hdir⟩ := h
  have hsteps : ((p.join ⟨n⟩).join ⟨m⟩).steps = p.steps ++ [.enter n, .enter m] := by
    rw [Path.steps_join_name _ hm, Path.steps_join_name _ hn, List.append_assoc]
    rfl
  obtain ⟨links, hw⟩ := walk_append fs true linkLimit _ _ _ _ hs₀ hdir [.enter n, .enter m]
    ((p.join ⟨n⟩).join ⟨m⟩).endsInSeparator (by simp)
  rw [start_join fs _ hm, start_join fs p hn, hsteps, hw, walk_eq] at hs
  obtain ⟨-, ⟨hdir', -⟩ | ⟨target, hlink, -⟩⟩ := walkSteps_enter_ok (by simp) hs
  · rw [hat] at hdir'
    cases hdir'
  · rw [hat] at hlink
    cases hlink

end Join

theorem leads_of_stat? {fs : FileSystem} {p : Path} {loc : Location}
    (h : fs.stat? p = .ok (loc, .directory)) : fs.Leads p loc := by
  obtain ⟨s, hs, hloc, hat, -⟩ := stat?_eq_ok.1 h
  exact ⟨s, (spot_eq_ok.1 hs).2, hloc, isDirectory_iff.2 hat⟩

/-- A path that leads to a directory finds it, if it is not refused. -/
theorem stat?_of_leads {fs : FileSystem} {p : Path} {loc : Location} (hl : fs.Leads p loc)
    (hc : checkPath p = .ok ()) : fs.stat? p = .ok (loc, .directory) := by
  obtain ⟨s, hw, hloc, hdir⟩ := hl
  exact stat?_eq_ok.2 ⟨s, spot_eq_ok.2 ⟨hc, hw⟩, hloc, isDirectory_iff.1 hdir, fun _ => rfl⟩

theorem readFile_of_stat? {fs : FileSystem} {p : Path} {loc : Location} {content : Bytes}
    {executable : Bool} (h : fs.stat? p = .ok (loc, .file content executable)) :
    fs.readFile p = .ok content := by
  rw [readFile, h]

/-! ## 5. Adding entries -/

/-- Every entry of one file system also stands in the other. -/
structure Extends (fs fs' : FileSystem) : Prop where
  home : fs'.home = fs.home
  entry : ∀ loc e, fs.at? loc = some e → fs'.at? loc = some e

theorem Extends.refl (fs : FileSystem) : Extends fs fs :=
  ⟨rfl, fun _ _ => id⟩

theorem Extends.trans {fs fs' fs'' : FileSystem} (h : Extends fs fs') (h' : Extends fs' fs'') :
    Extends fs fs'' :=
  ⟨h'.home.trans h.home, fun loc e hat => h'.entry loc e (h.entry loc e hat)⟩

theorem Extends.keepsWays {fs fs' : FileSystem} (h : Extends fs fs') : KeepsWays fs fs' :=
  ⟨h.home, fun loc => h.entry loc _, fun loc _ => h.entry loc _⟩

/-- **What a path leads to stays when entries are added.** -/
theorem stat?_of_extends {fs fs' : FileSystem} (h : Extends fs fs') {p : Path} {r : Location × Entry}
    (hs : fs.stat? p = .ok r) : fs'.stat? p = .ok r := by
  obtain ⟨loc, e⟩ := r
  obtain ⟨s, hspot, rfl, hat, hslash⟩ := stat?_eq_ok.1 hs
  obtain ⟨hcheck, hw⟩ := spot_eq_ok.1 hspot
  have hstart : fs'.start p = fs.start p := by rw [start, start, h.home]
  refine stat?_eq_ok.2 ⟨s, spot_eq_ok.2 ⟨hcheck, ?_⟩, rfl, h.entry _ _ hat, hslash⟩
  rw [hstart]
  exact walk_mono h.keepsWays true linkLimit _ _ _ _ hw fun _ target ht => by
    rw [← ht, hat, h.entry _ _ hat]

theorem readText_of_extends {fs fs' : FileSystem} (h : Extends fs fs') {p : Path} {text : String}
    (ht : fs.readText p = .ok text) : fs'.readText p = .ok text := by
  cases hs : fs.stat? p with
  | error e => simp [readText, readFile, hs] at ht
  | ok r =>
    have hread : fs'.readFile p = fs.readFile p := by
      rw [readFile, readFile, hs, stat?_of_extends h hs]
    rw [readText, hread]
    exact ht

/-! ## 6. Written file systems -/

/-- The file system with the entries at the paths, each put after the directories above it. -/
def written (entries : List (String × Entry)) : FileSystem :=
  entries.foldl (fun fs x =>
    let names := (Path.ofString x.1).names
    fs.put names.dropLast (names.getLastD []) x.2) empty

end TemplatePress.FileSystem
