import TemplatePress.Proofs.Frames
import TemplatePress.Proofs.Twins
import TemplatePress.Proofs.Ways

/-!
# Places for what the tools make

A tool is asked to clone or copy to a place where nothing stands yet, whatever earlier calls did to
the files. This file fixes:

* walks that do and do not follow a link at their end (`walk_unfollowed`, `walk_followed`), that the
  `.` parts of a path do not change where it leads (`leads_ofComponents`), and that what is found
  behind one more name stands in a directory that the path leads to (`exists_leads_of_join`);
* `Vacant`: nothing is found at a path, not even a link. Removing leaves a path vacant, wherever links
  lead it (`vacant_of_removeIfPresent`);
* `Made`: what making a directory comes to along a path without `..` parts where no directory was
  found (`makeDirectories_made`);
* `Fresh`: a path at which a directory was just made, with nothing in it. Without `..` parts a
  directory that is made at a vacant path is fresh (`makeDirectories_fresh`);
* `Toolchain.watched`: a toolchain that keeps what its calls find, and does the same besides
  (`runCalls_unwatched`);
* `runCalls_meetContract`: every call that any fetches and builds make finds its destination vacant.
-/

namespace TemplatePress

open FileSystem

namespace FileSystem

open TemplatePress.Path (Step Component)

/-! ## 1. Walks that do not follow their last link -/

/-- What one walk finds something behind, the other does as well, with the slash that it was
    given. -/
def FindsToo (fs : FileSystem) (one other : Walk) : Prop :=
  ∀ (dir : Location) (steps : List Step) (slash : Bool) (s : Spot),
    one dir steps slash = .ok s → fs.at? s.location ≠ none →
    ∃ s', other dir steps slash = .ok s' ∧ fs.at? s'.location ≠ none ∧ s'.slash = slash

theorem findsToo_walk_of_beyond {fs : FileSystem} {links : Nat}
    (hb : FindsToo fs (fs.beyond true links) (fs.beyond false links)) :
    FindsToo fs (fs.walk true links) (fs.walk false links) := by
  intro dir steps slash s h hat
  rw [walk_eq] at h ⊢
  induction steps generalizing dir with
  | nil =>
    cases h
    exact ⟨_, rfl, hat, rfl⟩
  | cons step steps ih =>
    cases steps with
    | nil =>
      cases step with
      | stay =>
        cases h
        exact ⟨_, rfl, hat, rfl⟩
      | up =>
        cases h
        exact ⟨_, rfl, hat, rfl⟩
      | enter n =>
        -- the walk that does not follow stops here, at a link or at what the other one found
        obtain ⟨hn, ⟨-, rfl⟩ | ⟨target, -, hlink, -⟩⟩ := walkSteps_last_ok h
        · exact ⟨_, walkSteps_last hn (by simp), hat, rfl⟩
        · exact ⟨_, walkSteps_last hn (by simp), by simp [Spot.location, hlink], rfl⟩
    | cons next steps =>
      have hne : next :: steps ≠ [] := by simp
      cases step with
      | stay =>
        rw [walkSteps_stay hne] at h ⊢
        exact ih _ h
      | up =>
        rw [walkSteps_up hne] at h ⊢
        exact ih _ h
      | enter n =>
        obtain ⟨hn, ⟨hdir, hs⟩ | ⟨target, hlink, hs⟩⟩ := walkSteps_enter_ok hne h
        · rw [walkSteps_enter_directory hne hn hdir]
          exact ih _ hs
        · rw [walkSteps_enter_link hne hn hlink]
          exact hb _ _ _ _ hs hat

/-- **What is found with all links followed is found without following the last one.** -/
theorem walk_unfollowed (fs : FileSystem) (links : Nat) :
    FindsToo fs (fs.walk true links) (fs.walk false links) := by
  induction links with
  | zero =>
    refine findsToo_walk_of_beyond fun dir steps slash s h => ?_
    cases h
  | succ links ih => exact findsToo_walk_of_beyond ih

/-- The spot of one walk is the spot of the other, unless a link stands there. -/
def EndsAlike (fs : FileSystem) (one other : Walk) : Prop :=
  ∀ (dir : Location) (steps : List Step) (slash : Bool) (s : Spot),
    one dir steps slash = .ok s → (∀ target, fs.at? s.location ≠ some (.link target)) →
    other dir steps slash = .ok s

theorem endsAlike_walk_of_beyond {fs : FileSystem} {links : Nat}
    (hb : EndsAlike fs (fs.beyond false links) (fs.beyond true links)) :
    EndsAlike fs (fs.walk false links) (fs.walk true links) := by
  intro dir steps slash s h hlink
  rw [walk_eq] at h ⊢
  induction steps generalizing dir with
  | nil => exact h
  | cons step steps ih =>
    cases steps with
    | nil =>
      cases step with
      | stay => exact h
      | up => exact h
      | enter n =>
        obtain ⟨hn, ⟨-, rfl⟩ | ⟨target, hf, -, -⟩⟩ := walkSteps_last_ok h
        · exact walkSteps_last hn fun _ => hlink
        · cases hf
    | cons next steps =>
      have hne : next :: steps ≠ [] := by simp
      cases step with
      | stay =>
        rw [walkSteps_stay hne] at h ⊢
        exact ih _ h
      | up =>
        rw [walkSteps_up hne] at h ⊢
        exact ih _ h
      | enter n =>
        obtain ⟨hn, ⟨hdir, hs⟩ | ⟨target, hat, hs⟩⟩ := walkSteps_enter_ok hne h
        · rw [walkSteps_enter_directory hne hn hdir]
          exact ih _ hs
        · rw [walkSteps_enter_link hne hn hat]
          exact hb _ _ _ _ hs hlink

/-- **Where no link stands at its end, a walk goes the same way with the last link followed.** -/
theorem walk_followed (fs : FileSystem) (links : Nat) :
    EndsAlike fs (fs.walk false links) (fs.walk true links) := by
  induction links with
  | zero =>
    refine endsAlike_walk_of_beyond fun dir steps slash s h => ?_
    cases h
  | succ links ih => exact endsAlike_walk_of_beyond ih

/-! ## 2. Parts that stay -/

/-- Steps without those that stay. -/
def moves (steps : List Step) : List Step :=
  steps.filterMap (Option.guard (· ≠ .stay))

theorem moves_cons_of_ne {step : Step} (h : step ≠ .stay) (steps : List Step) :
    moves (step :: steps) = step :: moves steps := by
  simp [moves, Option.guard, h]

theorem moves_stay (steps : List Step) : moves (.stay :: steps) = moves steps := by
  simp [moves, Option.guard]

theorem moves_append_moves (front back : List Step) :
    moves (front ++ moves back) = moves (front ++ back) := by
  simp [moves, List.filter_filter]

/-- With a last step behind them, steps lead where those that move lead. -/
def LeadsByMoves (last : Step) (walk : Walk) : Prop :=
  ∀ (dir : Location) (steps : List Step) (slash : Bool),
    walk dir (steps ++ [last]) slash = walk dir (moves steps ++ [last]) slash

theorem leadsByMoves_walk_of_beyond {fs : FileSystem} {follow : Bool} {last : Step} {links : Nat}
    (hb : LeadsByMoves last (fs.beyond follow links)) :
    LeadsByMoves last (fs.walk follow links) := by
  intro dir steps slash
  rw [walk_eq, walk_eq]
  induction steps generalizing dir with
  | nil => rfl
  | cons step steps ih =>
    have hrest : steps ++ [last] ≠ [] := by simp
    have hmoves : moves steps ++ [last] ≠ [] := by simp
    cases step with
    | stay =>
      rw [List.cons_append, walkSteps_stay hrest, moves_stay]
      exact ih dir
    | up =>
      rw [moves_cons_of_ne (by simp), List.cons_append, List.cons_append, walkSteps_up hrest,
        walkSteps_up hmoves]
      exact ih dir.above
    | enter n =>
      rw [moves_cons_of_ne (by simp), List.cons_append, List.cons_append]
      by_cases hn : n.length ≤ nameLimit
      · cases hat : fs.at? (dir ++ [n]) with
        | none => simp [walkSteps, hat]
        | some e =>
          cases e with
          | file _ _ => simp [walkSteps, hat]
          | directory =>
            rw [walkSteps_enter_directory hrest hn hat, walkSteps_enter_directory hmoves hn hat]
            exact ih _
          | link target =>
            rw [walkSteps_enter_link hrest hn hat, walkSteps_enter_link hmoves hn hat,
              ← List.append_assoc, ← List.append_assoc, hb, hb _ (target.steps ++ moves steps),
              moves_append_moves]
      · have hlong : nameLimit < n.length := by omega
        simp [walkSteps, hlong]

theorem leadsByMoves_walk (fs : FileSystem) (follow : Bool) (last : Step) (links : Nat) :
    LeadsByMoves last (fs.walk follow links) := by
  induction links with
  | zero => exact leadsByMoves_walk_of_beyond fun _ _ _ => rfl
  | succ links ih => exact leadsByMoves_walk_of_beyond ih

/-- A walk with a last step behind it comes to that step from where it ends itself, all links
    followed. -/
def EndsBefore (last : Step) (one other : Walk) : Prop :=
  ∀ (dir : Location) (steps : List Step) (slash slash' : Bool) (s : Spot),
    one dir (steps ++ [last]) slash = .ok s →
    ∃ s', other dir steps slash' = .ok s' ∧ s = ⟨s'.location, last, slash⟩

theorem endsBefore_walk_of_beyond {fs : FileSystem} {follow : Bool} {links : Nat} {last : Step}
    (hlast : ∀ (expand : Walk) (dir : Location) (slash : Bool) (s : Spot),
      fs.walkSteps follow expand dir [last] slash = .ok s → s = ⟨dir, last, slash⟩)
    (hb : EndsBefore last (fs.beyond follow links) (fs.beyond true links)) :
    EndsBefore last (fs.walk follow links) (fs.walk true links) := by
  intro dir steps slash slash' s h
  rw [walk_eq] at h
  induction steps generalizing dir with
  | nil => exact ⟨⟨dir, .stay, slash'⟩, by rw [walk_eq]; rfl, hlast _ _ _ _ h⟩
  | cons step steps ih =>
    have hrest : steps ++ [last] ≠ [] := by simp
    rw [walk_eq]
    cases step with
    | stay =>
      rw [List.cons_append, walkSteps_stay hrest] at h
      cases steps with
      | nil => exact ⟨⟨dir, .stay, slash'⟩, rfl, hlast _ _ _ _ h⟩
      | cons next steps =>
        rw [walkSteps_stay (by simp), ← walk_eq]
        exact ih _ h
    | up =>
      rw [List.cons_append, walkSteps_up hrest] at h
      cases steps with
      | nil => exact ⟨⟨dir, .up, slash'⟩, rfl, hlast _ _ _ _ h⟩
      | cons next steps =>
        rw [walkSteps_up (by simp), ← walk_eq]
        exact ih _ h
    | enter n =>
      obtain ⟨hn, ⟨hat, hs⟩ | ⟨target, hat, hs⟩⟩ := walkSteps_enter_ok hrest h
      · cases steps with
        | nil =>
          exact ⟨⟨dir, .enter n, slash'⟩, walkSteps_last hn (by simp [hat]), hlast _ _ _ _ hs⟩
        | cons next steps =>
          rw [walkSteps_enter_directory (by simp) hn hat, ← walk_eq]
          exact ih _ hs
      · rw [← List.append_assoc] at hs
        cases steps with
        | nil =>
          rw [walkSteps_last_link hn hat]
          rw [List.append_nil] at hs
          exact hb _ _ _ _ _ hs
        | cons next steps =>
          rw [walkSteps_enter_link (by simp) hn hat]
          exact hb _ _ _ _ _ hs

theorem endsBefore_walk {fs : FileSystem} {follow : Bool} {last : Step}
    (hlast : ∀ (expand : Walk) (dir : Location) (slash : Bool) (s : Spot),
      fs.walkSteps follow expand dir [last] slash = .ok s → s = ⟨dir, last, slash⟩) (links : Nat) :
    EndsBefore last (fs.walk follow links) (fs.walk true links) := by
  induction links with
  | zero =>
    refine endsBefore_walk_of_beyond hlast fun dir steps slash slash' s h => ?_
    cases h
  | succ links ih => exact endsBefore_walk_of_beyond hlast ih

theorem leads_iff {fs : FileSystem} {p : Path} {loc : Location} :
    fs.Leads p loc ↔ fs.isDirectory loc = true ∧
      fs.walk true linkLimit (fs.start p) (p.steps ++ [.stay]) false = .ok ⟨loc, .stay, false⟩ := by
  constructor
  · rintro ⟨s, hs, rfl, hdir⟩
    obtain ⟨links, hwalk⟩ := walk_append fs true linkLimit _ _ _ s hs hdir [.stay] false (by simp)
    refine ⟨hdir, ?_⟩
    rw [hwalk, walk_eq]
    rfl
  · rintro ⟨hdir, hwalk⟩
    have hstay : ∀ (expand : Walk) (dir : Location) (slash : Bool) (s : Spot),
        fs.walkSteps true expand dir [.stay] slash = .ok s → s = ⟨dir, .stay, slash⟩ := by
      intro expand dir slash s h
      cases h
      rfl
    obtain ⟨s, hs, hloc⟩ := endsBefore_walk hstay linkLimit _ _ _ p.endsInSeparator _ hwalk
    cases hloc
    exact ⟨s, hs, rfl, hdir⟩

/-- **What is found at a name behind a path stands in a directory that the path leads to.** -/
theorem exists_leads_of_join {fs : FileSystem} {p : Path} {n : Name}
    (hn : Name.isOrdinary n = true) {r : Location × Entry} (h : fs.stat? (p.join ⟨n⟩) = .ok r) :
    ∃ dir, fs.Leads p dir ∧ nameCheck p n = .ok () ∧ fs.at? (dir ++ [n]) ≠ none := by
  obtain ⟨loc, e⟩ := r
  obtain ⟨s, hspot, rfl, hat, -⟩ := stat?_eq_ok.1 h
  -- the last link is not followed, so that the walk ends in the directory above
  obtain ⟨s₁, hwalk, hat₁, -⟩ :=
    walk_unfollowed fs linkLimit _ _ _ s (spot_eq_ok.1 hspot).2 (by simp [hat])
  rw [Path.steps_join_name p hn, start_join fs p hn] at hwalk
  obtain ⟨s₂, hs₂, rfl⟩ := endsBefore_walk (fun _ _ _ _ => eq_of_walkSteps_last) linkLimit _ _ _
    p.endsInSeparator _ hwalk
  obtain ⟨e₁, he₁⟩ := Option.ne_none_iff_exists'.1 hat₁
  have hl : fs.Leads p s₂.location := ⟨s₂, hs₂, rfl, isDirectory_of_at? he₁⟩
  refine ⟨s₂.location, hl, ?_, hat₁⟩
  cases hc : nameCheck p n with
  | ok u => rfl
  | error e =>
    rw [stat?_join_error hl hn hc] at h
    cases h

theorem moves_steps_ofComponents (p : Path) :
    moves (Path.ofComponents p.components).steps = moves p.steps := by
  rw [Path.steps_ofComponents (Path.written_components p)]
  exact Path.filterMap_components _ (by simp [Option.guard]) p

/-- **A path leads where it leads when it is written anew from its components.** -/
theorem leads_ofComponents {fs : FileSystem} {p : Path} {loc : Location} :
    fs.Leads (Path.ofComponents p.components) loc ↔ fs.Leads p loc := by
  have hstart : fs.start (Path.ofComponents p.components) = fs.start p := by
    rw [start, start, (Path.steps_of_components p).2.2]
  rw [leads_iff, leads_iff, hstart, leadsByMoves_walk fs true .stay linkLimit _ p.steps,
    leadsByMoves_walk fs true .stay linkLimit _ (Path.ofComponents p.components).steps,
    moves_steps_ofComponents]

/-! ## 3. Paths at which nothing stands -/

/-- Nothing is found at the path, not even a link. -/
def Vacant (fs : FileSystem) (p : Path) : Prop :=
  ∀ found, fs.lstat? p ≠ .ok found

theorem lstat?_eq_ok {fs : FileSystem} {p : Path} (hp : p.endsInSeparator = false)
    {loc : Location} {e : Entry} :
    fs.lstat? p = .ok (loc, e) ↔ ∃ s, fs.spot false p = .ok s ∧ s.location = loc ∧
      fs.at? loc = some e ∧ (s.slash = true → e.isDirectory = true) := by
  rw [lstat?, hp]
  cases hs : fs.spot false p with
  | error e => simp
  | ok s =>
    simp only [present, Except.ok.injEq, exists_eq_left']
    cases hat : fs.at? s.location with
    | none =>
      refine ⟨fun h => (by cases h), ?_⟩
      rintro ⟨rfl, hat', -⟩
      rw [hat] at hat'
      cases hat'
    | some found =>
      simp only
      by_cases hslash : (s.slash && !found.isDirectory) = true
      · rw [if_pos hslash]
        simp only [Bool.and_eq_true, Bool.not_eq_true'] at hslash
        refine ⟨fun h => (by cases h), ?_⟩
        rintro ⟨rfl, hat', hdir⟩
        rw [hat] at hat'
        cases hat'
        rw [hdir hslash.1] at hslash
        cases hslash.2
      · rw [if_neg hslash]
        constructor
        · intro h
          cases h
          refine ⟨rfl, hat, fun hs => ?_⟩
          simpa [hs] using hslash
        · rintro ⟨rfl, hat', -⟩
          rw [hat] at hat'
          cases hat'
          rfl

/-- **A path that leads to a directory is not vacant.** -/
theorem not_vacant_of_leadsToDirectory {fs : FileSystem} {p : Path}
    (hp : p.endsInSeparator = false) (h : fs.leadsToDirectory p = true) : ¬ fs.Vacant p := by
  obtain ⟨loc, hstat⟩ := leadsToDirectory_iff.1 h
  obtain ⟨s, hspot, rfl, hat, -⟩ := stat?_eq_ok.1 hstat
  obtain ⟨hcheck, hwalk⟩ := spot_eq_ok.1 hspot
  obtain ⟨s', hs', hat', hslash⟩ := walk_unfollowed fs linkLimit _ _ _ s hwalk (by simp [hat])
  obtain ⟨e, he⟩ := Option.ne_none_iff_exists'.1 hat'
  intro hvacant
  refine hvacant (s'.location, e)
    ((lstat?_eq_ok hp).2 ⟨s', spot_eq_ok.2 ⟨hcheck, hs'⟩, rfl, he, ?_⟩)
  rw [hslash, hp]
  exact fun h => by cases h

theorem keepsWays_prune (fs : FileSystem) (top : Location) : KeepsWays (fs.prune top) fs := by
  have hat : ∀ loc e, (fs.prune top).at? loc = some e → fs.at? loc = some e := by
    intro loc e h
    by_cases hloc : loc = []
    · subst hloc
      exact h
    · rw [at?_prune _ _ _ hloc] at h
      split at h
      · cases h
      · exact h
  exact ⟨rfl, fun loc => hat loc _, fun loc target => hat loc _⟩

/-- A look-up that does not follow its last link ends where it ended before more was removed. -/
theorem spot_of_prune {fs : FileSystem} {top : Location} {p : Path} {s : Spot}
    (h : (fs.prune top).spot false p = .ok s) : fs.spot false p = .ok s := by
  obtain ⟨hcheck, hwalk⟩ := spot_eq_ok.1 h
  exact spot_eq_ok.2 ⟨hcheck, walk_mono (keepsWays_prune fs top) false linkLimit _ _ _ s hwalk
    fun hf => by cases hf⟩

/-- **Where a look-up ended that was removed, nothing is found any more.** -/
theorem vacant_prune {fs : FileSystem} {p : Path} (hp : p.endsInSeparator = false) {s : Spot}
    (hs : fs.spot false p = .ok s) (htop : s.location ≠ []) :
    (fs.prune s.location).Vacant p := by
  rintro ⟨loc, e⟩ h
  obtain ⟨s', hs', rfl, hat, -⟩ := (lstat?_eq_ok hp).1 h
  have hsame := (spot_of_prune hs').symm.trans hs
  cases hsame
  rw [at?_prune_self fs _ htop] at hat
  cases hat

theorem removeDirectory_eq_ok {fs fs' : FileSystem} {p : Path}
    (h : fs.removeDirectory p = .ok fs') :
    ∃ dir n slash, fs.spot false p = .ok ⟨dir, .enter n, slash⟩ ∧ fs' = fs.prune (dir ++ [n]) := by
  unfold removeDirectory at h
  split at h
  · cases h
  · cases h
  · cases h
  · rename_i dir n slash hs
    split at h
    · cases h
    · split at h
      · cases h
        exact ⟨dir, n, slash, hs, rfl⟩
      · cases h
    · cases h

/-- A directory that is not found when it is to be removed is not there. -/
theorem vacant_of_removeDirectory {fs : FileSystem} {p : Path} (hp : p.endsInSeparator = false)
    {e : IoError} (h : fs.removeDirectory p = .error e) (he : e.isNotFound = true) :
    fs.Vacant p := by
  rintro ⟨loc, found⟩ hfound
  obtain ⟨⟨dir, last, slash⟩, hs, rfl, hat, -⟩ := (lstat?_eq_ok hp).1 hfound
  unfold removeDirectory at h
  rw [hs] at h
  cases last with
  | stay =>
    cases h
    split at he <;> cases he
  | up =>
    cases h
    cases he
  | enter n =>
    simp only [Spot.location] at hat
    simp only [hat] at h
    cases found with
    | directory =>
      simp only at h
      split at h
      · cases h
      · cases h
        cases he
    | file _ _ =>
      cases h
      cases he
    | link _ =>
      cases h
      cases he

/-- **Removing leaves nothing at the path**, wherever links lead it: where the way there went through
    what was removed, the path leads nowhere afterwards. -/
theorem vacant_of_removeIfPresent {fs fs' : FileSystem} {p : Path}
    (hp : p.endsInSeparator = false) (h : removeIfPresent p fs = .ok () fs') : fs'.Vacant p := by
  unfold removeIfPresent at h
  cases hl : fs.lstat? p with
  | error e =>
    rw [hl] at h
    simp only at h
    split at h
    · cases h
      intro found hfound
      rw [hl] at hfound
      cases hfound
    · cases h
  | ok found =>
    obtain ⟨loc, e⟩ := found
    obtain ⟨s, hs, rfl, hat, -⟩ := (lstat?_eq_ok hp).1 hl
    have hroot : e ≠ .directory → s.location ≠ [] := by
      intro he hnil
      rw [hnil, at?_nil] at hat
      cases hat
      exact he rfl
    rw [hl] at h
    cases e with
    | file _ _ =>
      cases h
      exact vacant_prune hp hs (hroot (by simp))
    | link _ =>
      cases h
      exact vacant_prune hp hs (hroot (by simp))
    | directory =>
      simp only [removeTree] at h
      cases hr : (fs.clear s.location).removeDirectory p with
      | ok fs₁ =>
        rw [hr] at h
        cases h
        obtain ⟨dir, n, slash, hs', rfl⟩ := removeDirectory_eq_ok hr
        exact vacant_prune hp hs' (by simp [Spot.location])
      | error e =>
        rw [hr] at h
        simp only at h
        split at h
        · rename_i he
          cases h
          exact vacant_of_removeDirectory hp hr he
        · cases h

/-! ## 4. Directories that are new -/

/-- A real directory stands at the path, with nothing in it. -/
structure Fresh (fs : FileSystem) (p : Path) (loc : Location) : Prop where
  leads : fs.Leads p loc
  real : fs.lstat? p = .ok (loc, .directory)
  empty : ∀ ns, ns ≠ [] → fs.at? (loc ++ ns) = none

theorem keepsWays_put_none {fs : FileSystem} {dir : Location} {n : Name} {e : Entry}
    (ha : fs.admits dir n e = true) (hat : fs.at? (dir ++ [n]) = none) :
    KeepsWays fs (fs.put dir n e) := by
  have hkeep : ∀ loc found, fs.at? loc = some found → (fs.put dir n e).at? loc = some found := by
    intro loc found h
    rw [at?_put ha, if_neg]
    · exact h
    · rintro rfl
      rw [hat] at h
      cases h
  exact ⟨put_home fs dir n e, fun loc => hkeep loc _, fun loc target => hkeep loc _⟩

/-- The path leads to a directory that was made: nothing is in it, and nothing else is new but missing
    directories above it. -/
structure Made (fs fs' : FileSystem) (p : Path) (loc : Location) : Prop where
  check : checkPath p = .ok ()
  leads : fs'.Leads p loc
  real : p.endsInSeparator = false → fs'.lstat? p = .ok (loc, .directory)
  empty : ∀ ns, ns ≠ [] → fs'.at? (loc ++ ns) = none
  adds : Adds loc fs fs'

/-- **A directory that is made is new and empty.** -/
theorem made_of_makeDirectory {fs fs' : FileSystem} {p : Path} (h : fs.makeDirectory p = .ok fs') :
    ∃ loc, Made fs fs' p loc := by
  obtain ⟨dir, n, slash, hs, hnone, ha, rfl⟩ := makeDirectory_eq_ok h
  obtain ⟨hcheck, hwalk⟩ := spot_eq_ok.1 hs
  have hat : (fs.put dir n .directory).at? (dir ++ [n]) = some .directory := by
    rw [at?_put ha, if_pos rfl]
  have hways := keepsWays_put_none ha hnone
  have hstart : (fs.put dir n .directory).start p = fs.start p := by
    rw [start, start, hways.home]
  have hwalk' : (fs.put dir n .directory).walk false linkLimit
      ((fs.put dir n .directory).start p) p.steps p.endsInSeparator = .ok ⟨dir, .enter n, slash⟩ := by
    rw [hstart]
    exact walk_mono hways false linkLimit _ _ _ _ hwalk fun hf => by cases hf
  refine ⟨dir ++ [n], hcheck, ⟨⟨dir, .enter n, slash⟩, ?_, rfl, isDirectory_iff.2 hat⟩, fun hp =>
    (lstat?_eq_ok hp).2 ⟨_, spot_eq_ok.2 ⟨hcheck, hwalk'⟩, rfl, hat, fun _ => rfl⟩,
    fun ns hns => ?_, adds_put ha hnone⟩
  · refine walk_followed _ linkLimit _ _ _ _ hwalk' fun target => ?_
    rw [Spot.location, hat]
    simp
  · have hne : dir ++ [n] ++ ns ≠ dir ++ [n] := by simpa using hns
    rw [at?_put ha, if_neg hne]
    exact at?_append_eq_none (by simp [hnone]) hns

section Make

variable {fs fs' : FileSystem} {p : Path} {n : Name} {above : List Path}

/-- Making a path with what is above it changes nothing, where it led to a directory before, or comes
    to an empty directory. -/
def MakesFresh (p : Path) (above : List Path) : Prop :=
  ∀ fs fs', makeFirst above fs = .ok () fs' →
    fs' = fs ∧ (p.isEmpty = true ∨ fs.leadsToDirectory p = true) ∨ ∃ loc, Made fs fs' p loc

/-- **A directory is made at a name behind such a path, or it stood there before**: in an empty
    directory there is nothing that the name could meet. The path is any that leads where the name
    leads, and above it nothing may be to make. -/
theorem made_of_makeFirst (hmade : ∀ fs₁, makeFirst above fs = .ok () fs₁ → fs₁ = fs ∨
      ∃ q n loc, Name.isOrdinary n = true ∧ Made fs fs₁ q loc ∧
        ∀ fs loc, Leads fs p loc → Leads fs (q.join ⟨n⟩) loc)
    (h : makeFirst (p :: above) fs = .ok () fs') :
    fs' = fs ∧ (p.isEmpty = true ∨ fs.leadsToDirectory p = true) ∨ ∃ loc, Made fs fs' p loc := by
  rcases makeFirst_eq_ok h with ⟨hstood, rfl⟩ | hmk | ⟨fs₁, habove, hstep⟩
  · exact Or.inl ⟨rfl, hstood⟩
  · exact Or.inr (made_of_makeDirectory hmk)
  rcases hmade fs₁ habove with rfl | ⟨q, n, loc, hn, hm, hleads⟩
  · -- nothing was made above
    rcases hstep with ⟨hdir, rfl⟩ | hmk
    · exact Or.inl ⟨rfl, Or.inr hdir⟩
    · exact Or.inr (made_of_makeDirectory hmk)
  have hnone : fs₁.at? (loc ++ [n]) = none := hm.empty [n] (by simp)
  rcases hstep with ⟨hdir, rfl⟩ | hmk
  · obtain ⟨loc', hstat⟩ := leadsToDirectory_iff.1 hdir
    have hl := hleads _ _ (leads_of_stat? hstat)
    obtain rfl := hm.leads.of_join hn (by simp [hnone]) hl
    have hat := isDirectory_iff.1 hl.isDirectory
    rw [hnone] at hat
    cases hat
  · obtain ⟨loc', hm'⟩ := made_of_makeDirectory hmk
    have hlink : ∀ target, fs'.at? (loc ++ [n]) ≠ some (.link target) := by
      intro target hat
      have hbefore := hm'.adds.link hat
      rw [hnone] at hbefore
      cases hbefore
    obtain rfl : loc' = loc ++ [n] :=
      (hm.leads.mono hm'.adds.onlyAdds.keepsWays).of_join hn hlink (hleads _ _ hm'.leads)
    exact Or.inr ⟨_, hm'.check, hm'.leads, hm'.real, hm'.empty,
      (hm.adds.mono (List.prefix_append _ _)).trans hm'.adds⟩

/-- **Without `..` parts, a path made with what is above it is a directory that stood before, or one
    that is empty.** The induction is on the number of components; the path above is made before. -/
theorem makesFresh_ancestors {k : Nat} {p : Path} (hk : p.components.length = k)
    (hup : p.NeverUp) : MakesFresh p (ancestorsFrom k p) := by
  induction k generalizing p with
  | zero =>
    intro fs fs' h
    exact made_of_makeFirst (fun fs₁ habove => by cases habove) h
  | succ k ih =>
    intro fs fs' h
    rw [ancestorsFrom] at h
    split at h
    · exact made_of_makeFirst (fun fs₁ habove => by cases habove) h
    · rename_i q hq
      refine made_of_makeFirst (fun fs₁ habove => ?_) h
      obtain ⟨rfl, hne, -⟩ := Path.parent?_eq_some hq
      have hread := Path.readable_components p
      have hlead : ∀ fs loc, Leads fs p loc → Leads fs (Path.ofComponents p.components) loc :=
        fun fs loc => leads_ofComponents.2
      have hparent := Path.names_of_parent? hq
      obtain ⟨cs, c, hcs⟩ := (List.eq_nil_or_concat p.components).resolve_left hne
      rw [List.concat_eq_append] at hcs
      rw [hcs] at hread hlead hk hparent habove
      rw [List.dropLast_concat] at hparent habove
      have hcomponents := Path.components_ofComponents (hread.of_front (List.prefix_append cs [c]))
      have hlen : cs.length = k := by simpa using hk
      -- a root or a `.` is the first component, and above it there is nothing
      have hfirst : c = .root ∨ c = .current → fs₁ = fs := by
        intro hor
        obtain rfl := Path.eq_nil_of_readable hread hor
        subst hlen
        cases habove
        rfl
      cases c with
      | root => exact Or.inl (hfirst (Or.inl rfl))
      | current => exact Or.inl (hfirst (Or.inr rfl))
      | parent =>
        refine absurd ((Path.up_mem_components p).1 ?_) hup
        simp [hcs, Component.steps]
      | normal n =>
        rw [Path.ofComponents_concat hread] at hlead
        rcases ih (by rw [hcomponents, hlen]) (hparent.2.1 hup) fs fs₁ habove with
          ⟨heq, -⟩ | ⟨loc, hm⟩
        · exact Or.inl heq
        · exact Or.inr ⟨_, n, loc, hread.1 n (by simp), hm, hlead⟩

/-- **A directory that is made where none was found is new and empty**, if the path has no `..`
    parts. -/
theorem makeDirectories_made (hup : p.NeverUp) (hne : p.isEmpty = false)
    (hnone : fs.leadsToDirectory p = false) (h : makeDirectories p fs = .ok () fs') :
    ∃ loc, Made fs fs' p loc := by
  rcases makesFresh_ancestors rfl hup fs fs' h with ⟨-, hempty | hdir⟩ | hmade
  · rw [hne] at hempty
    cases hempty
  · rw [hnone] at hdir
    cases hdir
  · exact hmade

/-- **A directory that is made at a vacant path without `..` parts is new and empty.** -/
theorem makeDirectories_fresh (hup : p.NeverUp) (hn : Name.isOrdinary n = true)
    (hvacant : fs.Vacant (p.join ⟨n⟩)) (h : makeDirectories (p.join ⟨n⟩) fs = .ok () fs') :
    ∃ loc, Fresh fs' (p.join ⟨n⟩) loc := by
  have hsep := Path.endsInSeparator_join_name p hn
  have hnone : fs.leadsToDirectory (p.join ⟨n⟩) = false := by
    cases hdir : fs.leadsToDirectory (p.join ⟨n⟩) with
    | false => rfl
    | true => exact absurd hvacant (not_vacant_of_leadsToDirectory hsep hdir)
  obtain ⟨loc, hm⟩ := makeDirectories_made ((Path.neverUp_join_name p hn).2 hup)
    (Path.isEmpty_join_name p hn) hnone h
  exact ⟨loc, hm.leads, hm.real hsep, hm.empty⟩

end Make

/-- **In a new directory nothing stands at any name.** -/
theorem Fresh.vacant {fs : FileSystem} {p : Path} {loc : Location} (h : Fresh fs p loc) {n : Name}
    (hn : Name.isOrdinary n = true) : fs.Vacant (p.join ⟨n⟩) := by
  intro found
  cases hc : nameCheck p n with
  | error e => simp [lstat?_join_error h.leads hn hc]
  | ok u => simp [lstat?_join h.leads hn hc, h.empty [n] (by simp)]

end FileSystem

/-! ## 5. What each call finds -/

/-- A call with the files as they were when it was made. -/
structure SeenCall where
  call : ToolCall
  found : FileSystem

/-- The state of a toolchain with what its calls found. -/
structure Watched (σ : Type) where
  inner : σ
  seen : List SeenCall

/-- A toolchain that also keeps what each of its calls found, oldest first. -/
def Toolchain.watched {σ : Type} (t : Toolchain σ) : Toolchain (Watched σ) where
  run call := fun w =>
    match t.run call ⟨w.files, w.tools.inner⟩ with
    | .ok () w' => .ok () ⟨w'.files, w'.tools, w.tools.seen ++ [⟨call, w.files⟩]⟩
    | .error e w' => .error e ⟨w'.files, w'.tools, w.tools.seen ++ [⟨call, w.files⟩]⟩

/-- The world without what was kept. -/
def World.unwatched {σ : Type} (w : World (Watched σ)) : World σ :=
  ⟨w.files, w.tools.inner⟩

/-- What is found where a call is to make something: nothing at all. A copy goes into the directory
    of a package, which is new. -/
def SeenCall.MeetsContract (layout : Layout) (c : SeenCall) : Prop :=
  match c.call with
  | .clone _ destination => c.found.Vacant destination
  | .copyTree _ destination => c.found.Vacant destination ∧
      ∃ name loc, destination = (layout.packageDir name).join ⟨Package.sourceName⟩ ∧
        Fresh c.found (layout.packageDir name) loc
  | .checkout _ _ => True
  | .compile _ _ => True
  | .rasterize _ _ _ _ => True

section Watching

variable {σ : Type} (tools : Toolchain σ) (layout : Layout)

/-- **What calls find can be kept with nothing else changed.** -/
theorem watched_erases : tools.watched.Erases Watched.inner tools := by
  intro call w
  simp only [Toolchain.watched, World.mapTools]
  cases tools.run call ⟨w.files, w.tools.inner⟩ with
  | ok _ w' => exact .ok () rfl
  | error e w' => exact .error e rfl

/-- **Watching changes nothing.** -/
theorem runCalls_unwatched (calls : List Call) (w : World (Watched σ)) :
    (runCalls tools.watched layout calls w).unwatched =
      runCalls tools layout calls w.unwatched := by
  induction calls generalizing w with
  | nil => rfl
  | cons call rest ih =>
    have hcall : (call.act tools.watched layout w).unwatched =
        call.act tools layout w.unwatched := by
      cases call with
      | fetch host r => exact (fetch_erases (watched_erases tools) layout host r).left w
      | generate options folder =>
        exact (generate_erases (watched_erases tools) layout options folder).left w
    change (runCalls tools.watched layout rest (call.act tools.watched layout w)).unwatched =
      runCalls tools layout rest (call.act tools layout w.unwatched)
    rw [← hcall]
    exact ih _

end Watching

/-! ## 6. Every call meets its contract -/

section Contract

variable {σ : Type} (tools : Toolchain σ) {layout : Layout}

/-- The calls made from one state to the other found what they expect. -/
def OnlyMeets (layout : Layout) (w w' : World (Watched σ)) : Prop :=
  ∃ made, w'.tools.seen = w.tools.seen ++ made ∧ ∀ c ∈ made, c.MeetsContract layout

theorem OnlyMeets.of_seen {w w' : World (Watched σ)} (h : w'.tools = w.tools) :
    OnlyMeets layout w w' :=
  ⟨[], by rw [h, List.append_nil], by simp⟩

theorem OnlyMeets.trans {w w' w'' : World (Watched σ)} (h : OnlyMeets layout w w')
    (h' : OnlyMeets layout w' w'') : OnlyMeets layout w w'' := by
  obtain ⟨made, hseen, hmade⟩ := h
  obtain ⟨made', hseen', hmade'⟩ := h'
  refine ⟨made ++ made', by rw [hseen', hseen, List.append_assoc], fun c hc => ?_⟩
  rcases List.mem_append.1 hc with hc | hc
  · exact hmade c hc
  · exact hmade' c hc

theorem onFiles_meets {ε α : Type} (wrap : IoError → ε) (act : Disk α) (w : World (Watched σ)) :
    OnlyMeets layout w (Disk.left (World.onFiles wrap act w)) := by
  refine OnlyMeets.of_seen ?_
  unfold World.onFiles
  split <;> rfl

theorem run_meets {call : ToolCall} {w : World (Watched σ)}
    (h : SeenCall.MeetsContract layout ⟨call, w.files⟩) :
    OnlyMeets layout w (Disk.left (tools.watched.run call w)) := by
  refine ⟨[⟨call, w.files⟩], ?_, by simpa using h⟩
  simp only [Toolchain.watched]
  split <;> rfl

/-- **Fetching clones to a place at which nothing stands.** -/
theorem fetch_meets (host : String) (r : RepositoryRef) (w : World (Watched σ)) :
    OnlyMeets layout w (Disk.left (fetch tools.watched layout host r w)) := by
  unfold fetch
  split
  · rename_i hwell
    have hrepo : Name.isOrdinary (Text.Utf8.bytes r.repo) = true :=
      isOrdinary_of_isSegment (Bool.and_eq_true_iff.1 hwell).2
    have hend : (layout.cloneDir r).endsInSeparator = false :=
      Path.endsInSeparator_join_name _ hrepo
    have hclean : OnlyMeets layout w (Disk.left (World.onFiles (.clean (layout.cloneDir r))
        (removeIfPresent (layout.cloneDir r)) w : EStateM.Result FetchError _ Unit)) :=
      onFiles_meets _ _ w
    simp only
    split
    · rename_i hremove
      rw [hremove] at hclean
      exact hclean
    · rename_i w₁ hremove
      rw [hremove] at hclean
      have hvacant : w₁.files.Vacant (layout.cloneDir r) := by
        unfold World.onFiles at hremove
        split at hremove <;> cases hremove
        rename_i fs₁ hfs₁
        exact vacant_of_removeIfPresent hend hfs₁
      have hclone : OnlyMeets layout w₁ (Disk.left
          (tools.watched.run (.clone (r.cloneUrl host) (layout.cloneDir r)) w₁)) :=
        run_meets tools hvacant
      split
      · rename_i heq
        rw [heq] at hclone
        exact hclean.trans hclone
      · rename_i w₂ heq
        rw [heq] at hclone
        have hcheckout : OnlyMeets layout w₂
            (Disk.left (checkoutReference tools.watched r (layout.cloneDir r) w₂)) := by
          cases href : r.reference with
          | none =>
            simp only [checkoutReference, href]
            exact OnlyMeets.of_seen rfl
          | some reference =>
            have hrun : OnlyMeets layout w₂ (Disk.left
                (tools.watched.run (.checkout (layout.cloneDir r) reference) w₂)) :=
              run_meets tools trivial
            simp only [checkoutReference, href]
            split <;> rename_i heq' <;> rw [heq'] at hrun <;> exact hrun
        split <;> rename_i heq' <;> rw [heq'] at hcheckout <;>
          exact (hclean.trans hclone).trans hcheckout
  · exact OnlyMeets.of_seen rfl

/-- **What is prepared without error is a new directory**, whatever stood there and on the way. -/
theorem fresh_of_prepare {fs fs' : FileSystem} (hup : layout.root.NeverUp) {name : Name}
    (hn : Name.isOrdinary (Package.dirName name) = true)
    (h : Package.prepare (layout.packageDir name) fs = .ok () fs') :
    ∃ loc, Fresh fs' (layout.packageDir name) loc := by
  unfold Package.prepare at h
  split at h
  · cases h
  · rename_i fs₁ hremove
    have hend : (layout.packageDir name).endsInSeparator = false :=
      Path.endsInSeparator_join_name layout.root hn
    exact makeDirectories_fresh hup hn (vacant_of_removeIfPresent hend hremove) h

/-- **Filling copies into an empty directory**, and makes no other call that needs a free place. -/
theorem fill_meets (options : PackageOptions) (folder : Path) {name : Name} {loc : Location}
    {w : World (Watched σ)} (h : Fresh w.files (layout.packageDir name) loc) :
    OnlyMeets layout w (Disk.left (Package.fill tools.watched layout options folder
      (layout.package name options.entryPoint) w)) := by
  have hask : ∀ {call : ToolCall} (wrap : ToolError → PackageError) (w₁ : World (Watched σ)),
      SeenCall.MeetsContract layout ⟨call, w₁.files⟩ →
      OnlyMeets layout w₁ (Disk.left (Package.ask tools.watched call wrap w₁)) := by
    intro call wrap w₁ hc
    rw [ask_left]
    exact run_meets tools hc
  refine bind_left (hask _ w ⟨h.vacant (by decide), name, loc, rfl, h⟩) fun _ w₁ h₁ => ?_
  refine bind_left (P := OnlyMeets layout w) (h₁.trans (onFiles_meets _ _ w₁)) fun _ w₂ h₂ => ?_
  refine bind_left (P := OnlyMeets layout w) (h₂.trans (hask _ w₂ trivial)) fun _ w₃ h₃ => ?_
  exact h₃.trans (hask _ w₃ trivial)

theorem generate_meets (hup : layout.root.NeverUp) (options : PackageOptions)
    (folder : TemplateFolder) (w : World (Watched σ)) :
    OnlyMeets layout w (Disk.left (generate tools.watched layout options folder w)) := by
  unfold generate
  split
  · exact OnlyMeets.of_seen rfl
  · rename_i name hname
    split
    · exact OnlyMeets.of_seen rfl
    · have hprepare : OnlyMeets layout w (Disk.left (World.onFiles
          (.prepare (layout.packageDir name)) (Package.prepare (layout.packageDir name)) w :
          EStateM.Result PackageError _ Unit)) :=
        onFiles_meets _ _ w
      simp only
      split <;> rename_i hprep
      · rw [show (layout.package name options.entryPoint).dir = layout.packageDir name from rfl]
          at hprep
        rw [hprep] at hprepare
        exact hprepare
      · rename_i w₁
        rw [show (layout.package name options.entryPoint).dir = layout.packageDir name from rfl]
          at hprep
        rw [hprep] at hprepare
        unfold World.onFiles at hprep
        split at hprep <;> cases hprep
        rename_i fs₁ hprep
        obtain ⟨loc, hfresh⟩ := fresh_of_prepare hup
          (Package.isOrdinary_dirName (isOrdinary_of_name? hname)) hprep
        have hfill := fill_meets tools options folder.path
          (w := { w with files := fs₁ }) hfresh
        split <;> rename_i heq <;> rw [heq] at hfill <;> exact hprepare.trans hfill

/-- **One call asks the tools only for what they can make**, whatever stands anywhere. -/
theorem act_meets (hup : layout.root.NeverUp) (call : Call) (w : World (Watched σ)) :
    OnlyMeets layout w (call.act tools.watched layout w) := by
  cases call with
  | fetch host r => exact fetch_meets tools host r w
  | generate options folder => exact generate_meets tools hup options folder w

/-- **Every call of any fetches and builds finds its destination free**: nothing stands where a clone
    is to be made, not even a link, and a source is copied into a new and empty directory. This holds
    for any toolchain, which may leave anything anywhere, and watching it changes nothing. -/
theorem runCalls_meetContract (hup : layout.root.NeverUp) (calls : List Call)
    (w : World (Watched σ)) :
    (runCalls tools.watched layout calls w).unwatched = runCalls tools layout calls w.unwatched ∧
      ∃ made, (runCalls tools.watched layout calls w).tools.seen = w.tools.seen ++ made ∧
        ∀ c ∈ made, c.MeetsContract layout := by
  refine ⟨runCalls_unwatched tools layout calls w, ?_⟩
  change OnlyMeets layout w _
  induction calls generalizing w with
  | nil => exact OnlyMeets.of_seen rfl
  | cons call rest ih => exact (act_meets tools hup call w).trans (ih _)

end Contract

/-- A template, and links and a file at the places that are to be made. -/
def leftovers : FileSystem :=
  .written [("T", .directory), ("T/repos", .directory), ("T/repos/a", .directory),
    ("T/repos/a/r", .link (.ofString "nowhere")), ("T/repos/a/q", .file [] false),
    ("T/x.sr", .link (.ofString "../s")), ("s", .directory), ("s/x", .directory),
    ("s/x/main.typ", .file (Text.Utf8.bytes "= X") false)]

theorem runCalls_meetContract_leftovers :
    let tools := (Rehearsal.toolchain {}).withFaults [⟨.compile, some 1, .io (.os .notFound)⟩]
    let layout : Layout := ⟨.ofString "T"⟩
    let calls := [Call.fetch "h" ⟨"a", "r", none⟩, Call.fetch "h" ⟨"a", "q", none⟩,
      Call.generate {} ⟨.ofString "s/x"⟩, Call.generate {} ⟨.ofString "s/x"⟩]
    let w : World (Watched (Counted (List ToolCall))) := ⟨leftovers, ⟨⟨[], []⟩, []⟩⟩
    layout.root.NeverUp ∧
      (runCalls tools.watched layout calls w).unwatched = runCalls tools layout calls w.unwatched ∧
      ∃ made, (runCalls tools.watched layout calls w).tools.seen = w.tools.seen ++ made ∧
        ∀ c ∈ made, c.MeetsContract layout := by
  intro tools layout calls w
  have hup : layout.root.NeverUp := by decide
  exact ⟨hup, runCalls_meetContract tools hup calls w⟩

end TemplatePress
