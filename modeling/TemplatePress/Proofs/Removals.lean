import TemplatePress.Proofs.Destinations

/-!
# What a removal takes away

Before a package is built or a repository fetched, whatever stands at its path is removed. The way
to the path may lead through links, also through what is to be removed. This file fixes:

* `falters_walk`: a walk that succeeds goes the same way where entries are missing, or finds nothing;
* `Path.EndsIn`: the last part of a path, as it is written, is a name;
* `removeTree_takes`: a directory is emptied and removed, unless the way to it was emptied with it;
* `removeIfPresent_takes`: when a removal fails, and what it leaves when it does not.
-/

namespace TemplatePress

open FileSystem TemplatePress.Path

namespace FileSystem

/-! ## 1. Walks where entries are missing -/

/-- Entries of one file system are missing in the other, and nothing else differs. -/
structure Loses (fs fs' : FileSystem) : Prop where
  home : fs'.home = fs.home
  entry : ∀ loc, fs'.at? loc = fs.at? loc ∨ fs'.at? loc = none

theorem loses_prune (fs : FileSystem) (top : Location) : Loses fs (fs.prune top) := by
  refine ⟨rfl, fun loc => ?_⟩
  by_cases hnil : loc = []
  · rw [hnil]
    exact Or.inl rfl
  · rw [at?_prune _ _ _ hnil]
    split
    · exact Or.inr rfl
    · exact Or.inl rfl

theorem loses_clear (fs : FileSystem) (top : Location) : Loses fs (fs.clear top) := by
  refine ⟨rfl, fun loc => ?_⟩
  by_cases hnil : loc = []
  · rw [hnil]
    exact Or.inl rfl
  · rw [at?_clear _ _ _ hnil]
    split
    · exact Or.inr rfl
    · exact Or.inl rfl

/-- Where one walk ends the other ends as well, or it finds nothing on its way. -/
def Falters (one other : Walk) : Prop :=
  ∀ (dir : Location) (steps : List Step) (slash : Bool) (s : Spot),
    one dir steps slash = .ok s →
    other dir steps slash = .ok s ∨ other dir steps slash = .error .notFound

theorem falters_walk_of_beyond {fs fs' : FileSystem} {links : Nat} (h : Loses fs fs')
    (hb : Falters (fs.beyond false links) (fs'.beyond false links)) :
    Falters (fs.walk false links) (fs'.walk false links) := by
  intro dir steps slash s hs
  rw [walk_eq] at hs ⊢
  induction steps generalizing dir with
  | nil => exact Or.inl hs
  | cons step steps ih =>
    cases steps with
    | nil =>
      cases step with
      | stay => exact Or.inl hs
      | up => exact Or.inl hs
      | enter n =>
        obtain ⟨hn, ⟨-, rfl⟩ | ⟨_, hf, -⟩⟩ := walkSteps_last_ok hs
        · exact Or.inl (walkSteps_last hn (by simp))
        · cases hf
    | cons next steps =>
      have hne : next :: steps ≠ [] := by simp
      cases step with
      | stay =>
        rw [walkSteps_stay hne] at hs ⊢
        exact ih _ hs
      | up =>
        rw [walkSteps_up hne] at hs ⊢
        exact ih _ hs
      | enter n =>
        obtain ⟨hn, hway⟩ := walkSteps_enter_ok hne hs
        rcases h.entry (dir ++ [n]) with hsame | hnone
        · rcases hway with ⟨hat, hs⟩ | ⟨target, hat, hs⟩
          · rw [walkSteps_enter_directory hne hn (hsame.trans hat)]
            exact ih _ hs
          · rw [walkSteps_enter_link hne hn (hsame.trans hat)]
            exact hb _ _ _ _ hs
        · have hn' : ¬ nameLimit < n.length := by omega
          exact Or.inr (by simp [walkSteps, hn', hnone])

/-- **A walk that succeeds goes the same way where entries are missing, or finds nothing.** -/
theorem falters_walk {fs fs' : FileSystem} (h : Loses fs fs') (links : Nat) :
    Falters (fs.walk false links) (fs'.walk false links) := by
  induction links with
  | zero =>
    refine falters_walk_of_beyond h fun dir steps slash s hs => ?_
    cases hs
  | succ links ih => exact falters_walk_of_beyond h ih

theorem spot_of_loses {fs fs' : FileSystem} (h : Loses fs fs') {p : Path} {s : Spot}
    (hs : fs.spot false p = .ok s) :
    fs'.spot false p = .ok s ∨ fs'.spot false p = .error (.os .notFound) := by
  obtain ⟨hcheck, hwalk⟩ := spot_eq_ok.1 hs
  have hstart : fs'.start p = fs.start p := by rw [start, start, h.home]
  rcases falters_walk h linkLimit _ _ _ s hwalk with hw | hw <;> rw [← hstart] at hw
  · exact Or.inl (spot_eq_ok.2 ⟨hcheck, hw⟩)
  · exact Or.inr (spot_eq_error.2 (Or.inr ⟨hcheck, _, rfl, hw⟩))

end FileSystem

/-! ## 2. The name at the end -/

/-- The last part of a path is a name, with no separator behind it. It is read as it is written: a
    `.` at the end is a part as well. -/
def Path.EndsIn (p : Path) (n : Name) : Prop :=
  p.steps.getLast? = some (.enter n) ∧ p.endsInSeparator = false

instance (p : Path) (n : Name) : Decidable (p.EndsIn n) :=
  inferInstanceAs (Decidable (_ ∧ _))

namespace FileSystem

section Remove

variable {fs : FileSystem} {p : Path} {n : Name}

/-- A look-up that does not follow its last link ends at the last name of the path. -/
theorem spot_of_endsIn (hp : p.EndsIn n) {s : Spot} (hs : fs.spot false p = .ok s) :
    ∃ dir, s = ⟨dir, .enter n, false⟩ := by
  obtain ⟨front, hsteps⟩ := List.getLast?_eq_some_iff.1 hp.1
  obtain ⟨-, hwalk⟩ := spot_eq_ok.1 hs
  rw [hsteps, hp.2] at hwalk
  obtain ⟨s', -, rfl⟩ :=
    endsBefore_walk (fun _ _ _ _ => eq_of_walkSteps_last) linkLimit _ _ _ false _ hwalk
  exact ⟨s'.location, rfl⟩

theorem lstat?_of_endsIn (hp : p.EndsIn n) {loc : Location} {e : Entry}
    (h : fs.lstat? p = .ok (loc, e)) :
    ∃ dir, fs.spot false p = .ok ⟨dir, .enter n, false⟩ ∧ loc = dir ++ [n] ∧
      fs.at? (dir ++ [n]) = some e := by
  obtain ⟨s, hs, rfl, hat, -⟩ := (lstat?_eq_ok hp.2).1 h
  obtain ⟨dir, rfl⟩ := spot_of_endsIn hp hs
  exact ⟨dir, hs, rfl, hat⟩

/-- **Where a look-up ended and nothing stands any more, nothing is found.** -/
theorem lstat?_of_loses (hp : p.EndsIn n) {fs' : FileSystem} (h : Loses fs fs') {dir : Location}
    (hs : fs.spot false p = .ok ⟨dir, .enter n, false⟩) (hnone : fs'.at? (dir ++ [n]) = none) :
    fs'.lstat? p = .error (.os .notFound) := by
  rw [lstat?, hp.2]
  rcases spot_of_loses h hs with hs' | hs'
  · rw [hs']
    simp only [present_enter, hnone, Option.elim_none]
  · rw [hs']

/-! ## 3. Removing -/

/-- What a removal leaves of the entry at a location: nothing at the path, nothing below the
    location, and every other place as it was. -/
structure TakenAway (p : Path) (loc : Location) (fs fs' : FileSystem) : Prop where
  vacant : fs'.lstat? p = .error (.os .notFound)
  kept : Kept (Below loc) fs fs'
  below : ∀ ns, ns ≠ [] → fs'.at? (loc ++ ns) = none
  /-- Nothing is left at the location either, unless the way of the path led through what was below
      it. Then the path does not find the directory that was emptied. -/
  top : fs'.at? loc = none ∨ fs' = fs.clear loc

/-- With the location everything below it is removed. -/
theorem takenAway_prune (hp : p.EndsIn n) {dir : Location}
    (hs : fs.spot false p = .ok ⟨dir, .enter n, false⟩) :
    TakenAway p (dir ++ [n]) fs (fs.prune (dir ++ [n])) := by
  have hgone := at?_prune_self fs (dir ++ [n]) (by simp)
  exact ⟨lstat?_of_loses hp (loses_prune fs _) hs hgone, kept_prune fs _,
    fun ns hns => at?_append_eq_none (by simp [hgone]) hns, Or.inl hgone⟩

/-- What is below the location is removed where the path does not find the rest any more. -/
theorem takenAway_clear {loc : Location}
    (h : (fs.clear loc).lstat? p = .error (.os .notFound)) :
    TakenAway p loc fs (fs.clear loc) := by
  refine ⟨h, ?_, fun ns hns => ?_, Or.inr rfl⟩
  · refine ⟨sameOutside_clear fs loc, sameListings_keepWhere fs _ fun k hk => ?_⟩
    simp only [Bool.or_eq_false_iff, Bool.not_eq_false'] at hk
    exact List.isPrefixOf_iff_prefix.1 hk.2
  · rw [at?_clear _ _ _ (by simp [hns]), if_pos ⟨List.prefix_append _ _, by simpa using hns⟩]

/-- **A directory is emptied and removed**, unless the way to it was emptied with it. -/
theorem removeTree_takes (hp : p.EndsIn n) {dir : Location}
    (hs : fs.spot false p = .ok ⟨dir, .enter n, false⟩)
    (hat : fs.at? (dir ++ [n]) = some .directory) :
    ∃ fs', removeTree p (dir ++ [n]) fs = .ok () fs' ∧ TakenAway p (dir ++ [n]) fs fs' := by
  have hat' : (fs.clear (dir ++ [n])).at? (dir ++ [n]) = some .directory := by
    rw [at?_clear _ _ _ (by simp), if_neg (by simp), hat]
  simp only [removeTree]
  rcases spot_of_loses (loses_clear fs (dir ++ [n])) hs with hs' | hs'
  · have hremove : (fs.clear (dir ++ [n])).removeDirectory p = .ok (fs.prune (dir ++ [n])) := by
      simp only [removeDirectory, hs', hat', children_clear, List.isEmpty_nil, if_true, prune_clear]
    exact ⟨_, by simp only [hremove], takenAway_prune hp hs⟩
  · have hremove : (fs.clear (dir ++ [n])).removeDirectory p = .error (.os .notFound) := by
      simp only [removeDirectory, hs']
    have hlost : (fs.clear (dir ++ [n])).lstat? p = .error (.os .notFound) := by
      rw [lstat?, hp.2, hs']
    exact ⟨_, by simp only [hremove, IoError.isNotFound, decide_true, if_true],
      takenAway_clear hlost⟩

/-- **A removal takes away what its path finds, and nothing else.** It fails exactly if looking the
    path up fails otherwise than by finding nothing, and changes nothing then. If it succeeds, either
    nothing was found and nothing changes, or what was found is taken away with all that was below
    it. A link is taken away itself; what it points to, and what links below point to, is outside
    and stays. -/
theorem removeIfPresent_takes (hp : p.EndsIn n) (fs : FileSystem) :
    (∀ e fs', removeIfPresent p fs = .error e fs' ↔
      fs' = fs ∧ fs.lstat? p = .error e ∧ e ≠ .os .notFound) ∧
    ∀ fs', removeIfPresent p fs = .ok () fs' →
      fs'.lstat? p = .error (.os .notFound) ∧
        (fs.lstat? p = .error (.os .notFound) ∧ fs' = fs ∨
          ∃ loc e, fs.lstat? p = .ok (loc, e) ∧ TakenAway p loc fs fs') := by
  cases hfound : fs.lstat? p with
  | error e =>
    have hremove : removeIfPresent p fs =
        if e.isNotFound then .ok () fs else .error e fs := by
      simp only [removeIfPresent, hfound]
    rw [hremove]
    by_cases he : e = .os .notFound
    · subst he
      rw [if_pos (show IoError.isNotFound (.os .notFound) = true from rfl)]
      refine ⟨fun e' fs' => ⟨by simp, ?_⟩, ?_⟩
      · rintro ⟨-, ⟨⟩, hne⟩
        exact absurd rfl hne
      · rintro _ ⟨⟩
        exact ⟨hfound, Or.inl ⟨rfl, rfl⟩⟩
    · rw [if_neg (show ¬ e.isNotFound = true by simpa [IoError.isNotFound] using he)]
      refine ⟨fun e' fs' => ⟨?_, ?_⟩, by simp⟩
      · rintro ⟨⟩
        exact ⟨rfl, rfl, he⟩
      · rintro ⟨rfl, ⟨⟩, -⟩
        rfl
  | ok found =>
    obtain ⟨loc, e⟩ := found
    obtain ⟨dir, hs, rfl, hat⟩ := lstat?_of_endsIn hp hfound
    obtain ⟨fs₁, hremove, htaken⟩ : ∃ fs₁, removeIfPresent p fs = .ok () fs₁ ∧
        TakenAway p (dir ++ [n]) fs fs₁ := by
      unfold removeIfPresent
      rw [hfound]
      cases e with
      | directory => exact removeTree_takes hp hs hat
      | file _ _ => exact ⟨_, rfl, takenAway_prune hp hs⟩
      | link _ => exact ⟨_, rfl, takenAway_prune hp hs⟩
    rw [hremove]
    refine ⟨fun e' fs' => ⟨by simp, ?_⟩, ?_⟩
    · rintro ⟨-, ⟨⟩, -⟩
    · rintro _ ⟨⟩
      exact ⟨htaken.vacant, Or.inr ⟨_, e, rfl, htaken⟩⟩

/-- A way through the directory that is removed: it is emptied, and the path finds nothing then. -/
example :
    let fs : FileSystem := .written [("a", .directory), ("a/b", .directory)]
    Disk.succeeds (fun _ fs' => fs'.isDirectory [Text.Utf8.bytes "a"])
      (removeIfPresent (.ofString "a/b/../../a") fs) = true := by
  decide +kernel

/-- A directory with links out of it, to itself and to nothing. -/
def tangle : FileSystem :=
  .written [("keep", .directory), ("keep/note", .file (Text.Utf8.bytes "kept") false),
    ("way", .link (.ofString "T")), ("T", .directory), ("T/x.sr", .directory),
    ("T/x.sr/deep", .directory), ("T/x.sr/deep/out", .link (.ofString "../../../keep")),
    ("T/x.sr/again", .link (.ofString "../x.sr")), ("T/x.sr/lost", .link (.ofString "nowhere"))]

theorem removeIfPresent_takes_tangle :
    let p : Path := .ofString "way/x.sr"
    let n : Name := Text.Utf8.bytes "x.sr"
    p.EndsIn n ∧
      Disk.succeeds (fun _ fs' => fs'.readText (.ofString "keep/note") = .ok "kept")
        (removeIfPresent p tangle) = true ∧
      (∀ e fs', removeIfPresent p tangle = .error e fs' ↔
        fs' = tangle ∧ tangle.lstat? p = .error e ∧ e ≠ .os .notFound) ∧
      ∀ fs', removeIfPresent p tangle = .ok () fs' →
        fs'.lstat? p = .error (.os .notFound) ∧
          (tangle.lstat? p = .error (.os .notFound) ∧ fs' = tangle ∨
            ∃ loc e, tangle.lstat? p = .ok (loc, e) ∧ TakenAway p loc tangle fs') := by
  intro p n
  have hp : p.EndsIn n := by decide +kernel
  exact ⟨hp, by decide +kernel, removeIfPresent_takes hp tangle⟩

end Remove

end FileSystem

end TemplatePress
