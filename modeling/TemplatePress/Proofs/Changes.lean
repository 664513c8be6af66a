import TemplatePress.FileSystem.Change
import TemplatePress.Proofs.Regions

/-!
# What the operations on files do

One lemma for each way an operation can go, for paths `p.join ⟨n⟩` where `p` leads to a directory
`dir`, so that the operation is about the location `dir ++ [n]`:

* creating a directory, writing a file and copying one put a single entry there
  (`makeDirectories_join_ok`, `writeFile_join_ok`, `copyFile_join_ok`), or fail and change nothing;
* removing leaves nothing there (`removeIfPresent_join`);
* where directories on the way are missing, creating a directory adds them and nothing else
  (`makeDirectories_straight`);
* `Hosts` says that the look-up behind `p` cannot be led elsewhere; both hold under it
  (`removeIfPresent_hosts`, `makeDirectories_hosts`).
-/

namespace TemplatePress

/-- The state that an action leaves, whether it fails or not. -/
def Disk.left {ε σ α : Type} : EStateM.Result ε σ α → σ
  | .ok _ s => s
  | .error _ s => s

@[simp] theorem Disk.left_ok {ε σ α : Type} (a : α) (s : σ) :
    Disk.left (.ok a s : EStateM.Result ε σ α) = s := rfl

@[simp] theorem Disk.left_error {ε σ α : Type} (e : ε) (s : σ) :
    Disk.left (.error e s : EStateM.Result ε σ α) = s := rfl

/-- What an action answers, whatever state it leaves. -/
def Disk.outcome {ε σ α : Type} : EStateM.Result ε σ α → Except ε α
  | .ok a _ => .ok a
  | .error e _ => .error e

@[simp] theorem Disk.outcome_ok {ε σ α : Type} (a : α) (s : σ) :
    Disk.outcome (.ok a s : EStateM.Result ε σ α) = .ok a := rfl

@[simp] theorem Disk.outcome_error {ε σ α : Type} (e : ε) (s : σ) :
    Disk.outcome (.error e s : EStateM.Result ε σ α) = .error e := rfl

theorem Disk.outcome_eq_ok {ε σ α : Type} {x : EStateM.Result ε σ α} {a : α} :
    Disk.outcome x = .ok a ↔ ∃ s, x = .ok a s := by
  cases x <;> simp [Disk.outcome]

theorem Disk.outcome_eq_error {ε σ α : Type} {x : EStateM.Result ε σ α} {e : ε} :
    Disk.outcome x = .error e ↔ ∃ s, x = .error e s := by
  cases x <;> simp [Disk.outcome]

/-- Whether an action succeeded, with an answer and a state that pass a test. -/
def Disk.succeeds {ε σ α : Type} (test : α → σ → Bool) : EStateM.Result ε σ α → Bool
  | .ok a s => test a s
  | .error _ _ => false

theorem Disk.succeeds_iff {ε σ α : Type} {test : α → σ → Bool} {x : EStateM.Result ε σ α} :
    Disk.succeeds test x = true ↔ ∃ a s, x = .ok a s ∧ test a s = true := by
  cases x <;> simp [Disk.succeeds]

/-- An action comes to no answer. -/
def Disk.fails {ε σ α : Type} (x : EStateM.Result ε σ α) : Bool :=
  !Disk.succeeds (fun _ _ => true) x

theorem Disk.fails_iff {ε σ α : Type} {x : EStateM.Result ε σ α} :
    Disk.fails x = true ↔ ∃ e s, x = .error e s := by
  cases x <;> simp [Disk.fails, Disk.succeeds]

namespace FileSystem

/-! ## 1. Putting one entry -/

section Join

variable {fs fs' : FileSystem} {p : Path} {dir : Location} {n : Name}

theorem admits_join (h : fs.Leads p dir) (hn : Name.isOrdinary n = true) {e : Entry}
    (he : e = .directory ∨ fs.at? (dir ++ [n]) ≠ some .directory) : fs.admits dir n e = true := by
  simp only [admits, hn, h.isDirectory, Bool.and_true, Bool.true_and, Bool.or_eq_true,
    decide_eq_true_eq]
  exact he

theorem makeDirectory_join_none (h : fs.Leads p dir) (hn : Name.isOrdinary n = true)
    (hc : nameCheck p n = .ok ()) (hat : fs.at? (dir ++ [n]) = none) :
    fs.makeDirectory (p.join ⟨n⟩) = .ok (fs.put dir n .directory) := by
  simp [makeDirectory, spot_join_unfollowed h hn hc, hat,
    admits_join h hn (Or.inl rfl)]

theorem makeDirectory_join_some (h : fs.Leads p dir) (hn : Name.isOrdinary n = true)
    (hc : nameCheck p n = .ok ()) {e : Entry} (hat : fs.at? (dir ++ [n]) = some e) :
    fs.makeDirectory (p.join ⟨n⟩) = .error (.os .alreadyExists) := by
  simp [makeDirectory, spot_join_unfollowed h hn hc, hat]

theorem makeDirectory_join_error (h : fs.Leads p dir) (hn : Name.isOrdinary n = true) {e : IoError}
    (hc : nameCheck p n = .error e) : fs.makeDirectory (p.join ⟨n⟩) = .error e := by
  simp [makeDirectory, spot_join_error h hn hc]

/-- A path comes before the paths above it. -/
theorem ancestorsFrom_eq_cons (k : Nat) (q : Path) :
    ∃ above, ancestorsFrom k q = q :: above := by
  cases k with
  | zero => exact ⟨[], rfl⟩
  | succ k =>
    unfold ancestorsFrom
    split
    · exact ⟨[], rfl⟩
    · exact ⟨_, rfl⟩

theorem makeFirst_of_ok {q : Path} {above : List Path} (hq : q.isEmpty = false)
    (h : fs.makeDirectory q = .ok fs') : makeFirst (q :: above) fs = .ok () fs' := by
  simp [makeFirst, hq, h]

theorem makeFirst_of_error {q : Path} {above : List Path} (hq : q.isEmpty = false) {e : IoError}
    (h : fs.makeDirectory q = .error e) (he : e.isNotFound = false) :
    makeFirst (q :: above) fs =
      if fs.leadsToDirectory q then .ok () fs else .error e fs := by
  simp [makeFirst, hq, h, he]

theorem makeFirst_of_missing {q : Path} (above : List Path) (hq : q.isEmpty = false) {e : IoError}
    (h : fs.makeDirectory q = .error e) (he : e.isNotFound = true) :
    makeFirst (q :: above) fs =
      match makeFirst above fs with
      | .error e fs' => .error e fs'
      | .ok () fs' =>
        match fs'.makeDirectory q with
        | .ok fs'' => .ok () fs''
        | .error e => if fs'.leadsToDirectory q then .ok () fs' else .error e fs' := by
  cases habove : makeFirst above fs with
  | error e' fs' => simp only [makeFirst, hq, Bool.false_eq_true, if_false, h, he, if_true, habove]
  | ok u fs' =>
    cases hmk : fs'.makeDirectory q <;>
      simp only [makeFirst, hq, Bool.false_eq_true, if_false, h, he, if_true, habove, hmk]

/-- **How the first directory of a list comes to stand**: there was nothing to make, it was made, or
    the ones after it were made before, and then there was nothing to make or it was made. -/
theorem makeFirst_eq_ok {q : Path} {above : List Path}
    (h : makeFirst (q :: above) fs = .ok () fs') :
    (q.isEmpty = true ∨ fs.leadsToDirectory q = true) ∧ fs' = fs ∨
      fs.makeDirectory q = .ok fs' ∨
      ∃ fs₁, makeFirst above fs = .ok () fs₁ ∧
        (fs₁.leadsToDirectory q = true ∧ fs' = fs₁ ∨ fs₁.makeDirectory q = .ok fs') := by
  unfold makeFirst at h
  split at h
  · rename_i hempty
    cases h
    exact Or.inl ⟨Or.inl hempty, rfl⟩
  · split at h
    · rename_i hmade
      cases h
      exact Or.inr (Or.inl hmade)
    · split at h
      · split at h
        · cases h
        · rename_i fs₁ habove
          refine Or.inr (Or.inr ⟨fs₁, habove, ?_⟩)
          split at h
          · rename_i hmade
            cases h
            exact Or.inr hmade
          · split at h <;> cases h
            rename_i hleads
            exact Or.inl ⟨hleads, rfl⟩
      · split at h <;> cases h
        rename_i hleads
        exact Or.inl ⟨Or.inr hleads, rfl⟩

/-- **What is kept by making each directory of a list is kept by making those that are missing**,
    wherever that stops. -/
theorem makeFirst_left {inv : FileSystem → Prop} {qs : List Path}
    (hmake : ∀ q ∈ qs, ∀ fs fs', inv fs → fs.makeDirectory q = .ok fs' → inv fs')
    (h : inv fs) : inv (Disk.left (makeFirst qs fs)) := by
  induction qs with
  | nil => exact h
  | cons q above ih =>
    have hq := hmake q List.mem_cons_self
    have habove := ih fun r hr => hmake r (List.mem_cons_of_mem _ hr)
    unfold makeFirst
    split
    · exact h
    · split
      · exact hq _ _ h (by assumption)
      · split
        · split <;> rename_i heq <;> rw [heq] at habove
          · exact habove
          · split
            · exact hq _ _ habove (by assumption)
            · split <;> exact habove
        · split <;> exact h

/-- What is kept by making any directory is kept by making one with those above it. -/
theorem makeDirectories_left {inv : FileSystem → Prop}
    (hmake : ∀ fs fs' q, inv fs → fs.makeDirectory q = .ok fs' → inv fs') (h : inv fs) (q : Path) :
    inv (Disk.left (makeDirectories q fs)) :=
  makeFirst_left (fun q _ fs fs' => hmake fs fs' q) h

/-- **Where the directory above stands, one directory is created, or nothing changes.** -/
theorem makeDirectories_join (h : fs.Leads p dir) (hn : Name.isOrdinary n = true) :
    makeDirectories (p.join ⟨n⟩) fs = .ok () (fs.put dir n .directory) ∧
        nameCheck p n = .ok () ∧ fs.at? (dir ++ [n]) = none ∨
      makeDirectories (p.join ⟨n⟩) fs = .ok () fs ∧ fs.leadsToDirectory (p.join ⟨n⟩) = true ∨
      ∃ e, makeDirectories (p.join ⟨n⟩) fs = .error e fs ∧
        (nameCheck p n = .error e ∨ fs.at? (dir ++ [n]) ≠ none) := by
  obtain ⟨above, hq⟩ := ancestorsFrom_eq_cons (p.join ⟨n⟩).components.length (p.join ⟨n⟩)
  have hne := Path.isEmpty_join_name p hn
  rw [makeDirectories, hq]
  cases hc : nameCheck p n with
  | error e =>
    rw [makeFirst_of_error hne (makeDirectory_join_error h hn hc) (isNotFound_of_nameCheck hn hc)]
    have hnot : fs.leadsToDirectory (p.join ⟨n⟩) = false := by
      simp [leadsToDirectory, stat?_join_error h hn hc]
    rw [hnot]
    exact Or.inr (Or.inr ⟨e, rfl, Or.inl rfl⟩)
  | ok =>
    cases hat : fs.at? (dir ++ [n]) with
    | none =>
      rw [makeFirst_of_ok hne (makeDirectory_join_none h hn hc hat)]
      exact Or.inl ⟨rfl, rfl, rfl⟩
    | some e =>
      rw [makeFirst_of_error hne (makeDirectory_join_some h hn hc hat) rfl]
      by_cases hd : fs.leadsToDirectory (p.join ⟨n⟩) = true
      · rw [if_pos hd]
        exact Or.inr (Or.inl ⟨rfl, hd⟩)
      · rw [if_neg hd]
        exact Or.inr (Or.inr ⟨_, rfl, Or.inr (by simp)⟩)

theorem makeDirectories_join_none (h : fs.Leads p dir) (hn : Name.isOrdinary n = true)
    (hc : nameCheck p n = .ok ()) (hat : fs.at? (dir ++ [n]) = none) :
    makeDirectories (p.join ⟨n⟩) fs = .ok () (fs.put dir n .directory) := by
  obtain ⟨above, hq⟩ := ancestorsFrom_eq_cons (p.join ⟨n⟩).components.length (p.join ⟨n⟩)
  rw [makeDirectories, hq]
  exact makeFirst_of_ok (Path.isEmpty_join_name p hn) (makeDirectory_join_none h hn hc hat)

/-- A path to a directory leads to what stands at its location, if that is no link. -/
theorem at?_of_leadsToDirectory (h : fs.Leads p dir) (hn : Name.isOrdinary n = true)
    (hfree : ∀ target, fs.at? (dir ++ [n]) ≠ some (.link target))
    (hd : fs.leadsToDirectory (p.join ⟨n⟩) = true) :
    nameCheck p n = .ok () ∧ fs.at? (dir ++ [n]) = some .directory := by
  obtain ⟨loc, hs⟩ := leadsToDirectory_iff.1 hd
  cases hc : nameCheck p n with
  | error e =>
    rw [stat?_join_error h hn hc] at hs
    cases hs
  | ok =>
    obtain rfl := h.of_join hn hfree (leads_of_stat? hs)
    exact ⟨rfl, at?_of_stat? hs⟩

/-- **After the directory is created it stands at the location, and the path leads there.** -/
theorem makeDirectories_join_ok (h : fs.Leads p dir) (hn : Name.isOrdinary n = true)
    (hfree : ∀ target, fs.at? (dir ++ [n]) ≠ some (.link target))
    (hm : makeDirectories (p.join ⟨n⟩) fs = .ok () fs') :
    nameCheck p n = .ok () ∧ fs'.at? (dir ++ [n]) = some .directory ∧ Grows (dir ++ [n]) fs fs' ∧
      (fs.at? (dir ++ [n]) = some .directory ∧ fs' = fs ∨
        fs.at? (dir ++ [n]) = none ∧ fs' = fs.put dir n .directory) := by
  have hadm := admits_join h hn (Or.inl rfl : (Entry.directory = .directory ∨ _))
  rcases makeDirectories_join h hn with ⟨heq, hc, hat⟩ | ⟨heq, hd⟩ | ⟨e, heq, -⟩ <;> rw [hm] at heq
  · cases heq
    refine ⟨hc, ?_, grows_put hadm (by simp) hfree, Or.inr ⟨hat, rfl⟩⟩
    rw [at?_put hadm, if_pos rfl]
  · cases heq
    obtain ⟨hc, hat⟩ := at?_of_leadsToDirectory h hn hfree hd
    exact ⟨hc, hat, Grows.refl _ _, Or.inl ⟨hat, rfl⟩⟩
  · cases heq

theorem makeDirectories_join_error (h : fs.Leads p dir) (hn : Name.isOrdinary n = true)
    {e : IoError} (hm : makeDirectories (p.join ⟨n⟩) fs = .error e fs') : fs' = fs := by
  rcases makeDirectories_join h hn with ⟨heq, -, -⟩ | ⟨heq, -⟩ | ⟨e', heq, -⟩ <;> rw [hm] at heq <;>
    cases heq
  rfl

/-- What creating a directory behind a path does, told from what stands there, if that is no link. -/
theorem makeDirectories_join_eq (h : fs.Leads p dir) (hn : Name.isOrdinary n = true)
    (hfree : ∀ target, fs.at? (dir ++ [n]) ≠ some (.link target)) :
    makeDirectories (p.join ⟨n⟩) fs =
      match nameCheck p n, fs.at? (dir ++ [n]) with
      | .error e, _ => .error e fs
      | .ok (), none => .ok () (fs.put dir n .directory)
      | .ok (), some .directory => .ok () fs
      | .ok (), some _ => .error (.os .alreadyExists) fs := by
  obtain ⟨above, hq⟩ := ancestorsFrom_eq_cons (p.join ⟨n⟩).components.length (p.join ⟨n⟩)
  have hne := Path.isEmpty_join_name p hn
  cases hc : nameCheck p n with
  | error e =>
    rw [makeDirectories, hq, makeFirst_of_error hne (makeDirectory_join_error h hn hc)
      (isNotFound_of_nameCheck hn hc), leadsToDirectory, stat?_join_error h hn hc]
    rfl
  | ok =>
    cases hat : fs.at? (dir ++ [n]) with
    | none => exact makeDirectories_join_none h hn hc hat
    | some e =>
      rw [makeDirectories, hq, makeFirst_of_error hne (makeDirectory_join_some h hn hc hat) rfl,
        leadsToDirectory, stat?_join h hn hc hfree, hat]
      cases e with
      | directory => rfl
      | file _ _ => rfl
      | link target => exact absurd hat (hfree target)

/-- Where a write behind a path goes, told from what stands there, if that is no link. -/
theorem writeTarget_join_eq (h : fs.Leads p dir) (hn : Name.isOrdinary n = true)
    (hfree : ∀ target, fs.at? (dir ++ [n]) ≠ some (.link target)) :
    fs.writeTarget (p.join ⟨n⟩) =
      match nameCheck p n, fs.at? (dir ++ [n]) with
      | .error e, _ => .error e
      | .ok (), none => .ok (dir, n, none)
      | .ok (), some (.file _ executable) => .ok (dir, n, some executable)
      | .ok (), some _ => .error (.os .isDirectory) := by
  cases hc : nameCheck p n with
  | error e => rw [writeTarget, spot_join_error h hn hc]
  | ok =>
    rw [writeTarget, spot_join h hn hc fun _ => hfree]
    cases hat : fs.at? (dir ++ [n]) with
    | none =>
      have hadm : fs.admits dir n (.file [] false) = true :=
        admits_join h hn (Or.inr (by rw [hat]; simp))
      simp only [hat, hadm, if_true]
    | some e => cases e <;> simp only [hat]

/-- Where a write behind a path goes, if no link stands there. -/
theorem writeTarget_join (h : fs.Leads p dir) (hn : Name.isOrdinary n = true)
    (hfree : ∀ target, fs.at? (dir ++ [n]) ≠ some (.link target))
    {d : Location} {m : Name} {executable : Option Bool}
    (hw : fs.writeTarget (p.join ⟨n⟩) = .ok (d, m, executable)) :
    d = dir ∧ m = n ∧ nameCheck p n = .ok () ∧ fs.at? (dir ++ [n]) ≠ some .directory := by
  rw [writeTarget_join_eq h hn hfree] at hw
  split at hw <;> cases hw
  · rename_i hc hat
    exact ⟨rfl, rfl, hc, by simp [hat]⟩
  · rename_i hc hat
    exact ⟨rfl, rfl, hc, by simp [hat]⟩

theorem writeTarget_join_none (h : fs.Leads p dir) (hn : Name.isOrdinary n = true)
    (hc : nameCheck p n = .ok ()) (hat : fs.at? (dir ++ [n]) = none) :
    fs.writeTarget (p.join ⟨n⟩) = .ok (dir, n, none) := by
  rw [writeTarget_join_eq h hn (by simp [hat]), hc, hat]

theorem grows_put_file (h : fs.Leads p dir) (hn : Name.isOrdinary n = true)
    (hfree : ∀ target, fs.at? (dir ++ [n]) ≠ some (.link target))
    (hdir : fs.at? (dir ++ [n]) ≠ some .directory) (content : Bytes) (executable : Bool) :
    Grows (dir ++ [n]) fs (fs.put dir n (.file content executable)) ∧
      (fs.put dir n (.file content executable)).at? (dir ++ [n]) =
        some (.file content executable) := by
  have hadm : fs.admits dir n (.file content executable) = true := admits_join h hn (Or.inr hdir)
  refine ⟨grows_put hadm (by simp) hfree, ?_⟩
  rw [at?_put hadm, if_pos rfl]

/-- **A written file stands at its location, and nothing else is changed.** -/
theorem writeFile_join_ok (h : fs.Leads p dir) (hn : Name.isOrdinary n = true)
    (hfree : ∀ target, fs.at? (dir ++ [n]) ≠ some (.link target)) {content : Bytes}
    (hw : fs.writeFile (p.join ⟨n⟩) content = .ok fs') :
    ∃ executable, fs' = fs.put dir n (.file content executable) ∧
      Grows (dir ++ [n]) fs fs' ∧ fs'.at? (dir ++ [n]) = some (.file content executable) ∧
      (fs.at? (dir ++ [n]) = none → executable = false) ∧ nameCheck p n = .ok () := by
  unfold writeFile at hw
  split at hw
  · cases hw
  · rename_i d m executable ht
    cases hw
    obtain ⟨rfl, rfl, hc, hdir⟩ := writeTarget_join h hn hfree ht
    obtain ⟨hg, hat⟩ := grows_put_file h hn hfree hdir content (executable.getD false)
    refine ⟨_, rfl, hg, hat, fun hnone => ?_, hc⟩
    rw [writeTarget_join_none h hn hc hnone] at ht
    cases ht
    rfl

/-- **A copied file stands at its location with what the source leads to.** A file copied onto
    itself loses its content. -/
theorem copyFile_join_ok (h : fs.Leads p dir) (hn : Name.isOrdinary n = true)
    (hfree : ∀ target, fs.at? (dir ++ [n]) ≠ some (.link target)) {source : Path}
    (hw : fs.copyFile source (p.join ⟨n⟩) = .ok fs') :
    ∃ loc content executable, fs.stat? source = .ok (loc, .file content executable) ∧
      fs'.at? (dir ++ [n]) =
        some (.file (if dir ++ [n] = loc then [] else content) executable) ∧
      Grows (dir ++ [n]) fs fs' ∧ nameCheck p n = .ok () := by
  unfold copyFile at hw
  split at hw
  · cases hw
  · rename_i loc content executable hs
    split at hw
    · cases hw
    · rename_i d m old ht
      cases hw
      obtain ⟨rfl, rfl, hc, hdir⟩ := writeTarget_join h hn hfree ht
      obtain ⟨hg, hat⟩ := grows_put_file h hn hfree hdir
        (if d ++ [m] = loc then [] else content) executable
      exact ⟨loc, content, executable, hs, hat, hg, hc⟩
  · cases hw

/-- A file written where nothing stood is new. -/
theorem writeFile_join_new (h : fs.Leads p dir) (hn : Name.isOrdinary n = true)
    (hnone : fs.at? (dir ++ [n]) = none) {content : Bytes}
    (hw : fs.writeFile (p.join ⟨n⟩) content = .ok fs') :
    fs'.at? (dir ++ [n]) = some (.file content false) ∧ Grows (dir ++ [n]) fs fs' ∧
      nameCheck p n = .ok () := by
  obtain ⟨executable, -, hg, hat, hnew, hc⟩ := writeFile_join_ok h hn (by simp [hnone]) hw
  rw [hnew hnone] at hat
  exact ⟨hat, hg, hc⟩

/-- A file copied to where nothing stood holds what its source leads to. -/
theorem copyFile_join_new (h : fs.Leads p dir) (hn : Name.isOrdinary n = true)
    (hnone : fs.at? (dir ++ [n]) = none) {source : Path}
    (hw : fs.copyFile source (p.join ⟨n⟩) = .ok fs') :
    ∃ loc content executable, fs.stat? source = .ok (loc, .file content executable) ∧
      fs'.at? (dir ++ [n]) = some (.file content executable) ∧ Grows (dir ++ [n]) fs fs' ∧
      nameCheck p n = .ok () := by
  obtain ⟨loc, content, executable, hs, hat, hg, hc⟩ := copyFile_join_ok h hn (by simp [hnone]) hw
  -- the source stands somewhere, the copy nowhere yet
  have hne : dir ++ [n] ≠ loc := by
    rintro rfl
    rw [at?_of_stat? hs] at hnone
    cases hnone
  rw [if_neg hne] at hat
  exact ⟨loc, content, executable, hs, hat, hg, hc⟩

end Join

/-! ## 2. Removing -/

theorem sameOutside_clear (fs : FileSystem) (top : Location) :
    SameOutside (Below top) fs (fs.clear top) := by
  refine ⟨rfl, fun loc hloc => ?_⟩
  by_cases hnil : loc = []
  · rw [hnil]
    rfl
  · rw [at?_clear fs top loc hnil, if_neg fun hin => hloc hin.1]

theorem sameOutside_prune (fs : FileSystem) (top : Location) :
    SameOutside (Below top) fs (fs.prune top) := by
  refine ⟨rfl, fun loc hloc => ?_⟩
  by_cases hnil : loc = []
  · rw [hnil]
    rfl
  · rw [at?_prune fs top loc hnil, if_neg (show ¬ top <+: loc from hloc)]

theorem sameListings_keepWhere (fs : FileSystem) {top : Location} {p : Location → Bool}
    (closed : ∀ dir n, p (dir ++ [n]) = true → p dir = true)
    (hp : ∀ loc, p loc = false → top <+: loc) :
    SameListings (Below top) fs (fs.keepWhere p closed) := by
  intro dir hdir
  rw [children_keepWhere, List.filter_eq_self]
  intro x _
  cases hx : p (dir ++ [x.1]) with
  | true => rfl
  | false => exact absurd (hp _ hx) (hdir x.1)

theorem kept_prune (fs : FileSystem) (top : Location) : Kept (Below top) fs (fs.prune top) := by
  refine ⟨sameOutside_prune fs top, sameListings_keepWhere fs _ fun loc hloc => ?_⟩
  simpa using hloc

theorem at?_prune_self (fs : FileSystem) (top : Location) (htop : top ≠ []) :
    (fs.prune top).at? top = none := by
  rw [at?_prune fs top top htop, if_pos List.prefix_rfl]

theorem children_clear (fs : FileSystem) (top : Location) : (fs.clear top).children top = [] := by
  refine List.eq_nil_iff_forall_not_mem.2 fun x hx => ?_
  obtain ⟨n, e⟩ := x
  rw [mem_children, at?_clear _ _ _ (by simp), if_pos ⟨List.prefix_append _ _, by simp⟩] at hx
  cases hx

/-- The directory that something is removed from lists the other entries as before. -/
theorem children_prune (fs : FileSystem) (dir : Location) (n : Name) :
    (fs.prune (dir ++ [n])).children dir = (fs.children dir).filter fun x => x.1 ≠ n := by
  rw [prune, children_keepWhere]
  refine List.filter_congr fun x _ => ?_
  by_cases hx : x.1 = n
  · simp [hx]
  · have hnot : ¬ (dir ++ [n] <+: dir ++ [x.1]) := fun h => hx (eq_of_below List.prefix_rfl h)
    simpa [hx, ← Bool.not_eq_true, List.isPrefixOf_iff_prefix] using hnot

theorem eq_of_entries {fs fs' : FileSystem} (hhome : fs'.home = fs.home)
    (h : fs'.entries = fs.entries) : fs' = fs := by
  cases fs
  cases fs'
  cases hhome
  cases h
  rfl

theorem prune_clear (fs : FileSystem) (top : Location) : (fs.clear top).prune top = fs.prune top := by
  refine eq_of_entries rfl ?_
  show (fs.entries.filter _).filter _ = fs.entries.filter _
  rw [List.filter_filter]
  refine List.filter_congr fun x _ => ?_
  cases h : top.isPrefixOf x.1 <;> simp [h]

/-- Where nothing stands, removing changes nothing. -/
theorem prune_eq_self {fs : FileSystem} {top : Location} (h : fs.at? top = none) :
    fs.prune top = fs := by
  refine eq_of_entries rfl (List.filter_eq_self.2 fun x hx => ?_)
  have hnil : x.1 ≠ [] := by
    obtain ⟨dir, n, heq, -⟩ := fs.seated x.1 x.2 hx
    simp [heq]
  have hat := (at?_eq_some_iff hnil).2 hx
  rw [Bool.not_eq_true', ← Bool.not_eq_true, List.isPrefixOf_iff_prefix]
  rintro ⟨ns, hns⟩
  rw [← hns] at hat
  by_cases hne : ns = []
  · rw [hne, List.append_nil, h] at hat
    cases hat
  · rw [at?_append_eq_none (by simp [h]) hne] at hat
    cases hat

section Remove

variable {fs : FileSystem} {p : Path} {dir : Location} {n : Name}

/-- A tree is removed with the directory at its top. -/
theorem removeTree_join (h : Steady fs (Below (dir ++ [n])) p dir)
    (hn : Name.isOrdinary n = true) (hc : nameCheck p n = .ok ())
    (hat : fs.at? (dir ++ [n]) = some .directory) :
    removeTree (p.join ⟨n⟩) (dir ++ [n]) fs = .ok () (fs.prune (dir ++ [n])) := by
  have hl : (fs.clear (dir ++ [n])).Leads p dir := h _ (sameOutside_clear fs _)
  have hat' : (fs.clear (dir ++ [n])).at? (dir ++ [n]) = some .directory := by
    rw [at?_clear _ _ _ (by simp), if_neg (by simp), hat]
  have hr : (fs.clear (dir ++ [n])).removeDirectory (p.join ⟨n⟩) =
      .ok ((fs.clear (dir ++ [n])).prune (dir ++ [n])) := by
    simp [removeDirectory, spot_join_unfollowed hl hn hc, hat', children_clear]
  simp only [removeTree, hr, prune_clear]

/-- **Removing takes away what stands at the location, with all below it.** -/
theorem removeIfPresent_join (h : Steady fs (Below (dir ++ [n])) p dir)
    (hn : Name.isOrdinary n = true) (hc : nameCheck p n = .ok ()) :
    removeIfPresent (p.join ⟨n⟩) fs = .ok () (fs.prune (dir ++ [n])) := by
  have hl := lstat?_join h.leads hn hc
  unfold removeIfPresent
  match hat : fs.at? (dir ++ [n]) with
  | none =>
    rw [hat] at hl
    simp only [hl, Option.elim_none, prune_eq_self hat]
    rfl
  | some .directory =>
    rw [hat] at hl
    simp only [hl, Option.elim_some]
    exact removeTree_join h hn hc hat
  | some (.file _ _) =>
    rw [hat] at hl
    simp only [hl, Option.elim_some]
  | some (.link _) =>
    rw [hat] at hl
    simp only [hl, Option.elim_some]

theorem removeIfPresent_join_error (h : fs.Leads p dir) (hn : Name.isOrdinary n = true)
    {e : IoError} (hc : nameCheck p n = .error e) :
    removeIfPresent (p.join ⟨n⟩) fs = .error e fs := by
  simp [removeIfPresent, lstat?_join_error h hn hc, isNotFound_of_nameCheck hn hc]

/-- Where a straight path does not lead to its place, there is nothing to remove. -/
theorem removeIfPresent_missing (h : fs.Straight p) (hn : Name.isOrdinary n = true)
    (hl : ¬ fs.Leads p (fs.place p)) :
    removeIfPresent (p.join ⟨n⟩) fs = .ok () fs ∧ fs.at? (fs.place p ++ [n]) = none ∨
      ∃ e, removeIfPresent (p.join ⟨n⟩) fs = .error e fs := by
  -- nothing stands below the place, or no name is looked up there
  have hfound : ∀ s, fs.spot false (p.join ⟨n⟩) = .ok s →
      fs.present s = .error (.os .notFound) ∧ fs.at? (fs.place p ++ [n]) = none := by
    intro s hs
    obtain ⟨rfl, -, hshort⟩ := spot_straight h hn (fun hf => by cases hf) hs
    have hnone : fs.at? (fs.place p ++ [n]) = none := by
      refine at?_append_eq_none (fun hat => hl ?_) (by simp)
      exact leads_of_isDirectory h.1 hshort (isDirectory_iff.2 hat)
    rw [present_enter, hnone]
    exact ⟨rfl, rfl⟩
  unfold removeIfPresent lstat?
  rw [Path.endsInSeparator_join_name p hn]
  cases hs : fs.spot false (p.join ⟨n⟩) with
  | ok s =>
    obtain ⟨hpresent, hnone⟩ := hfound s hs
    simp only [hpresent]
    exact Or.inl ⟨rfl, hnone⟩
  | error e =>
    by_cases he : e.isNotFound = true
    · refine Or.inl ⟨by simp only [he, if_true], at?_append_eq_none (fun hat => ?_) (by simp)⟩
      rw [isNotFound_of_spot h hn (isDirectory_iff.2 hat) hs] at he
      cases he
    · simp only [he]
      exact Or.inr ⟨e, rfl⟩

/-- Removing behind a straight path takes away what stands at its location, or fails. -/
theorem removeIfPresent_straight (h : fs.Straight p) (hn : Name.isOrdinary n = true) :
    removeIfPresent (p.join ⟨n⟩) fs = .ok () (fs.prune (fs.place p ++ [n])) ∨
      ∃ e, removeIfPresent (p.join ⟨n⟩) fs = .error e fs := by
  by_cases hl : fs.Leads p (fs.place p)
  · cases hc : nameCheck p n with
    | ok => exact Or.inl (removeIfPresent_join (steady_of_straight h hl n) hn hc)
    | error e => exact Or.inr ⟨e, removeIfPresent_join_error hl hn hc⟩
  · rcases removeIfPresent_missing h hn hl with ⟨heq, hnone⟩ | hfail
    · rw [prune_eq_self hnone]
      exact Or.inl heq
    · exact Or.inr hfail

end Remove

/-! ## 3. Directories on the way -/

/-- Nothing but missing directories, at a location or above it, is new. -/
structure Adds (top : Location) (fs fs' : FileSystem) : Prop where
  home : fs'.home = fs.home
  entry : ∀ loc, fs'.at? loc = fs.at? loc ∨
    loc <+: top ∧ fs.at? loc = none ∧ fs'.at? loc = some .directory
  listing : ∀ dir, ¬ dir <+: top → fs'.children dir = fs.children dir

namespace Adds

variable {top top' : Location} {fs fs' fs'' : FileSystem} {p : Path}

theorem refl (top : Location) (fs : FileSystem) : Adds top fs fs :=
  ⟨rfl, fun _ => Or.inl rfl, fun _ _ => rfl⟩

theorem trans (h : Adds top fs fs') (h' : Adds top fs' fs'') : Adds top fs fs'' :=
  ⟨h'.home.trans h.home, fun loc => kept_or_new_trans (h.entry loc) (h'.entry loc),
    fun dir hdir => (h'.listing dir hdir).trans (h.listing dir hdir)⟩

theorem mono (h : Adds top fs fs') (ht : top <+: top') : Adds top' fs fs' :=
  ⟨h.home, fun loc => (h.entry loc).imp_right fun hnew => ⟨hnew.1.trans ht, hnew.2⟩,
    fun dir hdir => h.listing dir fun hup => hdir (hup.trans ht)⟩

theorem framed (h : Adds top fs fs') : Framed top fs fs' :=
  ⟨h.home, fun loc _ => h.entry loc, fun dir _ hup => h.listing dir hup⟩

theorem link (h : Adds top fs fs') {loc : Location} {target : Path}
    (hat : fs'.at? loc = some (.link target)) : fs.at? loc = some (.link target) :=
  link_of_kept_or_new (h.entry loc) hat

theorem onlyAdds (h : Adds top fs fs') : Extends fs fs' := by
  refine ⟨h.home, fun loc e hat => ?_⟩
  rcases h.entry loc with heq | ⟨-, hnone, -⟩
  · rw [heq, hat]
  · rw [hnone] at hat
    cases hat

theorem straight (h : Adds top fs fs') (hs : fs.Straight p) : fs'.Straight p :=
  hs.of_links h.home fun _ _ _ hat => h.link hat

theorem place_eq (h : Adds top fs fs') (p : Path) : fs'.place p = fs.place p :=
  place_of_home h.home p

/-- A tree that does not hold the location stays. -/
theorem at?_append (h : Adds top fs fs') {loc : Location} (hloc : ¬ loc <+: top)
    (ns : List Name) : fs'.at? (loc ++ ns) = fs.at? (loc ++ ns) :=
  (h.entry (loc ++ ns)).resolve_right fun hnew => hloc ((List.prefix_append loc ns).trans hnew.1)

/-- Below the location nothing changes. -/
theorem below (h : Adds top fs fs') {ns : List Name} (hns : ns ≠ []) :
    fs'.at? (top ++ ns) = fs.at? (top ++ ns) := by
  rcases h.entry (top ++ ns) with he | ⟨hup, -, -⟩
  · exact he
  · have hlen := hup.length_le
    have hpos := List.length_pos_iff.2 hns
    rw [List.length_append] at hlen
    omega

end Adds

theorem adds_put {fs : FileSystem} {dir : Location} {n : Name}
    (ha : fs.admits dir n .directory = true) (hat : fs.at? (dir ++ [n]) = none) :
    Adds (dir ++ [n]) fs (fs.put dir n .directory) := by
  have hhome : (fs.put dir n .directory).home = fs.home := by
    unfold put
    split <;> rfl
  refine ⟨hhome, fun loc => ?_, fun d hd => ?_⟩
  · rw [at?_put ha]
    split
    · rename_i hloc
      subst hloc
      exact Or.inr ⟨List.prefix_rfl, hat, rfl⟩
    · exact Or.inl rfl
  · rw [children_put ha, if_neg]
    rintro rfl
    exact hd (List.prefix_append _ _)

/-- A directory that is created comes to stand where its path's look-up ends. -/
theorem makeDirectory_eq_ok {fs fs' : FileSystem} {p : Path} (h : fs.makeDirectory p = .ok fs') :
    ∃ dir n slash, fs.spot false p = .ok ⟨dir, .enter n, slash⟩ ∧ fs.at? (dir ++ [n]) = none ∧
      fs.admits dir n .directory = true ∧ fs' = fs.put dir n .directory := by
  unfold makeDirectory at h
  split at h
  · cases h
  · rename_i dir n slash hs
    split at h
    · cases h
    · rename_i hat
      split at h
      · rename_i hadm
        cases h
        exact ⟨dir, n, slash, hs, by simpa using hat, hadm, rfl⟩
      · cases h
  · cases h

theorem makeDirectory_adds {fs fs' : FileSystem} {p : Path} (hs : fs.Straight p)
    (h : fs.makeDirectory p = .ok fs') : Adds (fs.place p) fs fs' := by
  obtain ⟨dir, n, slash, hspot, hat, hadm, rfl⟩ := makeDirectory_eq_ok h
  have hloc : dir ++ [n] = fs.place p := location_of_spot hs hspot
  rw [← hloc]
  exact adds_put hadm hat

/-- **Creating directories along straight paths adds missing directories and nothing else.** -/
theorem makeFirst_adds {top : Location} {qs : List Path} {fs : FileSystem}
    (h : ∀ q ∈ qs, fs.Straight q ∧ fs.place q <+: top) :
    Adds top fs (Disk.left (makeFirst qs fs)) := by
  refine makeFirst_left (fun q hq fs₁ fs₂ hadds hmade => ?_) (Adds.refl top fs)
  obtain ⟨hs, htop⟩ := h q hq
  refine hadds.trans ((makeDirectory_adds (hadds.straight hs) hmade).mono ?_)
  rwa [hadds.place_eq]

theorem names_of_mem_ancestorsFrom {k : Nat} {p q : Path} (h : q ∈ ancestorsFrom k p) :
    q.names <+: p.names ∧ (p.NeverUp → q.NeverUp) ∧ q.isAbsolute = p.isAbsolute := by
  induction k generalizing p with
  | zero =>
    rw [ancestorsFrom, List.mem_singleton] at h
    subst h
    exact ⟨List.prefix_rfl, id, rfl⟩
  | succ k ih =>
    unfold ancestorsFrom at h
    split at h
    · rw [List.mem_singleton] at h
      subst h
      exact ⟨List.prefix_rfl, id, rfl⟩
    · rename_i above habove
      rcases List.mem_cons.1 h with rfl | h
      · exact ⟨List.prefix_rfl, id, rfl⟩
      · obtain ⟨hnames, hup, habs⟩ := Path.names_of_parent? habove
        obtain ⟨hnames', hup', habs'⟩ := ih h
        exact ⟨hnames'.trans hnames, fun hp => hup' (hup hp), habs'.trans habs⟩

theorem straight_of_mem_ancestorsFrom {k : Nat} {fs : FileSystem} {p q : Path} (hs : fs.Straight p)
    (h : q ∈ ancestorsFrom k p) : fs.Straight q ∧ fs.place q <+: fs.place p := by
  obtain ⟨hnames, hup, habs⟩ := names_of_mem_ancestorsFrom h
  have hstart : fs.start q = fs.start p := by rw [start, start, habs]
  refine ⟨⟨hup hs.1, fun ns hns hne target => ?_⟩, ?_⟩
  · rw [hstart]
    exact hs.2 ns (hns.trans hnames) hne target
  · rw [place, place, hstart]
    exact (List.prefix_append_right_inj _).2 hnames

/-- The path leads to its place, and a directory of the name stands there. -/
structure Stands (fs : FileSystem) (p : Path) (n : Name) : Prop where
  leads : fs.Leads p (fs.place p)
  check : nameCheck p n = .ok ()
  directory : fs.at? (fs.place p ++ [n]) = some .directory

section Straight

variable {fs fs' : FileSystem} {p : Path} {n : Name}

theorem stands_of_makeDirectory (hs : fs.Straight p) (hn : Name.isOrdinary n = true)
    (h : fs.makeDirectory (p.join ⟨n⟩) = .ok fs') : Stands fs' p n := by
  obtain ⟨dir, m, slash, hspot, hat, hadm, rfl⟩ := makeDirectory_eq_ok h
  obtain ⟨heq, hc, hshort⟩ := spot_straight hs hn (fun hf => by cases hf) hspot
  cases heq
  have hadds := adds_put hadm hat
  have hdir : fs.isDirectory (fs.place p) = true := by
    simp only [admits, Bool.and_eq_true] at hadm
    exact hadm.1.2
  have hl := (leads_of_isDirectory hs.1 hshort hdir).mono
    (grows_put hadm (by simp) (by simp [hat])).keepsWays
  refine ⟨by rwa [hadds.place_eq], hc, ?_⟩
  rw [hadds.place_eq, at?_put hadm, if_pos rfl]

theorem stands_of_leadsToDirectory (hs : fs.Straight p) (hn : Name.isOrdinary n = true)
    (hlink : ∀ target, fs.at? (fs.place p ++ [n]) ≠ some (.link target))
    (h : fs.leadsToDirectory (p.join ⟨n⟩) = true) : Stands fs p n := by
  obtain ⟨loc, hstat⟩ := leadsToDirectory_iff.1 h
  obtain ⟨s, hspot, rfl, hat, -⟩ := stat?_eq_ok.1 hstat
  obtain ⟨rfl, hc, hshort⟩ := spot_straight hs hn (fun _ => hlink) hspot
  exact ⟨leads_of_isDirectory hs.1 hshort (isDirectory_of_at? hat), hc, hat⟩

/-- **Behind a straight path a directory is created with those missing on its way.** -/
theorem makeDirectories_straight (hs : fs.Straight p) (hn : Name.isOrdinary n = true)
    (hlink : ∀ target, fs.at? (fs.place p ++ [n]) ≠ some (.link target)) :
    Adds (fs.place p ++ [n]) fs (Disk.left (makeDirectories (p.join ⟨n⟩) fs)) ∧
      ∀ fs', makeDirectories (p.join ⟨n⟩) fs = .ok () fs' → Stands fs' p n := by
  have hanc : ∀ q ∈ ancestorsFrom (p.join ⟨n⟩).components.length (p.join ⟨n⟩),
      fs.Straight q ∧ fs.place q <+: fs.place p ++ [n] := by
    intro q hq
    have hq' := straight_of_mem_ancestorsFrom (hs.join hn hlink) hq
    rwa [place_join fs p hn] at hq'
  obtain ⟨above, hq⟩ := ancestorsFrom_eq_cons (p.join ⟨n⟩).components.length (p.join ⟨n⟩)
  refine ⟨makeFirst_adds hanc, fun fs' h => ?_⟩
  rw [makeDirectories, hq] at h
  rw [hq] at hanc
  have hfirst := makeFirst_adds fun q hq => hanc q (List.mem_cons_of_mem _ hq)
  rcases makeFirst_eq_ok h with ⟨hempty | hleads, rfl⟩ | hmade | ⟨fs₁, habove, hmade⟩
  · rw [Path.isEmpty_join_name p hn] at hempty
    cases hempty
  · exact stands_of_leadsToDirectory hs hn hlink hleads
  · exact stands_of_makeDirectory hs hn hmade
  · rw [habove, Disk.left_ok] at hfirst
    have hlink₁ : ∀ target, fs₁.at? (fs₁.place p ++ [n]) ≠ some (.link target) :=
      fun target hat => hlink target (hfirst.link (by rwa [hfirst.place_eq] at hat))
    rcases hmade with ⟨hleads, rfl⟩ | hmade
    · exact stands_of_leadsToDirectory (hfirst.straight hs) hn hlink₁ hleads
    · exact stands_of_makeDirectory (hfirst.straight hs) hn hmade

end Straight

/-! ## 4. Places that cannot be led away from -/

/-- The path leads to the directory whatever stands in the region, or it is straight and the
    directory is its place, which may be missing. -/
def Hosts (fs : FileSystem) (region : Location → Prop) (p : Path) (dir : Location) : Prop :=
  Steady fs region p dir ∨ fs.Straight p ∧ dir = fs.place p

section Hosts

variable {fs fs' : FileSystem} {region region' : Location → Prop} {p : Path} {dir : Location}
  {n : Name}

theorem Hosts.mono (h : Hosts fs region p dir) (hr : ∀ k, region' k → region k) :
    Hosts fs region' p dir :=
  h.imp_left fun hs => hs.mono hr

/-- What happens to an entry of its place leaves a path straight. -/
theorem Straight.of_framed (h : fs.Straight p) (hf : Framed (fs.place p ++ [n]) fs fs') :
    fs'.Straight p := by
  refine h.of_links hf.home fun ns hns target hat => hf.link (fun hbelow => ?_) hat
  have hlen := hbelow.length_le
  have hns' := hns.length_le
  simp only [place, List.length_append, List.length_singleton] at hlen
  omega

/-- **What happens to an entry of the directory in the region does not lead the path away.** -/
theorem Hosts.of_framed (h : Hosts fs region p dir) (hr : ∀ k, Below (dir ++ [n]) k → region k)
    (hf : Framed (dir ++ [n]) fs fs') : Hosts fs' region p dir := by
  rcases h with hs | ⟨hs, rfl⟩
  · exact Or.inl (hs.of_same ((hf.sameOutside rfl hs.leads.isDirectory).mono hr))
  · exact Or.inr ⟨hs.of_framed hf, (place_of_home hf.home p).symm⟩

theorem Hosts.steady (h : Hosts fs (Below (dir ++ [n])) p dir) (hl : fs.Leads p dir) :
    Steady fs (Below (dir ++ [n])) p dir := by
  rcases h with hs | ⟨hs, rfl⟩
  · exact hs
  · exact steady_of_straight hs hl n

theorem removeIfPresent_hosts (h : Hosts fs (Below (dir ++ [n])) p dir)
    (hn : Name.isOrdinary n = true) :
    removeIfPresent (p.join ⟨n⟩) fs = .ok () (fs.prune (dir ++ [n])) ∨
      ∃ e, removeIfPresent (p.join ⟨n⟩) fs = .error e fs := by
  rcases h with hs | ⟨hs, rfl⟩
  · cases hc : nameCheck p n with
    | ok => exact Or.inl (removeIfPresent_join hs hn hc)
    | error e => exact Or.inr ⟨e, removeIfPresent_join_error hs.leads hn hc⟩
  · exact removeIfPresent_straight hs hn

/-- **Where nothing stands, a directory is created with those missing on its way, or not.** -/
theorem makeDirectories_hosts (h : Hosts fs (Below (dir ++ [n])) p dir)
    (hn : Name.isOrdinary n = true) (hat : fs.at? (dir ++ [n]) = none) :
    Adds (dir ++ [n]) fs (Disk.left (makeDirectories (p.join ⟨n⟩) fs)) ∧
      ∀ fs', makeDirectories (p.join ⟨n⟩) fs = .ok () fs' →
        fs'.Leads p dir ∧ nameCheck p n = .ok () ∧ fs'.at? (dir ++ [n]) = some .directory := by
  have hlink : ∀ target, fs.at? (dir ++ [n]) ≠ some (.link target) := by simp [hat]
  rcases h with hs | ⟨hs, rfl⟩
  · refine ⟨?_, fun fs' hm => ?_⟩
    · cases hm : makeDirectories (p.join ⟨n⟩) fs with
      | error e fs' =>
        cases makeDirectories_join_error hs.leads hn hm
        exact Adds.refl _ _
      | ok _ fs' =>
        obtain ⟨-, -, -, ⟨hdir, -⟩ | ⟨-, rfl⟩⟩ := makeDirectories_join_ok hs.leads hn hlink hm
        · rw [hat] at hdir
          cases hdir
        · exact adds_put (admits_join hs.leads hn (Or.inl rfl)) hat
    · obtain ⟨hc, hdir, hg, -⟩ := makeDirectories_join_ok hs.leads hn hlink hm
      exact ⟨hs.leads.mono hg.keepsWays, hc, hdir⟩
  · obtain ⟨hadds, hok⟩ := makeDirectories_straight hs hn hlink
    refine ⟨hadds, fun fs' hm => ?_⟩
    rw [hm, Disk.left_ok] at hadds
    obtain ⟨hl, hc, hdir⟩ := hok fs' hm
    rw [hadds.place_eq] at hl hdir
    exact ⟨hl, hc, hdir⟩

end Hosts

end FileSystem

end TemplatePress
