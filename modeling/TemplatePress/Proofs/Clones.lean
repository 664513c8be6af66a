import TemplatePress.Proofs.Renewals

/-!
# Cloning once more

What one fetch answers and leaves does not depend on the fetches and builds before it. This file
fixes:

* `relist`: what the directory above a clone lists when the clone is made anew; clones made anew in
  the same order leave the same listing (`relistAll_relistAll`);
* `Remade`: a directory was made anew at a name of a directory, and nothing else happened there;
* `fillClone`: what a rehearsal puts into the directory of a clone;
* `Repeatable`: what a run needs of its start to go the same way once more;
* `Renewed.clone_cases`: whether a clone can be prepared is told from the start. If so, its directory
  is made anew (`Cloning`), otherwise nothing is removed;
* `fetch_alike`: one fetch in two renewed states answers the same and leaves the same clone, or
  nothing, or what was there (`FetchedAlike`).
-/

namespace TemplatePress

open FileSystem

namespace FileSystem

/-! ## 1. Listings -/

/-- A listing when an entry is removed and a directory of its name is made: that comes last. -/
def relist (n : Name) (listed : List (Name × Entry)) : List (Name × Entry) :=
  (listed.filter fun x => x.1 ≠ n) ++ [(n, .directory)]

/-- A listing when directories are made anew, one after the other. -/
def relistAll (ns : List Name) (listed : List (Name × Entry)) : List (Name × Entry) :=
  ns.foldl (fun l n => relist n l) listed

theorem relistAll_concat (ns : List Name) (n : Name) (listed : List (Name × Entry)) :
    relistAll (ns ++ [n]) listed = relist n (relistAll ns listed) :=
  List.foldl_concat _ _ _ _

/-- What is not made anew comes first, as it was listed. -/
theorem relistAll_eq (ns : List Name) (listed : List (Name × Entry)) :
    relistAll ns listed = (listed.filter fun x => x.1 ∉ ns) ++ relistAll ns [] := by
  induction ns using List.reverseRecOn with
  | nil => simp [relistAll]
  | append_singleton ns n ih =>
    rw [relistAll_concat, relistAll_concat, ih, relist, relist, List.filter_append,
      List.filter_filter, ← List.append_assoc]
    congr 2
    refine List.filter_congr fun x _ => ?_
    by_cases hx : x.1 = n <;> simp [hx]

theorem mem_of_mem_relistAll {ns : List Name} {x : Name × Entry} (h : x ∈ relistAll ns []) :
    x.1 ∈ ns := by
  induction ns using List.reverseRecOn with
  | nil => cases h
  | append_singleton ns n ih =>
    rw [relistAll_concat, relist, List.mem_append, List.mem_filter, List.mem_singleton] at h
    rcases h with ⟨h, -⟩ | rfl
    · exact List.mem_append_left _ (ih h)
    · simp

/-- **Directories made anew once more in the same order leave the listing as it is.** -/
theorem relistAll_relistAll (ns : List Name) (listed : List (Name × Entry)) :
    relistAll ns (relistAll ns listed) = relistAll ns listed := by
  have hnew : (relistAll ns []).filter (fun x => x.1 ∉ ns) = [] :=
    List.filter_eq_nil_iff.2 fun x hx => by simpa using mem_of_mem_relistAll hx
  rw [relistAll_eq ns (relistAll ns listed), relistAll_eq ns listed, List.filter_append, hnew,
    List.append_nil, List.filter_filter]
  simp only [Bool.and_self]

/-! ## 2. Making a directory anew -/

/-- A directory was made anew at a name of a directory. No link is new, and what stands elsewhere is
    as before, if the directory above stood. -/
structure Remade (dir : Location) (n : Name) (fs fs' : FileSystem) : Prop where
  directory : fs'.at? (dir ++ [n]) = some .directory
  listed : fs'.children dir = relist n (fs.children dir)
  kept : fs.isDirectory dir = true → Kept (Below (dir ++ [n])) fs fs'
  link : ∀ loc target, fs'.at? loc = some (.link target) → fs.at? loc = some (.link target)

section Remade

variable {fs fs' fs'' : FileSystem} {p : Path} {dir : Location} {n : Name}

/-- What comes to stand inside the directory does not matter. -/
theorem Remade.fill (h : Remade dir n fs fs') (hg : Grows (dir ++ [n]) fs' fs'')
    (hk : Kept (Inside (dir ++ [n])) fs' fs'') : Remade dir n fs fs'' := by
  refine ⟨hg.directory _ h.directory, ?_, fun hdir => (h.kept hdir).trans hg.kept,
    fun loc target hat => h.link loc target ((hg.link loc target).1 hat)⟩
  rw [hk.listing dir fun m hin => ?_, h.listed]
  obtain ⟨k, hk⟩ := hin
  have := hk.length_le
  simp at this

/-- In a directory that did not stand, what is made is listed alone. -/
theorem children_of_adds (hnone : ¬ fs.isDirectory dir = true) (h : Adds (dir ++ [n]) fs fs')
    (hat : fs'.at? (dir ++ [n]) = some .directory) : fs'.children dir = [(n, .directory)] := by
  refine List.perm_singleton.1 ((List.perm_ext_iff_of_nodup
    (List.Nodup.of_map _ (nodup_children fs' dir)) (List.nodup_singleton _)).2 fun x => ?_)
  rw [List.mem_singleton]
  constructor
  · intro hx
    have hx := mem_children.1 hx
    rcases h.entry (dir ++ [x.1]) with heq | ⟨hup, -, hdir⟩
    · rw [heq] at hx
      exact absurd (isDirectory_of_at? hx) hnone
    · have hname : x.1 = n := by simpa using hup.eq_of_length (by simp)
      rw [hdir] at hx
      exact Prod.ext hname (Option.some.inj hx).symm
  · rintro rfl
    exact mem_children.2 hat

/-- **Preparing a place makes its directory anew.** -/
theorem prepare_remade (hs : fs.Straight p) (hn : Name.isOrdinary n = true)
    (hshort : ∀ m ∈ p.names, m.length ≤ nameLimit)
    (h : Package.prepare (p.join ⟨n⟩) fs = .ok () fs') : Remade (fs.place p) n fs fs' := by
  have hnone := at?_prune_self fs (fs.place p ++ [n]) (by simp)
  by_cases hdir : fs.isDirectory (fs.place p) = true
  · have hl := leads_of_isDirectory hs.1 hshort hdir
    have hl' := steady_of_straight hs hl n _ (sameOutside_prune fs _)
    cases hc : nameCheck p n with
    | error e =>
      simp only [Package.prepare, removeIfPresent_join_error hl hn hc] at h
      cases h
    | ok =>
      simp only [Package.prepare, removeIfPresent_join (steady_of_straight hs hl n) hn hc,
        makeDirectories_join_none hl' hn hc hnone] at h
      cases h
      have hadm := admits_join hl' hn (Or.inl rfl : Entry.directory = .directory ∨ _)
      have hg := grows_put hadm (by simp) (by simp [hnone])
      have hkept := kept_prune fs (fs.place p ++ [n])
      have hlisted : n ∉ ((fs.prune (fs.place p ++ [n])).children (fs.place p)).map Prod.fst := by
        simp [children_prune]
      refine ⟨by rw [at?_put hadm, if_pos rfl], ?_, fun _ => hkept.trans hg.kept,
        fun loc target hat => ?_⟩
      · rw [children_put hadm, if_pos rfl, putListed, if_neg hlisted, children_prune]
        rfl
      · have hat := (hg.link loc target).1 hat
        by_cases hloc : Below (fs.place p ++ [n]) loc
        · exact absurd hat (linkFree_of_none hnone loc hloc target)
        · rwa [hkept.outside.entry loc hloc] at hat
  · -- nothing stands below the place, so nothing is removed
    have hat : fs.at? (fs.place p ++ [n]) = none :=
      at?_append_eq_none (fun hat => hdir (isDirectory_iff.2 hat)) (by simp)
    unfold Package.prepare at h
    rcases removeIfPresent_straight hs hn with heq | ⟨e, heq⟩ <;> rw [heq] at h
    · rw [prune_eq_self hat] at h
      obtain ⟨hadds, hok⟩ := makeDirectories_straight hs hn (by simp [hat])
      simp only at h
      rw [h, Disk.left_ok] at hadds
      obtain ⟨-, -, hdir'⟩ := hok fs' h
      rw [hadds.place_eq] at hdir'
      have hempty : fs.children (fs.place p) = [] := by
        refine List.eq_nil_iff_forall_not_mem.2 fun x hx => hdir ?_
        exact isDirectory_of_at? (mem_children.1 hx)
      refine ⟨hdir', ?_, fun h => absurd h hdir, fun _ _ => hadds.link⟩
      rw [children_of_adds hdir hadds hdir', hempty]
      rfl
    · cases h

end Remade

end FileSystem

/-! ## 3. Cloning -/

/-- Whatever is cloned is looked up and stands outside a directory, once that directory stands. -/
def Rehearsal.Detached (r : Rehearsal) (root : Location) (start : FileSystem) : Prop :=
  r.failClone = false → ∀ fixture, r.fixture = some fixture → ∀ fs, FramedBy (· = root) start fs →
    fs.isDirectory root = true → Settled fs (Inside root) fixture

/-- What a rehearsal puts into the directory of a clone, which stands. -/
def Rehearsal.fillClone (r : Rehearsal) (clone : Path) : Disk Unit := fun fs =>
  match r.fixture with
  | none => .ok () fs
  | some fixture =>
    match fs.readDirectory fixture with
    | .error e => .error e fs
    | .ok entries => each (copyEntry (copyLevels (pathLimit - 1)) fixture clone) entries fs

theorem copyLevels_made {depth : Nat} {source destination : Path} {fs fs₁ : FileSystem}
    (h : makeDirectories destination fs = .ok () fs₁) :
    copyLevels (depth + 1) source destination fs =
      match fs₁.readDirectory source with
      | .error e => .error e fs₁
      | .ok entries => each (copyEntry (copyLevels depth) source destination) entries fs₁ := by
  cases hread : fs₁.readDirectory source <;> simp only [copyLevels, h, hread]

section Clone

variable {r : Rehearsal} {fs fs' fs₁ : FileSystem} {p : Path} {dir : Location} {n : Name}

/-- Cloning makes the directory of the clone and fills it. -/
theorem perform_clone_eq {clone : Path} (hr : r.failClone = false)
    (hm : makeDirectories clone fs = .ok () fs₁) (url : String) :
    r.perform (.clone url clone) fs =
      match r.fillClone clone fs₁ with
      | .ok () fs' => .ok () fs'
      | .error e fs' => .error (.io e) fs' := by
  cases hf : r.fixture with
  | none =>
    simp only [Rehearsal.perform, hr, Bool.false_eq_true, if_false, hf, hm, Rehearsal.fillClone]
  | some fixture =>
    have hcopy : copyTree fixture clone fs = r.fillClone clone fs₁ := by
      have hlevels : copyTree fixture clone fs = _ :=
        (copyLevels_made hm : copyLevels (pathLimit - 1 + 1) fixture clone fs = _)
      cases hread : fs₁.readDirectory fixture <;>
        simp only [hlevels, Rehearsal.fillClone, hf, hread]
    cases hfill : r.fillClone clone fs₁ <;>
      simp only [Rehearsal.perform, hr, Bool.false_eq_true, if_false, hf, hcopy, hfill]

theorem perform_clone_unmade {clone : Path} (hr : r.failClone = false) {e : IoError}
    (hm : makeDirectories clone fs = .error e fs') (url : String) :
    r.perform (.clone url clone) fs = .error (.io e) fs' := by
  simp only [Rehearsal.perform, hr, Bool.false_eq_true, if_false]
  cases r.fixture with
  | none => simp only [hm]
  | some fixture =>
    have hcopy : copyLevels (pathLimit - 1 + 1) fixture clone fs = .error e fs' := by
      simp only [copyLevels, hm]
    simp only
    rw [show copyTree fixture clone fs = _ from hcopy]

/-- Filling a clone changes nothing but what is inside it. -/
theorem fillClone_grows (h : Prepared fs p dir n) (hn : Name.isOrdinary n = true) :
    Grows (dir ++ [n]) fs (Disk.left (r.fillClone (p.join ⟨n⟩) fs)) ∧
      FileSystem.Kept (Inside (dir ++ [n])) fs (Disk.left (r.fillClone (p.join ⟨n⟩) fs)) := by
  unfold Rehearsal.fillClone
  cases r.fixture with
  | none => exact ⟨Grows.refl _ _, FileSystem.Kept.refl _ _⟩
  | some fixture =>
    simp only
    cases hread : fs.readDirectory fixture with
    | error e => exact ⟨Grows.refl _ _, FileSystem.Kept.refl _ _⟩
    | ok entries =>
      obtain ⟨loc, -, rfl⟩ := readDirectory_eq_ok hread
      have hord : ∀ x ∈ fs.children loc, Name.isOrdinary x.1 = true :=
        fun x => isOrdinary_of_mem_children
      exact ⟨copyEntries_grows (copyLevels_grows _) fixture (h.inside hn) h.free hord,
        copyEntries_inside (copyLevels_grows _) fixture (h.inside hn) h.free hord⟩

/-- **Clones are filled alike** in two states that are twins there. -/
theorem fillClone_agree {region : Location → Prop} {top : Location}
    (hregion : ∀ k, Below top k → region k)
    (hsource : ∀ fixture, r.fixture = some fixture → Settled fs region fixture)
    (h : Abreast fs region top p dir fs fs') (hin : Below top dir) :
    Agree (Twins region top) (r.fillClone p fs) (r.fillClone p fs') := by
  unfold Rehearsal.fillClone
  cases hf : r.fixture with
  | none => exact .ok () h.twins
  | some fixture =>
    exact copyContents_agree hregion (copyLevels_grows _) (copyLevels_agree hregion _)
      (hsource fixture hf) h hin

end Clone

/-! ## 4. One fetch -/

namespace Layout

/-- Where the clones of an author stand below the place of the root. -/
def authorPlace (root : Location) (author : String) : Location :=
  root ++ [reposName, Text.Utf8.bytes author]

theorem clonePlace_eq (root : Location) (repository : RepositoryRef) :
    clonePlace root repository =
      authorPlace root repository.author ++ [Text.Utf8.bytes repository.repo] := by
  simp [clonePlace, authorPlace]

end Layout

section Way

variable {fs : FileSystem} {p : Path} {n : Name}

/-- **Within the limit on names, what cannot be removed cannot be prepared**, and what is removed is
    prepared. -/
theorem removeIfPresent_short (hs : fs.Straight p) (hn : Name.isOrdinary n = true)
    (hstart : fs.isDirectory (fs.start p) = true)
    (hshort : ∀ m ∈ p.names ++ [n], m.length ≤ nameLimit) :
    (∃ e, removeIfPresent (p.join ⟨n⟩) fs = .error e fs ∧
        Package.prepare (p.join ⟨n⟩) fs = .error e fs) ∨
      ∃ fs', removeIfPresent (p.join ⟨n⟩) fs = .ok () (fs.prune (fs.place p ++ [n])) ∧
        makeDirectories (p.join ⟨n⟩) (fs.prune (fs.place p ++ [n])) = .ok () fs' ∧
        Package.prepare (p.join ⟨n⟩) fs = .ok () fs' := by
  cases hc : checkPath (p.join ⟨n⟩) with
  | error e => exact Or.inl ⟨e, removeIfPresent_checkPath hn hc, prepare_checkPath hn hc⟩
  | ok =>
    rcases removeIfPresent_way hs hn hc hstart with ⟨e, heq, -⟩ | hclears
    · exact Or.inl ⟨_, heq, by simp only [Package.prepare, heq]⟩
    · have hfollows := hclears.follows
      rw [hclears.short hshort] at hfollows
      obtain ⟨_, fs', hm⟩ := hfollows
      exact Or.inr ⟨fs', hclears.removed, hm, by simpa only [Package.prepare, hclears.removed]⟩

end Way

section Fetch

variable {r : Rehearsal} {layout : Layout} {host : String} {repository : RepositoryRef}
  {w : World (List ToolCall)}

theorem fetch_refused (hwell : repository.isWellFormed = true) {e : IoError}
    (h : removeIfPresent (layout.cloneDir repository) w.files = .error e w.files) :
    fetch r.toolchain layout host repository w =
      .error (.clean (layout.cloneDir repository) e) w := by
  simp only [fetch, hwell, if_true, World.onFiles, h]

variable (host) in
/-- Behind the removal a fetch does what cloning does: checking out never fails in a rehearsal. -/
theorem fetch_cleared (hwell : repository.isWellFormed = true) {fs : FileSystem}
    (h : removeIfPresent (layout.cloneDir repository) w.files = .ok () fs) :
    match r.perform (.clone (repository.cloneUrl host) (layout.cloneDir repository)) fs with
    | .error e fs' => ∃ calls, fetch r.toolchain layout host repository w =
        .error (.clone repository.display e) ⟨fs', calls⟩
    | .ok () fs' => ∃ calls, fetch r.toolchain layout host repository w =
        .ok (layout.cloneDir repository) ⟨fs', calls⟩ := by
  simp only [fetch, hwell, if_true, World.onFiles, h, Rehearsal.toolchain]
  cases r.perform (.clone (repository.cloneUrl host) (layout.cloneDir repository)) fs with
  | error e fs' => exact ⟨_, rfl⟩
  | ok _ fs' =>
    cases hr : repository.reference with
    | none => exact ⟨_, by simp only [checkoutReference, hr]; rfl⟩
    | some reference => exact ⟨_, by simp only [checkoutReference, hr, Rehearsal.perform]; rfl⟩

/-- A fetch that can make no directory fails and changes nothing. -/
theorem fetch_unmade (hwell : repository.isWellFormed = true) {fs : FileSystem}
    (h : removeIfPresent (layout.cloneDir repository) fs = .ok () fs) {e : IoError}
    (hm : makeDirectories (layout.cloneDir repository) fs = .error e fs) :
    ∃ e', ∀ w : World (List ToolCall), w.files = fs → ∃ calls,
      fetch r.toolchain layout host repository w = .error e' ⟨fs, calls⟩ := by
  obtain ⟨e', he⟩ : ∃ e', r.perform
      (.clone (repository.cloneUrl host) (layout.cloneDir repository)) fs = .error e' fs := by
    cases hr : r.failClone with
    | true => exact ⟨_, by simp only [Rehearsal.perform, hr, if_true]; rfl⟩
    | false => exact ⟨_, perform_clone_unmade hr hm _⟩
  refine ⟨.clone repository.display e', ?_⟩
  rintro w rfl
  have hc := fetch_cleared (r := r) host hwell h
  rwa [he] at hc

end Fetch

/-! ## 5. One fetch in two states -/

/-- Something stands at a location in both states or in neither, and is listed alike. -/
def FileSystem.SameAt (loc : Location) (fs fs' : FileSystem) : Prop :=
  fs'.at? loc = fs.at? loc ∧ fs'.children loc = fs.children loc

/-- What a run needs of its start to go the same way once more: no links, a root without `..`, names
    within their limit, and whatever is cloned away from the root. -/
structure Repeatable (r : Rehearsal) (layout : Layout) (repositories : List RepositoryRef)
    (start : FileSystem) : Prop where
  free : start.LinkFree []
  neverUp : layout.root.NeverUp
  rootShort : ∀ m ∈ layout.root.names, m.length ≤ nameLimit
  short : ∀ repository ∈ repositories, repository.isWellFormed = true →
    (Text.Utf8.bytes repository.author).length ≤ nameLimit ∧
      (Text.Utf8.bytes repository.repo).length ≤ nameLimit
  detached : r.Detached (start.place layout.root) start

/-- What the same fetch comes to in two states `a` and `b`, with the states that it leaves. -/
inductive FetchedAlike (dir : Location) (n : Name) (a b : FileSystem) :
    (x y : EStateM.Result FetchError (World (List ToolCall)) Path) → Prop where
  /-- Nothing was changed. -/
  | refused (e : FetchError) {w w' : World (List ToolCall)} (h : w.files = a) (h' : w'.files = b) :
      FetchedAlike dir n a b (.error e w) (.error e w')
  /-- What stood there was removed, and nothing was cloned. -/
  | removed (e : FetchError) {w w' : World (List ToolCall)} (h : w.files = a.prune (dir ++ [n]))
      (h' : w'.files = b.prune (dir ++ [n])) : FetchedAlike dir n a b (.error e w) (.error e w')
  /-- The clone was made anew, completely or not, and is the same in both. -/
  | remade {x y : EStateM.Result FetchError (World (List ToolCall)) Path}
      (outcome : Disk.outcome y = Disk.outcome x) (h : Remade dir n a (Disk.left x).files)
      (h' : Remade dir n b (Disk.left y).files)
      (same : ∀ loc, Below (dir ++ [n]) loc → SameAt loc (Disk.left x).files (Disk.left y).files) :
      FetchedAlike dir n a b x y

/-- The state `fs'` with the directory of a clone made anew in a renewed state, and not yet filled. -/
structure Cloning (layout : Layout) (repository : RepositoryRef) (calls : List Call)
    (start fs fs' : FileSystem) : Prop where
  removed : removeIfPresent (layout.cloneDir repository) fs =
    .ok () (fs.prune (Layout.clonePlace (start.place layout.root) repository))
  made : makeDirectories (layout.cloneDir repository)
    (fs.prune (Layout.clonePlace (start.place layout.root) repository)) = .ok () fs'
  standing : Standing layout calls start fs'
  prepared : Prepared fs' (layout.authorDir repository.author)
    (Layout.authorPlace (start.place layout.root) repository.author)
    (Text.Utf8.bytes repository.repo)
  remade : Remade (Layout.authorPlace (start.place layout.root) repository.author)
    (Text.Utf8.bytes repository.repo) fs fs'

section Repeat

variable {r : Rehearsal} {layout : Layout} {repositories : List RepositoryRef} {calls : List Call}
  {host : String} {repository : RepositoryRef} {start fs : FileSystem}

theorem isOrdinary_author (hwell : repository.isWellFormed = true) :
    Name.isOrdinary (Text.Utf8.bytes repository.author) = true :=
  isOrdinary_of_isSegment (Bool.and_eq_true_iff.1 hwell).1

theorem isOrdinary_repo (hwell : repository.isWellFormed = true) :
    Name.isOrdinary (Text.Utf8.bytes repository.repo) = true :=
  isOrdinary_of_isSegment (Bool.and_eq_true_iff.1 hwell).2

theorem names_authorDir (hwell : repository.isWellFormed = true) :
    (layout.authorDir repository.author).names =
      layout.root.names ++ [Layout.reposName, Text.Utf8.bytes repository.author] := by
  have hrepos : layout.reposDir.names = layout.root.names ++ [Layout.reposName] :=
    Path.names_join_name layout.root (by decide)
  rw [Layout.authorDir, Path.names_join_name _ (isOrdinary_author hwell), hrepos]
  simp

theorem start_authorDir (fs : FileSystem) (hwell : repository.isWellFormed = true) :
    fs.start (layout.authorDir repository.author) = fs.start layout.root :=
  (start_join fs _ (isOrdinary_author hwell)).trans (start_join fs layout.root (by decide))

theorem place_authorDir (fs : FileSystem) (hwell : repository.isWellFormed = true) :
    fs.place (layout.authorDir repository.author) =
      Layout.authorPlace (fs.place layout.root) repository.author := by
  rw [place, place, start_authorDir fs hwell, names_authorDir hwell, ← List.append_assoc]
  rfl

theorem neverUp_authorDir (hup : layout.root.NeverUp) (hwell : repository.isWellFormed = true) :
    (layout.authorDir repository.author).NeverUp :=
  (Path.neverUp_join_name _ (isOrdinary_author hwell)).2
    ((Path.neverUp_join_name layout.root (by decide)).2 hup)

/-- No place that is touched is the directory of an author or above it. -/
theorem not_below_author {root top : Location} (h : Touched calls root top) (author : String) :
    ¬ Below top (Layout.authorPlace root author) := by
  obtain ⟨call, -, htop⟩ := h
  exact not_below_of_touches htop (Or.inr (Or.inr ⟨_, rfl⟩))

section Fetch

variable (hr : Repeatable r layout repositories start) (hmem : repository ∈ repositories)
  (hwell : repository.isWellFormed = true)

include hr hwell

theorem Repeatable.straight_author : start.Straight (layout.authorDir repository.author) :=
  straight_of_linkFree hr.free (neverUp_authorDir hr.neverUp hwell)

theorem Renewed.straight_author (h : Renewed layout calls start fs) :
    fs.Straight (layout.authorDir repository.author) := by
  refine h.straight (fun top htop => ?_) (hr.straight_author hwell)
  rw [place_authorDir start hwell]
  exact not_below_author htop _

include hmem in
theorem Repeatable.short_author : ∀ m ∈ (layout.authorDir repository.author).names ++
    [Text.Utf8.bytes repository.repo], m.length ≤ nameLimit := by
  obtain ⟨hauthor, hrepo⟩ := hr.short repository hmem hwell
  have hrepos : Layout.reposName.length ≤ nameLimit := by decide
  rw [names_authorDir hwell]
  simp only [List.forall_mem_append, List.forall_mem_cons, List.not_mem_nil, false_implies,
    implies_true, and_true]
  exact ⟨⟨hr.rootShort, hrepos, hauthor⟩, hrepo⟩

variable (host) in
/-- Where look-ups start at no directory, a fetch fails and changes nothing. -/
theorem fetch_nowhere (hstart : ¬ start.isDirectory (start.start layout.root) = true) :
    ∃ e, ∀ w : World (List ToolCall), w.files = start → ∃ calls,
      fetch r.toolchain layout host repository w = .error e ⟨start, calls⟩ := by
  have hs := hr.straight_author hwell
  have hn := isOrdinary_repo hwell
  rw [← start_authorDir start hwell] at hstart
  have hnone : start.at? (start.place (layout.authorDir repository.author) ++
      [Text.Utf8.bytes repository.repo]) = none := by
    refine at?_append_eq_none (fun hat => hstart ?_) (by simp)
    exact isDirectory_of_append _ (isDirectory_iff.2 hat)
  obtain ⟨e, hm⟩ := makeDirectories_nowhere hs hn hstart
  rcases removeIfPresent_straight hs hn with heq | ⟨e', heq⟩
  · rw [prune_eq_self hnone] at heq
    exact fetch_unmade hwell heq hm
  · refine ⟨.clean (layout.cloneDir repository) e', ?_⟩
    rintro w rfl
    exact ⟨w.tools, fetch_refused hwell heq⟩

variable (hcall : Call.fetch host repository ∈ calls) (h : Renewed layout calls start fs)

include hmem hcall h in
/-- **Whether a clone can be prepared is the same as at the start.** If not, nothing is removed; and
    once it is, the state is renewed with the root standing. -/
theorem Renewed.clone_cases (hstart : start.isDirectory (start.start layout.root) = true) :
    match Disk.outcome (Package.prepare (layout.cloneDir repository) start) with
    | .error e => removeIfPresent (layout.cloneDir repository) fs = .error e fs
    | .ok () => ∃ fs', Cloning layout repository calls start fs fs' := by
  have hn := isOrdinary_repo hwell
  have hs := h.straight_author hr hwell
  have hplace : fs.place (layout.authorDir repository.author) =
      Layout.authorPlace (start.place layout.root) repository.author := by
    rw [place_authorDir fs hwell, h.place_eq]
  have hbelow : ∀ top, Touched calls (start.place layout.root) top →
      ¬ Below top (start.place (layout.authorDir repository.author)) := by
    rw [place_authorDir start hwell]
    exact fun top htop => not_below_author htop _
  have hshort := hr.short_author hmem hwell
  have hstart' : start.isDirectory (start.start (layout.authorDir repository.author)) = true := by
    rwa [start_authorDir start hwell]
  rw [show layout.cloneDir repository =
    (layout.authorDir repository.author).join ⟨Text.Utf8.bytes repository.repo⟩ from rfl,
    ← h.prepare_outcome hbelow (start_authorDir start hwell) (hr.straight_author hwell) hn]
  rcases removeIfPresent_short hs hn (h.isDirectory_start hbelow hstart') hshort with
    ⟨e, hrem, hprep⟩ | ⟨fs₂, hrem, hm, hprep⟩
  · rw [hprep]
    exact hrem
  · have hremade := prepare_remade hs hn (fun m hm => hshort m (List.mem_append_left _ hm)) hprep
    obtain ⟨hframed, hprepared⟩ := prepare_hosts (Or.inr ⟨hs, rfl⟩) hn
    have hp := hprepared fs₂ hprep
    rw [hprep, Disk.left_ok] at hframed
    rw [hplace] at hrem hm hremade hframed hp
    rw [← Layout.clonePlace_eq] at hrem hm hframed
    rw [hprep]
    exact ⟨fs₂, hrem, hm, ⟨h.of_framed ⟨_, hcall, hwell, rfl⟩ hframed (Or.inl hstart),
      isDirectory_of_append _ hp.leads.isDirectory⟩, hp, hremade⟩

omit hwell in
/-- **The directories of a clone that are made in two states are filled alike.** -/
theorem Repeatable.fillClone_agree (hclone : r.failClone = false) {a b : FileSystem} {p : Path}
    {dir : Location} {n : Name} (hn : Name.isOrdinary n = true)
    (hin : Below (start.place layout.root) dir) (ha : Standing layout calls start a)
    (hb : Standing layout calls start b) (hpa : Prepared a p dir n) (hpb : Prepared b p dir n) :
    Agree (Twins (Inside (start.place layout.root)) (dir ++ [n])) (r.fillClone (p.join ⟨n⟩) a)
      (r.fillClone (p.join ⟨n⟩) b) := by
  have hregion : ∀ k, Below (dir ++ [n]) k → Inside (start.place layout.root) k := by
    rintro k hk
    refine inside_iff.2 ⟨(hin.trans (List.prefix_append _ _)).trans hk, ?_⟩
    rintro rfl
    have hlen := (hk.trans hin).length_le
    simp only [List.length_append, List.length_singleton] at hlen
    omega
  have htwins := twins_of_empty (ha.around hb) (fun _ => ha.listing hb)
    (hpb.directory.trans hpa.directory.symm) hpa.empty hpb.empty
  exact TemplatePress.fillClone_agree hregion
    (fun fixture hf => hr.detached hclone fixture hf a ha.renewed.framedBy_root ha.root)
    ⟨htwins, hpa.ready hn, hpb.ready hn, SameOutside.refl _ _⟩ List.prefix_rfl

end Fetch

section Cloning

variable {w w' : World (List ToolCall)} {a b : FileSystem}
  (hwell : repository.isWellFormed = true) (hclone : r.failClone = false)
  (h : Cloning layout repository calls start w.files a)

include hwell hclone h

variable (host) in
/-- A fetch that clones answers as filling the clone does, and leaves what that leaves. -/
theorem Cloning.fetch : (Disk.left (TemplatePress.fetch r.toolchain layout host repository w)).files =
      Disk.left (r.fillClone (layout.cloneDir repository) a) ∧
    Disk.outcome (TemplatePress.fetch r.toolchain layout host repository w) =
      match Disk.outcome (r.fillClone (layout.cloneDir repository) a) with
      | .error e => .error (.clone repository.display (.io e))
      | .ok () => .ok (layout.cloneDir repository) := by
  have hc := fetch_cleared (r := r) host hwell h.removed
  rw [perform_clone_eq hclone h.made] at hc
  cases hfill : r.fillClone (layout.cloneDir repository) a <;> rw [hfill] at hc <;>
    obtain ⟨_, heq⟩ := hc <;> rw [heq] <;> exact ⟨rfl, rfl⟩

theorem Cloning.filled : Remade (Layout.authorPlace (start.place layout.root) repository.author)
    (Text.Utf8.bytes repository.repo) w.files
    (Disk.left (TemplatePress.fetch r.toolchain layout host repository w)).files := by
  obtain ⟨hgrows, hkept⟩ := fillClone_grows (r := r) h.prepared (isOrdinary_repo hwell)
  rw [(h.fetch host hwell hclone).1]
  exact h.remade.fill hgrows hkept

/-- **Two clones that are made at one place are alike.** -/
theorem Cloning.alike (hr : Repeatable r layout repositories start)
    (h' : Cloning layout repository calls start w'.files b) :
    FetchedAlike (Layout.authorPlace (start.place layout.root) repository.author)
      (Text.Utf8.bytes repository.repo) w.files w'.files
      (TemplatePress.fetch r.toolchain layout host repository w)
      (TemplatePress.fetch r.toolchain layout host repository w') := by
  obtain ⟨hfiles, hout⟩ := h.fetch host hwell hclone
  obtain ⟨hfiles', hout'⟩ := h'.fetch host hwell hclone
  have hagree : Agree _ (r.fillClone (layout.cloneDir repository) a)
      (r.fillClone (layout.cloneDir repository) b) :=
    hr.fillClone_agree hclone (isOrdinary_repo hwell) (List.prefix_append _ _) h.standing h'.standing
      h.prepared h'.prepared
  refine .remade (by rw [hout, hout', hagree.outcome]) (h.filled hwell hclone)
    (h'.filled hwell hclone) fun loc hloc => ?_
  rw [hfiles, hfiles']
  exact ⟨hagree.left.entry loc (Or.inl hloc), hagree.left.listing loc (Or.inl hloc)⟩

end Cloning

variable {w w' : World (List ToolCall)}

/-- **One fetch answers the same in two renewed states, and leaves the same clone.** -/
theorem fetch_alike (hr : Repeatable r layout repositories start) (hmem : repository ∈ repositories)
    (hcall : Call.fetch host repository ∈ calls) (h : Renewed layout calls start w.files)
    (h' : Renewed layout calls start w'.files) :
    FetchedAlike (Layout.authorPlace (start.place layout.root) repository.author)
      (Text.Utf8.bytes repository.repo) w.files w'.files
      (fetch r.toolchain layout host repository w)
      (fetch r.toolchain layout host repository w') := by
  by_cases hwell : repository.isWellFormed = true
  · by_cases hstart : start.isDirectory (start.start layout.root) = true
    · have hcases := h.clone_cases hr hmem hwell hcall hstart
      have hcases' := h'.clone_cases hr hmem hwell hcall hstart
      cases hout : Disk.outcome (Package.prepare (layout.cloneDir repository) start) with
      | error e =>
        rw [hout] at hcases hcases'
        rw [fetch_refused hwell hcases, fetch_refused hwell hcases']
        exact .refused _ rfl rfl
      | ok =>
        rw [hout] at hcases hcases'
        obtain ⟨a, ha⟩ := hcases
        obtain ⟨b, hb⟩ := hcases'
        cases hclone : r.failClone with
        | true =>
          -- the clone fails before anything is made
          have hc := fetch_cleared (r := r) host hwell ha.removed
          have hc' := fetch_cleared (r := r) host hwell hb.removed
          simp only [Rehearsal.perform, hclone, if_true] at hc hc'
          obtain ⟨_, heq⟩ := hc
          obtain ⟨_, heq'⟩ := hc'
          rw [heq, heq', Layout.clonePlace_eq]
          exact .removed _ rfl rfl
        | false => exact ha.alike hwell hclone hr hb
    · obtain ⟨e, he⟩ := fetch_nowhere host hr hwell hstart
      obtain ⟨_, heq⟩ := he w (h.nowhere.resolve_left hstart)
      obtain ⟨_, heq'⟩ := he w' (h'.nowhere.resolve_left hstart)
      rw [heq, heq']
      exact .refused _ (h.nowhere.resolve_left hstart).symm (h'.nowhere.resolve_left hstart).symm
  · have hill : ∀ v : World (List ToolCall), fetch r.toolchain layout host repository v =
        .error (.invalidRepository repository.display) v := fun v => by
      simp only [fetch, if_neg hwell]
    rw [hill, hill]
    exact .refused _ rfl rfl

section Alike

variable {dir : Location} {n : Name} {a b : FileSystem}
  {x y : EStateM.Result FetchError (World (List ToolCall)) Path}

theorem FetchedAlike.outcome (h : FetchedAlike dir n a b x y) : Disk.outcome y = Disk.outcome x := by
  cases h with
  | refused e _ _ => rfl
  | removed e _ _ => rfl
  | remade h _ _ _ => exact h

/-- Nothing stands at or below a place from which everything was removed. -/
theorem sameAt_prune {top loc : Location} (htop : top ≠ []) (hloc : Below top loc) :
    SameAt loc (a.prune top) (b.prune top) := by
  have hnone : ∀ (c : FileSystem) (ns : List Name), (c.prune top).at? (loc ++ ns) = none := by
    intro c ns
    obtain ⟨ms, rfl⟩ := hloc
    have hne : top ++ ms ++ ns ≠ [] := by simp [htop]
    rw [at?_prune c top _ hne, List.append_assoc, if_pos (List.prefix_append _ _)]
  have hempty : ∀ c : FileSystem, (c.prune top).children loc = [] := fun c =>
    List.eq_nil_iff_forall_not_mem.2 fun x hx => by
      have hx := mem_children.1 hx
      rw [hnone] at hx
      cases hx
  have hself : ∀ c : FileSystem, (c.prune top).at? loc = none := fun c => by
    simpa using hnone c []
  exact ⟨by rw [hself, hself], by rw [hempty, hempty]⟩

/-- **At the clone's place the states that are left are the same**, or nothing was changed. -/
theorem FetchedAlike.same (h : FetchedAlike dir n a b x y) {loc : Location}
    (hloc : Below (dir ++ [n]) loc) : SameAt loc (Disk.left x).files (Disk.left y).files ∨
      (Disk.left x).files = a ∧ (Disk.left y).files = b := by
  cases h with
  | refused e h h' => exact Or.inr ⟨h, h'⟩
  | removed e h h' =>
    rw [Disk.left_error, Disk.left_error, h, h']
    exact Or.inl (sameAt_prune (by simp) hloc)
  | remade _ _ _ hsame => exact Or.inl (hsame loc hloc)

/-- **Elsewhere nothing is changed**, where the author's directory stands if it stands in the first
    state afterwards. -/
theorem FetchedAlike.kept (h : FetchedAlike dir n a b x y)
    (hdir : (Disk.left x).files.isDirectory dir = true → b.isDirectory dir = true) :
    FileSystem.Kept (Below (dir ++ [n])) b (Disk.left y).files := by
  cases h with
  | refused e _ h' =>
    rw [Disk.left_error, h']
    exact FileSystem.Kept.refl _ _
  | removed e _ h' =>
    rw [Disk.left_error, h']
    exact kept_prune _ _
  | remade _ h h' _ => exact h'.kept (hdir (isDirectory_of_at? h.directory))

theorem FetchedAlike.link (h : FetchedAlike dir n a b x y) {loc : Location} {target : Path}
    (hat : (Disk.left x).files.at? loc = some (.link target)) : a.at? loc = some (.link target) := by
  cases h with
  | refused e h _ =>
    rw [Disk.left_error, h] at hat
    exact hat
  | removed e h _ =>
    rw [Disk.left_error, h] at hat
    by_cases hloc : Below (dir ++ [n]) loc
    · exact absurd hat (linkFree_of_none (at?_prune_self a _ (by simp)) loc hloc target)
    · rwa [(sameOutside_prune a _).entry loc hloc] at hat
  | remade _ h _ _ => exact h.link loc target hat

/-- A fetch that succeeds makes its clone anew. -/
theorem FetchedAlike.remade_of_ok {clone : Path} {w : World (List ToolCall)}
    (h : FetchedAlike dir n a b (.ok clone w) y) : Remade dir n a w.files := by
  cases h with
  | remade _ h _ _ => exact h

end Alike

end Repeat

end TemplatePress
