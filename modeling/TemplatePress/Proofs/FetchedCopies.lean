import TemplatePress.Proofs.Duplicates
import TemplatePress.Proofs.ExitStatus
import TemplatePress.Proofs.Repetition

/-!
# What is cloned stands in every clone

Repositories are fetched in turn, and more than one may belong in one place. Each fetch clears its
place and clones anew. What is cloned is found apart from all clones (`Ahead`). This file fixes:

* `eq_of_below_clonePlace`, `cloneDir_injective`: clones of different authors or names are apart, as
  places and as paths;
* `Shows`: a tree is a copy of what is cloned, and holds nothing else. Filling a new clone makes one
  (`fillClone_shown`), so a fetch leaves one (`fetch_shown`), and keeps those of the others
  (`Shown.of_framed`);
* `fetchAll_shown`: at the end every place shows what is cloned. The induction is on the list; a
  place shows it from its first fetch on, or will be fetched;
* `fetchAll_copies`: with the calls for the last repository of each place.
-/

namespace TemplatePress

open FileSystem

/-! ## 1. Places of clones -/

/-- What tells the place of a clone: the author and the name. -/
def RepositoryRef.pair (r : RepositoryRef) : String × String :=
  (r.author, r.repo)

section Places

variable {layout : Layout} {root : Location} {r s : RepositoryRef}

theorem clonePlace_congr (h : r.pair = s.pair) :
    Layout.clonePlace root r = Layout.clonePlace root s := by
  obtain ⟨hauthor, hrepo⟩ := Prod.mk.inj h
  rw [Layout.clonePlace, Layout.clonePlace, hauthor, hrepo]

theorem cloneDir_congr (h : r.pair = s.pair) : layout.cloneDir r = layout.cloneDir s := by
  obtain ⟨hauthor, hrepo⟩ := Prod.mk.inj h
  rw [Layout.cloneDir, Layout.cloneDir, hauthor, hrepo]

/-- **Places of clones do not overlap**, unless they are the same. -/
theorem eq_of_below_clonePlace {loc : Location} (hr : Below (Layout.clonePlace root r) loc)
    (hs : Below (Layout.clonePlace root s) loc) : r.pair = s.pair := by
  have heq : Layout.clonePlace root r = Layout.clonePlace root s := by
    rcases List.prefix_or_prefix_of_prefix hr hs with h | h
    · exact h.eq_of_length (by simp [Layout.clonePlace])
    · exact (h.eq_of_length (by simp [Layout.clonePlace])).symm
  simp only [Layout.clonePlace, List.append_cancel_left_eq, List.cons.injEq, and_true,
    true_and] at heq
  exact Prod.ext (bytes_injective heq.1) (bytes_injective heq.2)

/-- **Paths of clones differ**, unless they are of the same author and name. -/
theorem cloneDir_injective (hr : r.isWellFormed = true) (hs : s.isWellFormed = true)
    (h : layout.cloneDir r = layout.cloneDir s) : r.pair = s.pair := by
  have hnames : ∀ {x : RepositoryRef}, x.isWellFormed = true →
      ∀ n ∈ [Text.Utf8.bytes x.author, Text.Utf8.bytes x.repo], Name.isOrdinary n = true := by
    intro x hx
    simp only [List.forall_mem_cons, List.not_mem_nil, false_implies, implies_true, and_true]
    exact ⟨isOrdinary_author hx, isOrdinary_repo hx⟩
  have heq := Path.under_injective layout.reposDir (hnames hr) (hnames hs) h
  simp only [List.cons.injEq, and_true] at heq
  exact Prod.ext (bytes_injective heq.1) (bytes_injective heq.2)

end Places

/-! ## 2. What may come to stand -/

/-- At or below a location, or where a directory above it is missing. -/
def FileSystem.Ahead (fs : FileSystem) (top loc : Location) : Prop :=
  Below top loc ∨ loc <+: top ∧ fs.at? loc = none

section Ahead

variable {start fs fs' : FileSystem} {top : Location}

/-- Above a directory that stands none is missing. -/
theorem below_of_ahead (htop : fs.isDirectory top = true) {loc : Location}
    (h : fs.Ahead top loc) : Below top loc := by
  rcases h with h | ⟨⟨ns, rfl⟩, hnone⟩
  · exact h
  · have hdir := isDirectory_of_append ns htop
    rw [isDirectory_iff, hnone] at hdir
    cases hdir

/-- What is done below the location with the directories missing above stays in what is ahead. -/
theorem sameOutside_ahead (h : SameOutside (start.Ahead top) start fs) {inner : Location}
    (hin : top <+: inner) (hf : Framed inner fs fs') :
    SameOutside (start.Ahead top) start fs' := by
  refine ⟨hf.home.trans h.home, fun loc hloc => ?_⟩
  have hout : ¬ top <+: loc := fun hbelow => hloc (Or.inl hbelow)
  rcases hf.entry loc fun hbelow => hout (hin.trans hbelow) with heq | ⟨hup, hnone, -⟩
  · exact heq.trans (h.entry loc hloc)
  · rw [h.entry loc hloc] at hnone
    exact absurd (Or.inr ⟨(List.prefix_or_prefix_of_prefix hup hin).resolve_right hout, hnone⟩) hloc

/-- **A copy of a source that is settled is a copy of it at the start**, and the other way round. -/
theorem isCopy_of_settled {region : Location → Prop} {source : Path} {loc : Location}
    (hs : Settled start region source) (hl : start.Leads source loc)
    (hsame : SameOutside region start fs) (ns : List Name) (copied : Option Entry) :
    fs.IsCopy source loc ns copied ↔ start.IsCopy source loc ns copied := by
  have hat := hsame.entry _ (hs.outside loc hl ns)
  unfold IsCopy
  rw [hat]
  cases hentry : start.at? (loc ++ ns) with
  | none => rfl
  | some e => rw [hs.inside loc hl ns (by simp [hentry]) fs hsame]

end Ahead

/-! ## 3. One fetch -/

/-- The tree is a copy of what is cloned, as it stands in a file system: every entry below is one of
    the fixture's, and none is there if there is no fixture. -/
def Rehearsal.Shows (r : Rehearsal) (base fs : FileSystem) (top : Location) : Prop :=
  match r.fixture with
  | none => ∀ ns, ns ≠ [] → fs.at? (top ++ ns) = none
  | some fixture => ∃ loc, base.stat? fixture = .ok (loc, .directory) ∧
    ∀ ns, base.IsCopy fixture loc ns (fs.at? (top ++ ns))

/-- What a rehearsal clones does not depend on the directory of all clones. -/
def Rehearsal.Aside (r : Rehearsal) (root : Location) (start : FileSystem) : Prop :=
  ∀ fixture, r.fixture = some fixture →
    Settled start (start.Ahead (root ++ [Layout.reposName])) fixture

/-- The path of a clone leads to its place, and what is cloned stands there. -/
structure Shown (r : Rehearsal) (layout : Layout) (root : Location) (start fs : FileSystem)
    (repository : RepositoryRef) : Prop where
  stands : fs.stat? (layout.cloneDir repository) =
    .ok (Layout.clonePlace root repository, .directory)
  shows : r.Shows start fs (Layout.clonePlace root repository)

/-- A state that fetching came to: the guard stands, and nothing but what is ahead differs from the
    start. -/
structure Fetching (layout : Layout) (root : Location) (calls : List Call)
    (start fs : FileSystem) : Prop where
  guard : Guarded layout root calls fs
  same : SameOutside (start.Ahead (root ++ [Layout.reposName])) start fs

section Fetch

variable {σ : Type} {tools : Toolchain σ} {r : Rehearsal} {layout : Layout} {host : String}
  {repository : RepositoryRef} {root : Location} {calls : List Call} {start fs fs' : FileSystem}
  {w w' : World σ}

theorem fetch_eq_ok {path : Path}
    (h : fetch tools layout host repository w = .ok path w') :
    repository.isWellFormed = true ∧ ∃ fs w₁,
      removeIfPresent (layout.cloneDir repository) w.files = .ok () fs ∧
      tools.run (.clone (repository.cloneUrl host) (layout.cloneDir repository))
        { w with files := fs } = .ok () w₁ ∧
      ChecksOut tools (layout.cloneDir repository) repository.reference w₁ w' := by
  have hall : fetchAll tools layout host [repository] w = .ok () w' := by
    simp only [fetchAll, h]
    rfl
  obtain _ | ⟨hwell, hremove, hclone, hcheck, hrest⟩ := fetchAll_eq_ok.1 hall
  cases hrest
  exact ⟨hwell, _, _, hremove, hclone, hcheck⟩

/-- Checking out leaves the files as they are. -/
theorem files_of_checksOut (ht : tools.Rehearses r) {clone : Path} {wanted : Option String}
    (h : ChecksOut tools clone wanted w w') : w'.files = w.files := by
  unfold ChecksOut at h
  split at h
  · rw [h]
  · exact (EStateM.Result.ok.inj (ht.ok _ _ _ h)).2.symm

theorem Guarded.straight_author (h : Guarded layout root calls fs)
    (hcall : Call.fetch host repository ∈ calls) (hwell : repository.isWellFormed = true) :
    fs.Straight (layout.authorDir repository.author) ∧
      fs.place (layout.authorDir repository.author) =
        Layout.authorPlace root repository.author := by
  have hplace : fs.place (layout.authorDir repository.author) = _ := place_authorDir fs hwell
  rw [← h.place] at hplace
  have hrepos : fs.Straight layout.reposDir := by
    refine h.straight.join (n := Layout.reposName) (by decide) fun target => ?_
    rw [← h.place]
    exact h.repos target
  refine ⟨hrepos.join (isOrdinary_author hwell) fun target => ?_, hplace⟩
  rw [place_reposDir, ← h.place, List.append_assoc]
  exact h.author host repository hcall hwell target

/-- What is cloned stands beside every place of a clone. -/
theorem Rehearsal.Aside.beside (hr : r.Aside root start) {fixture : Path}
    (hfixture : r.fixture = some fixture) {loc : Location} (hl : start.Leads fixture loc)
    (repository : RepositoryRef) : Beside loc (Layout.clonePlace root repository) := by
  have hset := hr fixture hfixture
  have hbelow := below_clonePlace root repository
  refine ⟨fun hup => ?_, fun hup => ?_⟩
  · obtain ⟨ns, hns⟩ := hup
    exact hset.outside loc hl ns (Or.inl (hns ▸ hbelow))
  · refine hset.outside loc hl [] (Or.inl ?_)
    rw [List.append_nil]
    exact hbelow.trans hup

/-- **Filling a new clone shows what is cloned at its place**, and nothing else. -/
theorem fillClone_shown (hr : r.Aside root start) (hwell : repository.isWellFormed = true)
    (hp : Prepared fs (layout.authorDir repository.author)
      (Layout.authorPlace root repository.author) (Text.Utf8.bytes repository.repo))
    (hsame : SameOutside (start.Ahead (root ++ [Layout.reposName])) start fs)
    (h : r.fillClone (layout.cloneDir repository) fs = .ok () fs') :
    Shown r layout root start fs' repository := by
  have hplace := Layout.clonePlace_eq root repository
  have hstands : fs.stat? (layout.cloneDir repository) =
      .ok (Layout.clonePlace root repository, .directory) := by
    rw [hplace]
    exact stat?_of_leads (hp.inside (isOrdinary_repo hwell)) (checkPath_of_nameCheck hp.check)
  have hempty : ∀ ns, ns ≠ [] → fs.at? (Layout.clonePlace root repository ++ ns) = none := by
    rw [hplace]
    exact hp.empty
  unfold Rehearsal.fillClone at h
  cases hfixture : r.fixture with
  | none =>
    simp only [hfixture] at h
    cases h
    exact ⟨hstands, by rwa [Rehearsal.Shows, hfixture]⟩
  | some fixture =>
    simp only [hfixture] at h
    cases hread : fs.readDirectory fixture with
    | error e => simp [hread] at h
    | ok entries =>
      obtain ⟨loc, hstat, rfl⟩ := readDirectory_eq_ok hread
      have hset := hr fixture hfixture
      have hstart : start.stat? fixture = .ok (loc, .directory) := by
        rw [← hset.path fs hsame]
        exact hstat
      have hl := leads_of_stat? hstart
      cases hfill : each (copyEntry (copyLevels (pathLimit - 1)) fixture
          (layout.cloneDir repository)) (fs.children loc) fs with
      | error e fs₂ => simp [hread, hfill] at h
      | ok _ fs₂ =>
        simp only [hread, hfill] at h
        cases h
        obtain ⟨-, hdup⟩ := duplicate_of_copyEntries (copyLevels_grows _)
          (copyLevels_duplicates _) hstat hstands hempty (hr.beside hfixture hl repository) hfill
        have hgrow := copyEntries_grows (copyLevels_grows (pathLimit - 1)) fixture
          (leads_of_stat? hstands) (by rw [hplace]; exact hp.free)
          fun x (hx : x ∈ fs.children loc) => isOrdinary_of_mem_children hx
        rw [hfill, Disk.left_ok] at hgrow
        have hsame' := sameOutside_ahead hsame (below_clonePlace root repository)
          hgrow.kept.framed
        refine ⟨hdup.stat?_copy, ?_⟩
        rw [Rehearsal.Shows, hfixture]
        exact ⟨loc, hstart, fun ns => (isCopy_of_settled hset hl hsame' ns _).1 (hdup.isCopy ns)⟩

variable (ht : tools.Rehearses r) (hf : Fetching layout root calls start w.files)
  (hcall : Call.fetch host repository ∈ calls)

include ht hf hcall

/-- **A fetch that succeeds shows what is cloned at its place**, with nothing left of what stood
    there. -/
theorem fetch_shown (hr : r.Aside root start) {path : Path}
    (h : fetch tools layout host repository w = .ok path w') :
    Shown r layout root start w'.files repository := by
  obtain ⟨hwell, fs, w₁, hremove, hclone, hcheck⟩ := fetch_eq_ok h
  rw [show w'.files = w₁.files from files_of_checksOut ht hcheck]
  have hn := isOrdinary_repo hwell
  have hperform := ht.ok _ _ _ hclone
  have hfail : r.failClone = false := by
    cases hfail : r.failClone with
    | false => rfl
    | true => simp [Rehearsal.perform, hfail] at hperform
  -- behind the removal the directory of the clone is made, and stands empty
  cases hmade : makeDirectories (layout.cloneDir repository) fs with
  | error e fs₁ => rw [perform_clone_unmade hfail hmade] at hperform; cases hperform
  | ok _ fs₁ =>
    obtain ⟨hs, hplace⟩ := hf.guard.straight_author hcall hwell
    have hprepare : Package.prepare ((layout.authorDir repository.author).join
        ⟨Text.Utf8.bytes repository.repo⟩) w.files = .ok () fs₁ := by
      simp only [Package.prepare, show removeIfPresent ((layout.authorDir repository.author).join
        ⟨Text.Utf8.bytes repository.repo⟩) w.files = _ from hremove]
      exact hmade
    obtain ⟨hframed, hok⟩ := prepare_hosts (Or.inr ⟨hs, hplace.symm⟩) hn
    rw [hprepare, Disk.left_ok, ← Layout.clonePlace_eq] at hframed
    have hsame := sameOutside_ahead hf.same (below_clonePlace root repository) hframed
    rw [perform_clone_eq hfail hmade] at hperform
    cases hfill : r.fillClone (layout.cloneDir repository) fs₁ with
    | error e fs₂ => simp [hfill] at hperform
    | ok _ fs₂ =>
      simp only [hfill] at hperform
      cases hperform
      exact fillClone_shown hr hwell (hok fs₁ hprepare) hsame hfill

/-- A fetch touches the place of its clone only, and comes to a state of fetching. -/
theorem Fetching.of_fetch {path : Path}
    (h : fetch tools layout host repository w = .ok path w') :
    Framed (Layout.clonePlace root repository) w.files w'.files ∧
      Fetching layout root calls start w'.files := by
  have hleft : (Call.fetch host repository).act tools layout w = w' := by
    simp only [Call.act, h, Disk.left_ok]
  have hwell := (fetch_eq_ok h).1
  rcases act_framed ht hcall hf.guard with ⟨top, htouches, hframed⟩ | hsame
  · obtain ⟨-, rfl⟩ := id htouches
    rw [hleft] at hframed
    exact ⟨hframed, hf.guard.of_framed htouches hframed,
      sameOutside_ahead hf.same (below_clonePlace root repository) hframed⟩
  · rw [hleft] at hsame
    rw [hsame]
    exact ⟨Framed.refl _ _, hf⟩

omit ht hf in
/-- **A fetch keeps what is shown in other places.** -/
theorem Shown.of_framed {other : RepositoryRef} (hne : other.pair ≠ repository.pair)
    (hf : Fetching layout root calls start fs) (hwell : repository.isWellFormed = true)
    (h : Shown r layout root start fs repository)
    (hframed : Framed (Layout.clonePlace root other) fs fs') :
    Shown r layout root start fs' repository := by
  have hkeep : ∀ ns, fs'.at? (Layout.clonePlace root repository ++ ns) =
      fs.at? (Layout.clonePlace root repository ++ ns) := by
    intro ns
    rcases hframed.entry (Layout.clonePlace root repository ++ ns) fun hbelow =>
      hne (eq_of_below_clonePlace hbelow (List.prefix_append _ _)) with heq | ⟨hup, -, -⟩
    · exact heq
    · exact absurd (eq_of_below_clonePlace List.prefix_rfl ((List.prefix_append _ ns).trans hup)) hne
  have hself := hkeep []
  rw [List.append_nil, at?_of_stat? h.stands] at hself
  refine ⟨?_, ?_⟩
  · -- the way to the clone is straight, and its place still stands
    obtain ⟨hs, hplace⟩ := hf.guard.straight_author hcall hwell
    have hat := at?_of_stat? h.stands
    have hclone : fs.Straight (layout.cloneDir repository) := by
      refine hs.join (isOrdinary_repo hwell) fun target => ?_
      rw [hplace, ← Layout.clonePlace_eq, hat]
      simp
    obtain ⟨hloc, hshort⟩ := place_of_leads hclone (leads_of_stat? h.stands)
    have hdir : fs'.isDirectory (fs'.place (layout.cloneDir repository)) = true := by
      rw [place_of_home hframed.home, ← hloc, isDirectory_iff]
      exact hself
    have hl := leads_of_isDirectory hclone.1 hshort hdir
    rw [place_of_home hframed.home, ← hloc] at hl
    obtain ⟨s, hspot, -⟩ := stat?_eq_ok.1 h.stands
    exact stat?_of_leads hl (spot_eq_ok.1 hspot).1
  · have hshows := h.shows
    unfold Rehearsal.Shows at hshows ⊢
    simp only [hkeep]
    exact hshows

end Fetch

/-! ## 4. All fetches -/

section FetchAll

variable {σ : Type} {tools : Toolchain σ} {r : Rehearsal} {layout : Layout} {host : String}
  {root : Location} {calls : List Call} {start fs : FileSystem} {w w' : World σ}

theorem Shown.congr {x repository : RepositoryRef} (hpair : x.pair = repository.pair)
    (h : Shown r layout root start fs x) : Shown r layout root start fs repository := by
  obtain ⟨hstands, hshows⟩ := h
  rw [cloneDir_congr hpair, clonePlace_congr hpair] at hstands
  rw [clonePlace_congr hpair] at hshows
  exact ⟨hstands, hshows⟩

/-- What is shown as it was at the start is shown as it is. -/
theorem Rehearsal.Shows.now (hr : r.Aside root start)
    (hsame : SameOutside (start.Ahead (root ++ [Layout.reposName])) start fs) {top : Location}
    (h : r.Shows start fs top) : r.Shows fs fs top := by
  unfold Rehearsal.Shows at h ⊢
  cases hfixture : r.fixture with
  | none => simpa only [hfixture] using h
  | some fixture =>
    simp only [hfixture] at h ⊢
    obtain ⟨loc, hstat, hcopy⟩ := h
    have hset := hr fixture hfixture
    exact ⟨loc, by rw [hset.path fs hsame, hstat], fun ns =>
      (isCopy_of_settled hset (leads_of_stat? hstat) hsame ns _).2 (hcopy ns)⟩

/-- **When all is fetched, every place shows what is cloned** that showed it before or was fetched. -/
theorem fetchAll_shown (ht : tools.Rehearses r) (hr : r.Aside root start)
    {rest : List RepositoryRef} (hcalls : ∀ x ∈ rest, Call.fetch host x ∈ calls)
    (hf : Fetching layout root calls start w.files)
    (h : fetchAll tools layout host rest w = .ok () w') :
    Fetching layout root calls start w'.files ∧
      ∀ repository : RepositoryRef, Call.fetch host repository ∈ calls →
        repository.isWellFormed = true →
        (Shown r layout root start w.files repository ∨
          ∃ x ∈ rest, x.pair = repository.pair) →
        Shown r layout root start w'.files repository := by
  induction rest generalizing w with
  | nil =>
    cases h
    exact ⟨hf, fun repository _ _ hshown => hshown.resolve_right (by simp)⟩
  | cons x rest ih =>
    unfold fetchAll at h
    split at h
    · cases h
    · rename_i path w₁ hfetch
      have hx := hcalls x List.mem_cons_self
      obtain ⟨hframed, hf₁⟩ := hf.of_fetch ht hx hfetch
      obtain ⟨hend, hall⟩ := ih (fun y hy => hcalls y (List.mem_cons_of_mem _ hy)) hf₁ h
      refine ⟨hend, fun repository hcall hwell hshown => hall repository hcall hwell ?_⟩
      by_cases hpair : x.pair = repository.pair
      · exact Or.inl ((fetch_shown ht hf hx hr hfetch).congr hpair)
      · rcases hshown with hshown | ⟨y, hy, heq⟩
        · exact Or.inl (hshown.of_framed hcall hpair hf hwell hframed)
        · rcases List.mem_cons.1 hy with rfl | hy
          · exact absurd heq hpair
          · exact Or.inr ⟨y, hy, heq⟩

theorem fetchAll_append (front back : List RepositoryRef) (w : World σ) :
    fetchAll tools layout host (front ++ back) w =
      match fetchAll tools layout host front w with
      | .error e w' => .error e w'
      | .ok () w' => fetchAll tools layout host back w' := by
  induction front generalizing w with
  | nil => rfl
  | cons x rest ih =>
    simp only [List.cons_append, fetchAll]
    cases fetch tools layout host x w with
    | error e w' => rfl
    | ok path w' => exact ih w'

/-- **A fetch in the middle of others leaves every clone of another author or name as it is.** -/
theorem fetchAll_split (ht : tools.Rehearses r) {front back : List RepositoryRef}
    {repository : RepositoryRef}
    (hcalls : ∀ x ∈ front ++ repository :: back, Call.fetch host x ∈ calls)
    (hf : Fetching layout root calls start w.files) (hr : r.Aside root start)
    (h : fetchAll tools layout host (front ++ repository :: back) w = .ok () w') :
    ∃ path before after, fetchAll tools layout host front w = .ok () before ∧
      fetch tools layout host repository before = .ok path after ∧
      fetchAll tools layout host back after = .ok () w' ∧
      ∀ other : RepositoryRef, other.pair ≠ repository.pair →
        ∀ loc, Below (Layout.clonePlace root other) loc →
          after.files.at? loc = before.files.at? loc := by
  rw [fetchAll_append] at h
  cases hfront : fetchAll tools layout host front w with
  | error e before => rw [hfront] at h; cases h
  | ok _ before =>
    simp only [hfront, fetchAll] at h
    cases hfetch : fetch tools layout host repository before with
    | error e after => rw [hfetch] at h; cases h
    | ok path after =>
      simp only [hfetch] at h
      refine ⟨path, before, after, rfl, hfetch, h, fun other hne loc hloc => ?_⟩
      have hbefore := (fetchAll_shown ht hr
        (fun x hx => hcalls x (List.mem_append_left _ hx)) hf hfront).1
      have hframed := (hbefore.of_fetch ht (hcalls repository (by simp)) hfetch).1
      rcases hframed.entry loc fun hbelow => hne (eq_of_below_clonePlace hloc hbelow)
        with heq | ⟨hup, -, -⟩
      · exact heq
      · exact absurd (eq_of_below_clonePlace (hloc.trans hup) List.prefix_rfl) hne

end FetchAll

/-! ## 5. The last calls for a place -/

/-- The directory of a clone that a call clones into or checks out in. -/
def ToolCall.cloneDir? : ToolCall → Option Path
  | .clone _ destination => some destination
  | .checkout repository _ => some repository
  | _ => none

section Log

variable {r : Rehearsal} {faults : List Fault} {layout : Layout} {host : String}
  {repositories : List RepositoryRef} {w w' : World (Counted (List ToolCall))}

theorem inner_of_run {call : ToolCall}
    (h : (r.toolchain.withFaults faults).run call w = .ok () w') :
    w'.tools.inner = w.tools.inner ++ [call] := by
  simp only [Toolchain.withFaults, Rehearsal.toolchain] at h
  split at h
  · cases h
  · split at h <;> rename_i hrun <;> split at hrun <;> cases hrun <;> cases h
    rfl

/-- The calls of a fetch that succeeds. -/
def RepositoryRef.calls (x : RepositoryRef) (layout : Layout) (host : String) : List ToolCall :=
  (x.plan layout host).map PlannedCall.call

theorem calls_eq (x : RepositoryRef) : x.calls layout host =
    .clone (x.cloneUrl host) (layout.cloneDir x) ::
      x.reference.toList.map (.checkout (layout.cloneDir x)) := by
  simp [RepositoryRef.calls, RepositoryRef.plan, Function.comp_def]

theorem cloneDir?_of_mem_calls {x : RepositoryRef} {call : ToolCall}
    (h : call ∈ x.calls layout host) : call.cloneDir? = some (layout.cloneDir x) := by
  rw [calls_eq, List.mem_cons, List.mem_map] at h
  rcases h with rfl | ⟨reference, -, rfl⟩ <;> rfl

/-- **When all is fetched, the calls of each fetch were made**, in the order of the list. -/
theorem Fetches.inner
    (h : Fetches (r.toolchain.withFaults faults) layout host repositories w w') :
    w'.tools.inner = w.tools.inner ++ repositories.flatMap (·.calls layout host) := by
  induction h with
  | nil w => simp
  | @cons x rest w fs w₁ w₂ w' _ _ hclone hcheck _ ih =>
    have hcloned := inner_of_run hclone
    have hchecked : w₂.tools.inner = w₁.tools.inner ++
        x.reference.toList.map (.checkout (layout.cloneDir x)) := by
      unfold ChecksOut at hcheck
      split at hcheck
      · rename_i hnone
        simp [hcheck, hnone]
      · rename_i reference hsome
        simp [inner_of_run hcheck, hsome]
    rw [ih, hchecked, hcloned, List.flatMap_cons, calls_eq]
    simp

/-- Of the repositories of one place one is the last. -/
theorem exists_last {pair : String × String} (h : ∃ x ∈ repositories, x.pair = pair) :
    ∃ front last back, repositories = front ++ last :: back ∧ last.pair = pair ∧
      ∀ x ∈ back, x.pair ≠ pair := by
  induction repositories with
  | nil => simp at h
  | cons x rest ih =>
    by_cases hlater : ∃ y ∈ rest, y.pair = pair
    · obtain ⟨front, last, back, rfl, hlast, hback⟩ := ih hlater
      exact ⟨x :: front, last, back, rfl, hlast, hback⟩
    · obtain ⟨y, hy, hpair⟩ := h
      rcases List.mem_cons.1 hy with rfl | hy
      · exact ⟨[], y, rest, rfl, hpair, fun z hz heq => hlater ⟨z, hz, heq⟩⟩
      · exact absurd ⟨y, hy, hpair⟩ hlater

theorem Fetches.wellFormed {σ : Type} {tools : Toolchain σ} {w w' : World σ}
    (h : Fetches tools layout host repositories w w') :
    ∀ x ∈ repositories, x.isWellFormed = true := by
  induction h with
  | nil => simp
  | cons hwell _ _ _ _ ih => exact List.forall_mem_cons.2 ⟨hwell, ih⟩

/-- **The last clone into a place is followed by the checkout that the last repository of the place
    asks for**, if it asks for one, and by no other call for the place. -/
theorem Fetches.lastCalls
    (h : Fetches (r.toolchain.withFaults faults) layout host repositories w w') :
    ∃ calls, w'.tools.inner = w.tools.inner ++ calls ∧ ∀ repository ∈ repositories,
      ∃ front last back, repositories = front ++ last :: back ∧
        last.pair = repository.pair ∧ (∀ x ∈ back, x.pair ≠ repository.pair) ∧
        ∃ before after, calls = before ++
            .clone (last.cloneUrl host) (layout.cloneDir repository) ::
              (last.reference.toList.map (.checkout (layout.cloneDir repository)) ++ after) ∧
          ∀ call ∈ after, call.cloneDir? ≠ some (layout.cloneDir repository) := by
  refine ⟨_, h.inner, fun repository hmem => ?_⟩
  have hwell := h.wellFormed
  obtain ⟨front, last, back, rfl, hpair, hback⟩ := exists_last ⟨repository, hmem, rfl⟩
  refine ⟨front, last, back, rfl, hpair, hback, front.flatMap (·.calls layout host),
    back.flatMap (·.calls layout host), ?_, fun call hcall hdir => ?_⟩
  · rw [List.flatMap_append, List.flatMap_cons, calls_eq last, ← cloneDir_congr hpair,
      List.cons_append]
  · obtain ⟨x, hx, hcall⟩ := List.mem_flatMap.1 hcall
    rw [cloneDir?_of_mem_calls hcall, Option.some.injEq] at hdir
    exact hback x hx (cloneDir_injective (hwell x (by simp [hx])) (hwell repository hmem) hdir)

end Log

/-- **When all repositories are fetched, every clone is a copy of what is cloned** and nothing else,
    whatever stood in its place, which repositories share a place, and in which order they come. No
    fetch changes the clone of another author or name. Behind the last clone into a place comes the
    checkout of the last repository of the place, if that has a reference, and no other. -/
theorem fetchAll_copies {r : Rehearsal} {faults : List Fault} {layout : Layout} {host : String}
    {repositories : List RepositoryRef} {w w' : World (Counted (List ToolCall))} {root : Location}
    (hroot : w.files.Straight layout.root) (hplace : root = w.files.place layout.root)
    (hrepos : w.files.at? (root ++ [Layout.reposName]) = none ∨
      w.files.at? (root ++ [Layout.reposName]) = some .directory)
    (hauthors : ∀ repository ∈ repositories,
      w.files.at? (Layout.authorPlace root repository.author) = none ∨
        w.files.at? (Layout.authorPlace root repository.author) = some .directory)
    (haside : r.Aside root w.files)
    (h : fetchAll (r.toolchain.withFaults faults) layout host repositories w = .ok () w') :
    (∀ repository ∈ repositories,
      w'.files.stat? (layout.cloneDir repository) =
          .ok (Layout.clonePlace root repository, .directory) ∧
        r.Shows w.files w'.files (Layout.clonePlace root repository) ∧
        r.Shows w'.files w'.files (Layout.clonePlace root repository)) ∧
      (∀ front repository back, repositories = front ++ repository :: back →
        ∃ path before after,
          fetchAll (r.toolchain.withFaults faults) layout host front w = .ok () before ∧
          fetch (r.toolchain.withFaults faults) layout host repository before =
            .ok path after ∧
          fetchAll (r.toolchain.withFaults faults) layout host back after = .ok () w' ∧
          ∀ other : RepositoryRef, other.pair ≠ repository.pair →
            ∀ loc, Below (Layout.clonePlace root other) loc →
              after.files.at? loc = before.files.at? loc) ∧
      ∃ calls, w'.tools.inner = w.tools.inner ++ calls ∧ ∀ repository ∈ repositories,
        ∃ front last back, repositories = front ++ last :: back ∧
          last.pair = repository.pair ∧ (∀ x ∈ back, x.pair ≠ repository.pair) ∧
          ∃ before after, calls = before ++
              .clone (last.cloneUrl host) (layout.cloneDir repository) ::
                (last.reference.toList.map (.checkout (layout.cloneDir repository)) ++ after) ∧
            ∀ call ∈ after, call.cloneDir? ≠ some (layout.cloneDir repository) := by
  have ht : (r.toolchain.withFaults faults).Rehearses r :=
    rehearses_withFaults (rehearses_toolchain r) faults
  have hfetches := fetchAll_eq_ok.1 h
  have hcalls : ∀ x ∈ repositories, Call.fetch host x ∈ fetches host repositories :=
    fun x hx => List.mem_map_of_mem hx
  have hno : ∀ {loc : Location}, w.files.at? loc = none ∨ w.files.at? loc = some .directory →
      ∀ target, w.files.at? loc ≠ some (.link target) := by
    rintro loc (hat | hat) target <;> simp [hat]
  have hbegin : Fetching layout root (fetches host repositories) w.files w.files := by
    refine ⟨⟨hroot, hplace, hno hrepos, fun host' repository hmem _ => ?_⟩, SameOutside.refl _ _⟩
    obtain ⟨x, hx, heq⟩ := List.mem_map.1 hmem
    cases heq
    exact hno (hauthors repository hx)
  obtain ⟨hend, hshown⟩ := fetchAll_shown ht haside hcalls hbegin h
  refine ⟨fun repository hmem => ?_, ?_, hfetches.lastCalls⟩
  · obtain ⟨hstands, hshows⟩ := hshown repository (hcalls repository hmem)
      (hfetches.wellFormed repository hmem) (Or.inr ⟨repository, hmem, rfl⟩)
    exact ⟨hstands, hshows, hshows.now haside hend.same⟩
  · rintro front repository back rfl
    exact fetchAll_split ht hcalls hbegin haside h

/-- A directory to clone with a link that leads out of it, an old clone, and a link that leads
    nowhere where another clone belongs. -/
def nursery : FileSystem :=
  .written [("T", .directory), ("T/repos", .directory), ("T/repos/a", .directory),
    ("T/repos/a/r", .directory), ("T/repos/a/r/old.typ", .file (Text.Utf8.bytes "old") false),
    ("T/repos/b", .directory), ("T/repos/b/s", .link (.ofString "nowhere")),
    ("f", .directory), ("f/x", .directory),
    ("f/x/main.typ", .file (Text.Utf8.bytes "= X") true),
    ("f/g", .link (.ofString "../h")), ("h", .file (Text.Utf8.bytes "H") false)]

theorem fetchAll_copies_nursery :
    let r : Rehearsal := { fixture := some (.ofString "f") }
    let layout : Layout := ⟨.ofString "T"⟩
    let root : Location := [Text.Utf8.bytes "T"]
    let repositories : List RepositoryRef := [⟨"a", "r", some "v1"⟩, ⟨"b", "s", some "v2"⟩,
      ⟨"a", "r", none⟩]
    ∃ w', fetchAll (r.toolchain.withFaults []) layout "h" repositories ⟨nursery, ⟨[], []⟩⟩ =
        .ok () w' ∧
      ∀ repository ∈ repositories,
        w'.files.stat? (layout.cloneDir repository) =
            .ok (Layout.clonePlace root repository, .directory) ∧
          r.Shows nursery w'.files (Layout.clonePlace root repository) ∧
          r.Shows w'.files w'.files (Layout.clonePlace root repository) := by
  intro r layout root repositories
  obtain ⟨_, w', h, -⟩ : ∃ u w',
      fetchAll (r.toolchain.withFaults []) layout "h" repositories ⟨nursery, ⟨[], []⟩⟩ =
        .ok u w' ∧ true = true := Disk.succeeds_iff.1 (by decide +kernel)
  have hfound : (nursery.prune (root ++ [Layout.reposName])).stat? (.ofString "f") =
      .ok ([Text.Utf8.bytes "f"], .directory) := by decide +kernel
  have haside : r.Aside root nursery := by
    rintro _ ⟨⟩
    have hrepos : nursery.isDirectory (root ++ [Layout.reposName]) = true := by decide +kernel
    exact (settled_of_prune hfound (by decide) (by decide) (by decide +kernel)).mono
      fun k => below_of_ahead hrepos
  have hauthors : ∀ repository ∈ repositories,
      nursery.at? (Layout.authorPlace root repository.author) = none ∨
        nursery.at? (Layout.authorPlace root repository.author) = some .directory := by
    decide +kernel
  have hroot : nursery.Straight layout.root := by decide +kernel
  have hplace : root = nursery.place layout.root := by decide +kernel
  exact ⟨w', h, (fetchAll_copies hroot hplace (Or.inr (by decide +kernel)) hauthors haside h).1⟩

/-- A link of what is cloned passes through the place of a clone, where a link stands. -/
def crossroads : FileSystem :=
  .written [("T", .directory), ("T/h", .file (Text.Utf8.bytes "new") false),
    ("T/repos", .directory), ("T/repos/a", .directory),
    ("T/repos/a/r", .link (.ofString "../../../other/x/y/z")),
    ("other", .directory), ("other/h", .file (Text.Utf8.bytes "old") false),
    ("other/x", .directory), ("other/x/y", .directory), ("other/x/y/z", .directory),
    ("f", .directory), ("f/main.typ", .file (Text.Utf8.bytes "= F") false),
    ("f/g", .link (.ofString "../T/repos/a/r/../../../h"))]

/-- **Two clones may differ, and one of them from what is cloned**, if a link of that passes through
    the place of a clone, though it leads outside. -/
theorem fetchAll_follows_crossroads :
    let r : Rehearsal := { fixture := some (.ofString "f") }
    let layout : Layout := ⟨.ofString "T"⟩
    let root : Location := [Text.Utf8.bytes "T"]
    let g : Name := Text.Utf8.bytes "g"
    crossroads.Straight layout.root ∧ root = crossroads.place layout.root ∧
      crossroads.at? (root ++ [Layout.reposName]) = some .directory ∧
      crossroads.at? (Layout.authorPlace root "a") = some .directory ∧
      crossroads.at? (Layout.authorPlace root "b") = none ∧
      (crossroads.children [Text.Utf8.bytes "f"]).map Prod.fst =
        [Text.Utf8.bytes "main.typ", g] ∧
      crossroads.stat? (.ofString "f/g") =
        .ok ([Text.Utf8.bytes "other", Text.Utf8.bytes "h"],
          .file (Text.Utf8.bytes "old") false) ∧
      ∃ w', fetchAll r.toolchain layout "h" [⟨"b", "r", none⟩, ⟨"a", "r", none⟩]
          ⟨crossroads, []⟩ = .ok () w' ∧
        w'.files.at? (Layout.clonePlace root ⟨"b", "r", none⟩ ++ [g]) =
          some (.file (Text.Utf8.bytes "old") false) ∧
        w'.files.at? (Layout.clonePlace root ⟨"a", "r", none⟩ ++ [g]) =
          some (.file (Text.Utf8.bytes "new") false) ∧
        ¬ r.Shows w'.files w'.files (Layout.clonePlace root ⟨"b", "r", none⟩) := by
  intro r layout root g
  refine ⟨by decide +kernel, by decide +kernel, by decide +kernel, by decide +kernel,
    by decide +kernel, by decide +kernel, by decide +kernel, ?_⟩
  have hfetched : Disk.succeeds (fun _ (w' : World (List ToolCall)) => decide
      (w'.files.at? (Layout.clonePlace root ⟨"b", "r", none⟩ ++ [g]) =
          some (.file (Text.Utf8.bytes "old") false) ∧
        w'.files.at? (Layout.clonePlace root ⟨"a", "r", none⟩ ++ [g]) =
          some (.file (Text.Utf8.bytes "new") false) ∧
        w'.files.stat? (.ofString "f") = .ok ([Text.Utf8.bytes "f"], .directory) ∧
        w'.files.at? [Text.Utf8.bytes "f", g] =
          some (.link (.ofString "../T/repos/a/r/../../../h")) ∧
        w'.files.stat? ((Path.ofString "f").under [g]) =
          .ok ([Text.Utf8.bytes "T", Text.Utf8.bytes "h"],
            .file (Text.Utf8.bytes "new") false)))
      (fetchAll r.toolchain layout "h" [⟨"b", "r", none⟩, ⟨"a", "r", none⟩]
        ⟨crossroads, []⟩) = true := by
    decide +kernel
  obtain ⟨_, w', h, hall⟩ := Disk.succeeds_iff.1 hfetched
  obtain ⟨hold, hnew, hroot, hlink, hleads⟩ := of_decide_eq_true hall
  refine ⟨w', h, hold, hnew, ?_⟩
  rintro ⟨loc, hstat, hcopy⟩
  cases hroot.symm.trans hstat
  have hg := hcopy [g]
  rw [hold, IsCopy, show w'.files.at? ([Text.Utf8.bytes "f"] ++ [g]) = _ from hlink] at hg
  obtain ⟨origin, content, executable, hstat', hcontent⟩ := hg
  cases hleads.symm.trans hstat'
  exact absurd hcontent (by decide)

end TemplatePress
