import TemplatePress.Proofs.Clones
import TemplatePress.Proofs.Discovery
import TemplatePress.Proofs.Independence

/-!
# Running once more

A run that follows another run of the same configuration comes to the same, and leaves every file as
it finds it. This file fixes:

* `fetchAll_renewed`, `fetchAll_listed`: what fetching repositories leaves of its start;
* `Mirrors`: at the places of clones the second fetching has what the first has, or still what it
  found; it is kept from repository to repository (`fetchAll_alike`);
* `fetchAll_behind`: fetching behind a run comes to the same, and changes nothing
  (`fetchAll_behind_at?`, `fetchAll_behind_children`);
* `buildFound_again`: so does what a run does then;
* `runPipeline_again`: and so does a whole run. `runPipeline_differs_again` shows a name over its
  limit, and a source of clones that is looked up inside the root.
-/

namespace TemplatePress

open FileSystem

/-! ## 1. Fetching once -/

/-- The places of the clones of repositories. -/
def ClonePlaces (repositories : List RepositoryRef) (root loc : Location) : Prop :=
  ∃ repository ∈ repositories, Below (Layout.clonePlace root repository) loc

/-- The names of the clones that an author's directory gets. -/
def clonesOf (repositories : List RepositoryRef) (author : String) : List Name :=
  (repositories.filter fun x => x.author = author).map fun x => Text.Utf8.bytes x.repo

/-- The fetches of repositories. -/
def fetches (host : String) (repositories : List RepositoryRef) : List Call :=
  repositories.map (Call.fetch host)

theorem below_authorPlace (root : Location) (author : String) :
    Below (root ++ [Layout.reposName]) (Layout.authorPlace root author) := by
  simp [Below, Layout.authorPlace]

theorem below_clonePlace (root : Location) (repository : RepositoryRef) :
    Below (root ++ [Layout.reposName]) (Layout.clonePlace root repository) := by
  simp [Below, Layout.clonePlace]

/-- No clone's place is the directory of an author or above it. -/
theorem not_clonePlace_author (root : Location) (repository : RepositoryRef) (author : String) :
    ¬ Below (Layout.clonePlace root repository) (Layout.authorPlace root author) := by
  intro h
  have := h.length_le
  simp [Layout.clonePlace, Layout.authorPlace] at this

/-- No directory of another author is above a clone's place. -/
theorem not_prefix_clonePlace (root : Location) {repository : RepositoryRef} {author : String}
    (h : repository.author ≠ author) :
    ¬ Layout.authorPlace root author <+: Layout.clonePlace root repository := by
  intro hup
  rw [Layout.authorPlace, Layout.clonePlace, List.prefix_append_right_inj] at hup
  have hname : Text.Utf8.bytes author = Text.Utf8.bytes repository.author := by simpa using hup
  exact h (bytes_injective hname).symm

section Fetching

variable {r : Rehearsal} {layout : Layout} {repositories : List RepositoryRef} {calls : List Call}
  {host : String} {repository : RepositoryRef} {start : FileSystem}
  {w w' : World (List ToolCall)}

theorem Renewed.guarded {fs : FileSystem} (hfree : start.LinkFree []) (hup : layout.root.NeverUp)
    (h : Renewed layout calls start fs) :
    Guarded layout (start.place layout.root) calls fs := by
  have hnolink : ∀ {loc : Location}, (∀ top, Touched calls (start.place layout.root) top →
      ¬ Below top loc) → ∀ target, fs.at? loc ≠ some (.link target) := by
    intro loc hloc target hat
    rcases h.at?_above hloc with heq | ⟨-, hdir⟩
    · rw [heq] at hat
      exact hfree loc List.nil_prefix target hat
    · rw [hdir] at hat
      cases hat
  refine ⟨h.straight_root (straight_of_linkFree hfree hup), (h.place_eq _).symm,
    hnolink ?_, fun _ repository _ _ => hnolink fun top htop => not_below_author htop _⟩
  rintro top ⟨call, -, htop⟩
  exact not_below_of_touches htop (Or.inr (Or.inl rfl))

section One

variable (hr : Repeatable r layout repositories start) (hmem : repository ∈ repositories)
  (hcall : Call.fetch host repository ∈ calls) (h : Renewed layout calls start w.files)

include hr hcall h

/-- A fetch touches the place of its clone, or changes nothing. -/
theorem Renewed.fetch_framed : Framed (Layout.clonePlace (start.place layout.root) repository)
    w.files (Disk.left (fetch r.toolchain layout host repository w)).files := by
  rcases act_framed (rehearses_toolchain r) hcall (h.guarded hr.free hr.neverUp) with
    ⟨top, ⟨-, rfl⟩, hf⟩ | heq
  · exact hf
  · rw [show Disk.left (fetch r.toolchain layout host repository w) = w from heq]
    exact Framed.refl _ _

/-- **A fetch renews the state**, whatever comes of it. -/
theorem Renewed.fetch : Renewed layout calls start
    (Disk.left (TemplatePress.fetch r.toolchain layout host repository w)).files := by
  by_cases hwell : repository.isWellFormed = true
  · refine h.of_framed ⟨_, hcall, hwell, rfl⟩ (h.fetch_framed hr hcall) ?_
    by_cases hstart : start.isDirectory (start.start layout.root) = true
    · exact Or.inl hstart
    · obtain ⟨e, he⟩ := fetch_nowhere host hr hwell hstart
      have hfiles := h.nowhere.resolve_left hstart
      obtain ⟨_, heq⟩ := he w hfiles
      rw [heq, hfiles]
      exact Or.inr rfl
  · rw [TemplatePress.fetch, if_neg hwell]
    exact h

include hmem in
theorem Renewed.fetch_alike_self :
    FetchedAlike (Layout.authorPlace (start.place layout.root) repository.author)
      (Text.Utf8.bytes repository.repo) w.files w.files
      (TemplatePress.fetch r.toolchain layout host repository w)
      (TemplatePress.fetch r.toolchain layout host repository w) :=
  fetch_alike hr hmem hcall h h

end One

variable (hr : Repeatable r layout repositories start)
  (hcalls : ∀ repository ∈ repositories, Call.fetch host repository ∈ calls)

include hr hcalls

/-- **Fetching repositories renews the state**: no link is new, and only the places of the clones
    and directories above them are touched. -/
theorem fetchAll_renewed {rest : List RepositoryRef} (hrest : ∀ x ∈ rest, x ∈ repositories)
    (h : Renewed layout calls start w.files) :
    Renewed layout calls start (Disk.left (fetchAll r.toolchain layout host rest w)).files ∧
      (w.files.LinkFree [] →
        (Disk.left (fetchAll r.toolchain layout host rest w)).files.LinkFree []) ∧
      FramedBy (fun top => ∃ x ∈ rest, top = Layout.clonePlace (start.place layout.root) x) w.files
        (Disk.left (fetchAll r.toolchain layout host rest w)).files := by
  induction rest generalizing w with
  | nil => exact ⟨h, id, FramedBy.refl _ _⟩
  | cons x rest ih =>
    have hx := hrest x List.mem_cons_self
    have hleft := h.fetch hr (hcalls x hx)
    have hframed : FramedBy
        (fun top => ∃ y ∈ x :: rest, top = Layout.clonePlace (start.place layout.root) y) w.files
        (Disk.left (fetch r.toolchain layout host x w)).files :=
      (h.fetch_framed hr (hcalls x hx)).framedBy ⟨x, List.mem_cons_self, rfl⟩
    have hlink : w.files.LinkFree [] →
        (Disk.left (fetch r.toolchain layout host x w)).files.LinkFree [] :=
      fun hfree loc hloc target hat =>
        hfree loc hloc target ((h.fetch_alike_self hr hx (hcalls x hx)).link hat)
    unfold fetchAll
    cases hf : fetch r.toolchain layout host x w with
    | error e w₁ =>
      rw [hf] at hleft hframed hlink
      exact ⟨hleft, hlink, hframed⟩
    | ok clone w₁ =>
      rw [hf] at hleft hframed hlink
      obtain ⟨hleft', hlink', hframed'⟩ := ih (fun y hy => hrest y (List.mem_cons_of_mem _ hy)) hleft
      refine ⟨hleft', fun hfree => hlink' (hlink hfree), hframed.trans (hframed'.mono ?_)⟩
      rintro top ⟨y, hy, htop⟩
      exact ⟨y, List.mem_cons_of_mem _ hy, htop⟩

/-- A directory of an author that stands keeps standing. -/
theorem fetchAll_author {rest : List RepositoryRef} (hrest : ∀ x ∈ rest, x ∈ repositories)
    (h : Renewed layout calls start w.files) {author : String}
    (hdir : w.files.isDirectory (Layout.authorPlace (start.place layout.root) author) = true) :
    (Disk.left (fetchAll r.toolchain layout host rest w)).files.isDirectory
      (Layout.authorPlace (start.place layout.root) author) = true := by
  obtain ⟨-, -, hframed⟩ := fetchAll_renewed hr hcalls hrest h
  rcases hframed.entry (Layout.authorPlace (start.place layout.root) author) with
    ⟨top, ⟨x, -, rfl⟩, hin⟩ | heq | ⟨-, -, -, hnone, -⟩
  · exact absurd hin (not_clonePlace_author _ x author)
  · rwa [isDirectory, heq, ← isDirectory]
  · rw [isDirectory_iff.1 hdir] at hnone
    cases hnone

/-- **After all repositories are fetched an author's directory lists the clones last**, in the order
    in which they were made. -/
theorem fetchAll_listed {rest : List RepositoryRef} (hrest : ∀ x ∈ rest, x ∈ repositories)
    (h : Renewed layout calls start w.files) {u : Unit} {w' : World (List ToolCall)}
    (hok : fetchAll r.toolchain layout host rest w = .ok u w') (author : String) :
    w'.files.children (Layout.authorPlace (start.place layout.root) author) =
      relistAll (clonesOf rest author)
        (w.files.children (Layout.authorPlace (start.place layout.root) author)) := by
  induction rest generalizing w with
  | nil =>
    cases hok
    rfl
  | cons x rest ih =>
    have hx := hrest x List.mem_cons_self
    have hleft := h.fetch hr (hcalls x hx)
    have hframed := h.fetch_framed hr (hcalls x hx)
    have halike := h.fetch_alike_self hr hx (hcalls x hx)
    unfold fetchAll at hok
    cases hf : fetch r.toolchain layout host x w with
    | error e w₁ =>
      rw [hf] at hok
      cases hok
    | ok clone w₁ =>
      rw [hf, Disk.left_ok] at hleft hframed
      rw [hf] at hok halike
      rw [ih (fun y hy => hrest y (List.mem_cons_of_mem _ hy)) hleft hok]
      by_cases hauthor : x.author = author
      · subst hauthor
        have hclones : clonesOf (x :: rest) x.author =
            Text.Utf8.bytes x.repo :: clonesOf rest x.author := by simp [clonesOf]
        rw [hclones, halike.remade_of_ok.listed]
        rfl
      · have hclones : clonesOf (x :: rest) author = clonesOf rest author := by
          simp [clonesOf, hauthor]
        rw [hclones, hframed.listing _ (not_clonePlace_author _ x author)
          (not_prefix_clonePlace _ hauthor)]

end Fetching

/-! ## 2. Fetching once more -/

namespace FileSystem

variable {loc : Location} {fs fs' fs'' : FileSystem}

theorem SameAt.refl (loc : Location) (fs : FileSystem) : SameAt loc fs fs :=
  ⟨rfl, rfl⟩

theorem SameAt.trans (h : SameAt loc fs fs') (h' : SameAt loc fs' fs'') : SameAt loc fs fs'' :=
  ⟨h'.1.trans h.1, h'.2.trans h.2⟩

theorem SameAt.symm (h : SameAt loc fs fs') : SameAt loc fs' fs :=
  ⟨h.1.symm, h.2.symm⟩

end FileSystem

/-- At the places of clones a state has what another has, or still what it had before. -/
def Mirrors (root : Location) (before fs fs' : FileSystem) : Prop :=
  ∀ repository loc, Below (Layout.clonePlace root repository) loc →
    SameAt loc fs fs' ∨ SameAt loc before fs'

/-- What happens at the place of one clone leaves those of the others as they are. -/
theorem sameAt_of_framed {root loc : Location} {repository other : RepositoryRef}
    {fs fs' : FileSystem} (h : Framed (Layout.clonePlace root repository) fs fs')
    (hother : Below (Layout.clonePlace root other) loc)
    (hloc : ¬ Below (Layout.clonePlace root repository) loc) : SameAt loc fs fs' := by
  have hup : ¬ loc <+: Layout.clonePlace root repository := by
    intro hup
    have hlen : (Layout.clonePlace root other).length =
        (Layout.clonePlace root repository).length := by simp [Layout.clonePlace]
    have heq := (hother.trans hup).eq_of_length hlen
    exact hloc (heq ▸ hother)
  exact ⟨(h.entry loc hloc).resolve_right fun hnew => hup hnew.1, h.listing loc hloc hup⟩

section Again

variable {r : Rehearsal} {layout : Layout} {repositories : List RepositoryRef} {calls : List Call}
  {host : String} {start before : FileSystem} {w w' : World (List ToolCall)}
  (hr : Repeatable r layout repositories start)
  (hcalls : ∀ repository ∈ repositories, Call.fetch host repository ∈ calls)

include hr hcalls

/-- One more repository is fetched in both. -/
theorem Mirrors.fetch {x : RepositoryRef} (hx : x ∈ repositories)
    (h : Renewed layout calls start w.files) (h' : Renewed layout calls start w'.files)
    (hm : Mirrors (start.place layout.root) before w.files w'.files) :
    Mirrors (start.place layout.root) before
      (Disk.left (TemplatePress.fetch r.toolchain layout host x w)).files
      (Disk.left (TemplatePress.fetch r.toolchain layout host x w')).files := by
  intro other loc hloc
  by_cases hin : Below (Layout.clonePlace (start.place layout.root) x) loc
  · have hin' := hin
    rw [Layout.clonePlace_eq] at hin'
    rcases (fetch_alike hr hx (hcalls x hx) h h').same hin' with hsame | ⟨heq, heq'⟩
    · exact Or.inl hsame
    · rw [heq, heq']
      exact hm other loc hloc
  · have hkept := sameAt_of_framed (h.fetch_framed hr (hcalls x hx)) hloc hin
    have hkept' := sameAt_of_framed (h'.fetch_framed hr (hcalls x hx)) hloc hin
    exact (hm other loc hloc).imp (fun hsame => (hkept.symm.trans hsame).trans hkept')
      fun hsame => hsame.trans hkept'

/-- **Fetching comes to the same in two renewed states**, mirrors there, and changes nothing but the
    places of the clones, where the authors' directories stand that it leaves in the first state. -/
theorem fetchAll_alike {rest : List RepositoryRef} (hrest : ∀ x ∈ rest, x ∈ repositories)
    (h : Renewed layout calls start w.files) (h' : Renewed layout calls start w'.files)
    (hm : Mirrors (start.place layout.root) before w.files w'.files)
    (hstand : ∀ author, (Disk.left (fetchAll r.toolchain layout host rest w)).files.isDirectory
        (Layout.authorPlace (start.place layout.root) author) = true →
      w'.files.isDirectory (Layout.authorPlace (start.place layout.root) author) = true) :
    Disk.outcome (fetchAll r.toolchain layout host rest w') =
        Disk.outcome (fetchAll r.toolchain layout host rest w) ∧
      Mirrors (start.place layout.root) before
        (Disk.left (fetchAll r.toolchain layout host rest w)).files
        (Disk.left (fetchAll r.toolchain layout host rest w')).files ∧
      FileSystem.Kept (ClonePlaces rest (start.place layout.root)) w'.files
        (Disk.left (fetchAll r.toolchain layout host rest w')).files := by
  induction rest generalizing w w' with
  | nil => exact ⟨rfl, hm, FileSystem.Kept.refl _ _⟩
  | cons x rest ih =>
    have hx := hrest x List.mem_cons_self
    have hrest' : ∀ y ∈ rest, y ∈ repositories := fun y hy => hrest y (List.mem_cons_of_mem _ hy)
    have halike := fetch_alike hr hx (hcalls x hx) h h'
    have hleft := h.fetch hr (hcalls x hx)
    have hleft' := h'.fetch hr (hcalls x hx)
    have hmirrors := hm.fetch hr hcalls hx h h'
    -- the author's directory stands in the second state, if it is left standing in the first
    have hauthor : (Disk.left (fetch r.toolchain layout host x w)).files.isDirectory
          (Layout.authorPlace (start.place layout.root) x.author) = true →
        w'.files.isDirectory (Layout.authorPlace (start.place layout.root) x.author) = true := by
      intro hdir
      refine hstand x.author ?_
      unfold fetchAll
      cases hf : fetch r.toolchain layout host x w <;> rw [hf] at hdir hleft
      · exact fetchAll_author hr hcalls hrest' hleft hdir
      · exact hdir
    have hkept : FileSystem.Kept (ClonePlaces (x :: rest) (start.place layout.root)) w'.files
        (Disk.left (fetch r.toolchain layout host x w')).files := by
      refine (halike.kept hauthor).mono fun loc hloc => ⟨x, List.mem_cons_self, ?_⟩
      rwa [Layout.clonePlace_eq]
    have hstays : ∀ author, w'.files.isDirectory
          (Layout.authorPlace (start.place layout.root) author) = true →
        (Disk.left (fetch r.toolchain layout host x w')).files.isDirectory
          (Layout.authorPlace (start.place layout.root) author) = true := fun author =>
      (h'.fetch_framed hr (hcalls x hx)).isDirectory (not_clonePlace_author _ x author)
    have houtcome := halike.outcome
    unfold fetchAll at hstand ⊢
    cases hf : fetch r.toolchain layout host x w with
    | error e w₁ =>
      rw [hf] at houtcome hmirrors
      obtain ⟨w₁', hf'⟩ := Disk.outcome_eq_error.1 houtcome
      rw [hf'] at hmirrors hkept ⊢
      exact ⟨rfl, hmirrors, hkept⟩
    | ok clone w₁ =>
      rw [hf] at houtcome hmirrors hleft hstand
      obtain ⟨w₁', hf'⟩ := Disk.outcome_eq_ok.1 houtcome
      rw [hf'] at hmirrors hleft' hkept hstays ⊢
      obtain ⟨houtcome, hmirrors', hkept'⟩ := ih hrest' hleft hleft' hmirrors fun author hdir =>
        hstays author (hstand author hdir)
      refine ⟨houtcome, hmirrors', hkept.trans (hkept'.mono ?_)⟩
      rintro loc ⟨y, hy, hloc⟩
      exact ⟨y, List.mem_cons_of_mem _ hy, hloc⟩

section Behind

variable (h : Renewed layout calls start w.files) (h' : Renewed layout calls start w'.files)
  (hrepos : ∀ loc, Below (start.place layout.root ++ [Layout.reposName]) loc →
    SameAt loc (Disk.left (fetchAll r.toolchain layout host repositories w)).files w'.files)

include h h' hrepos

/-- Where the run left the directory of all clones as it was after fetching, fetching behind it comes
    to the same, and leaves the places of the clones as they are. -/
theorem fetchAll_behind :
    Disk.outcome (fetchAll r.toolchain layout host repositories w') =
        Disk.outcome (fetchAll r.toolchain layout host repositories w) ∧
      (∀ repository loc, Below (Layout.clonePlace (start.place layout.root) repository) loc →
        SameAt loc w'.files
          (Disk.left (fetchAll r.toolchain layout host repositories w')).files) ∧
      FileSystem.Kept (ClonePlaces repositories (start.place layout.root)) w'.files
        (Disk.left (fetchAll r.toolchain layout host repositories w')).files := by
  obtain ⟨houtcome, hmirrors, hkept⟩ := fetchAll_alike hr hcalls (fun _ => id) h h'
    (fun _ loc _ => Or.inr (SameAt.refl loc w'.files)) fun author hdir => by
      rwa [isDirectory, (hrepos _ (below_authorPlace _ author)).1, ← isDirectory]
  refine ⟨houtcome, fun repository loc hloc => ?_, hkept⟩
  rcases hmirrors repository loc hloc with hsame | hsame
  · -- the files are those of the run, which stand there already
    exact (hrepos loc ((below_clonePlace _ repository).trans hloc)).symm.trans hsame
  · exact hsame

/-- **Fetching behind a run changes no file.** -/
theorem fetchAll_behind_at? (loc : Location) :
    (Disk.left (fetchAll r.toolchain layout host repositories w')).files.at? loc =
      w'.files.at? loc := by
  obtain ⟨-, hplaces, hkept⟩ := fetchAll_behind hr hcalls h h' hrepos
  by_cases hloc : ClonePlaces repositories (start.place layout.root) loc
  · obtain ⟨repository, -, hloc⟩ := hloc
    exact (hplaces repository loc hloc).1
  · exact hkept.outside.entry loc hloc

/-- **If all is fetched, every directory lists what it listed, in its order.** -/
theorem fetchAll_behind_children {u : Unit} {w₁ : World (List ToolCall)}
    (hok : fetchAll r.toolchain layout host repositories w' = .ok u w₁) (dir : Location) :
    w₁.files.children dir = w'.files.children dir := by
  obtain ⟨houtcome, hplaces, hkept⟩ := fetchAll_behind hr hcalls h h' hrepos
  rw [hok] at hplaces hkept houtcome
  by_cases hin : ∃ repository, Below (Layout.clonePlace (start.place layout.root) repository) dir
  · obtain ⟨repository, hin⟩ := hin
    exact (hplaces repository dir hin).2
  · by_cases hdir : ∃ author, dir = Layout.authorPlace (start.place layout.root) author
    · -- the clones were listed last already
      obtain ⟨author, rfl⟩ := hdir
      have hlisted := (hrepos _ (below_authorPlace _ author)).2
      obtain ⟨w₂, hfirst⟩ := Disk.outcome_eq_ok.1 houtcome.symm
      rw [hfirst, Disk.left_ok, fetchAll_listed hr hcalls (fun _ => id) h hfirst] at hlisted
      rw [fetchAll_listed hr hcalls (fun _ => id) h' hok, hlisted, relistAll_relistAll]
    · refine hkept.listing dir fun n hn => ?_
      obtain ⟨repository, -, hn⟩ := hn
      rcases List.prefix_concat_iff.1 hn with heq | hn
      · rw [Layout.clonePlace_eq] at heq
        exact hdir ⟨repository.author, (List.append_inj_left' heq rfl).symm⟩
      · exact hin ⟨repository, hn⟩

end Behind

end Again

/-! ## 3. What a search finds in the clones -/

section Search

variable {layout : Layout} {options : PackageOptions} {folders : List TemplateFolder}
  {entryPoint : String} {fs fs' : FileSystem}

theorem place_reposDir (fs : FileSystem) (layout : Layout) :
    fs.place layout.reposDir = fs.place layout.root ++ [Layout.reposName] :=
  place_join fs layout.root (by decide)

theorem straight_reposDir (layout : Layout) (hfree : fs.LinkFree [])
    (hup : layout.root.NeverUp) :
    fs.Straight layout.reposDir :=
  straight_of_linkFree hfree ((Path.neverUp_join_name layout.root (by decide)).2 hup)

/-- **A search finds the same wherever the tree that it searches is the same**, and its way. -/
theorem discover_congr {p : Path} (hs : fs.Straight p) (hfree : fs.LinkFree (fs.place p))
    (hhome : fs'.home = fs.home) (hway : ∀ loc, loc <+: fs.place p → fs'.at? loc = fs.at? loc)
    (hsame : ∀ loc, Below (fs.place p) loc → SameAt loc fs fs') (entryPoint : String) :
    discover fs' p entryPoint = discover fs p entryPoint := by
  refine Discovery.visitLevels_congr fun ns hns => ?_
  obtain ⟨hs', hplace, hnames⟩ := hs.under hfree hns
  have hstart : ∀ ms, ms <+: (p.under ns).names →
      fs'.at? (fs.start (p.under ns) ++ ms) = fs.at? (fs.start (p.under ns) ++ ms) := by
    intro ms hms
    have hin : fs.start (p.under ns) ++ ms <+: fs.place p ++ ns := by
      rw [← hplace]
      exact (List.prefix_append_right_inj _).2 hms
    rcases List.prefix_or_prefix_of_prefix hin (List.prefix_append _ _) with hup | hbelow
    · exact hway _ hup
    · exact (hsame _ hbelow).1
  have hstat := stat?_congr hs' hhome hstart
  unfold readDirectory
  rw [hstat]
  cases hst : fs.stat? (p.under ns) with
  | error e => rfl
  | ok found =>
    obtain ⟨loc, e⟩ := found
    cases e with
    | file _ _ => rfl
    | link _ => rfl
    | directory =>
      have hloc : Below (fs.place p) loc := by
        rw [(place_of_leads hs' (leads_of_stat? hst)).1, hplace]
        exact List.prefix_append _ _
      simp only [(hsame loc hloc).2]

/-- No package's place is in the directory of all clones. -/
theorem not_packagePlaces_repos {root loc : Location}
    (h : Below (root ++ [Layout.reposName]) loc) : ¬ PackagePlaces folders root loc := by
  rintro ⟨folder, -, name, hb, hloc⟩
  have htop : (Call.generate {} folder).Touches root (Layout.packagePlace root name) :=
    ⟨name, hb, rfl⟩
  exact (repos_apart htop h).1 hloc

section Found

variable (hfree : fs.LinkFree []) (hup : layout.root.NeverUp)
  (h : discover fs layout.reposDir entryPoint = .ok folders)

include hfree hup h

/-- A search that comes to its end shows that the root stands. -/
theorem isDirectory_of_discover : fs.isDirectory (fs.place layout.root) = true := by
  obtain ⟨entries, hread⟩ := Discovery.exists_readDirectory_of_visitLevels h
  obtain ⟨loc, hstat, -⟩ := readDirectory_eq_ok hread
  have hl := leads_of_stat? hstat
  obtain rfl := (place_of_leads (straight_reposDir layout hfree hup) hl).1
  have hdir := hl.isDirectory
  rw [place_reposDir] at hdir
  exact isDirectory_of_append _ hdir

/-- **What is found is a source without links, in the directory of all clones.** -/
theorem settled_of_discover {folder : TemplateFolder} (hmem : folder ∈ folders) :
    Settled fs (PackagePlaces folders (fs.place layout.root)) folder.path ∧
      ∃ loc, fs.stat? folder.path = .ok (loc, .directory) := by
  obtain ⟨ns, hns, rfl, entries, hread, -⟩ := Discovery.visitLevels_sound h hmem
  have hs := straight_reposDir layout hfree hup
  obtain ⟨hs', hplace, hnames⟩ := hs.under (hfree.below _) hns
  obtain ⟨loc, hstat, -⟩ := readDirectory_eq_ok hread
  rw [place_reposDir] at hplace
  refine ⟨settled_of_straight hs' (hfree.below _) (fun ms hms => ?_) fun ms => ?_, loc, hstat⟩
  · have hin : fs.start (layout.reposDir.under ns) ++ ms <+:
        fs.place layout.root ++ [Layout.reposName] ++ ns := by
      rw [← hplace]
      exact (List.prefix_append_right_inj _).2 hms
    rcases List.prefix_or_prefix_of_prefix hin (List.prefix_append _ _) with hup | hbelow
    · rcases List.prefix_concat_iff.1 hup with heq | hup
      · rw [heq]
        exact not_packagePlaces_repos List.prefix_rfl
      · exact not_packagePlaces_root hup
    · exact not_packagePlaces_repos hbelow
  · rw [hplace, List.append_assoc]
    exact not_packagePlaces_repos (List.prefix_append _ _)

omit hfree hup in
/-- The entry document of what is found is a name. -/
theorem isOrdinary_of_discover (hne : folders ≠ []) :
    Name.isOrdinary (Path.ofString entryPoint).bytes = true := by
  obtain ⟨folder, hmem⟩ := List.exists_mem_of_ne_nil folders hne
  obtain ⟨ns, -, -, entries, hread, e, hentry, -⟩ := Discovery.visitLevels_sound h hmem
  obtain ⟨loc, -, rfl⟩ := readDirectory_eq_ok hread
  exact isOrdinary_of_mem_children hentry

/-- **Nothing that is built of what is found reads the place of a package**, whatever builds do. -/
theorem secluded_of_discover (hentry : options.entryPoint = entryPoint)
    (hs : Standing layout (builds options folders) fs fs') :
    Secluded layout options folders (fs.place layout.root) fs' := by
  refine hs.secluded (straight_of_linkFree hfree hup) (isDirectory_of_discover hfree hup h)
    (fun folder => settled_of_discover hfree hup h)
    (apart_referenceMetadata (straight_referenceMetadata hfree hup)) fun hne => ?_
  have hn := isOrdinary_of_discover h hne
  rw [hentry]
  exact ⟨Path.isAbsolute_name hn, by simp [Path.NeverUp, Path.steps_name hn]⟩

end Found

end Search

/-! ## 4. Building once more -/

section Standing

variable {layout : Layout} {calls : List Call} {start fs fs' : FileSystem}

theorem Renewed.standing (h : Renewed layout calls start fs)
    (hroot : start.isDirectory (start.place layout.root) = true) :
    Standing layout calls start fs := by
  have habove : ∀ top, Touched calls (start.place layout.root) top →
      ¬ Below top (start.place layout.root) := fun _ => not_below_root
  refine ⟨h, isDirectory_iff.2 ?_⟩
  rcases h.at?_above habove with heq | ⟨-, hdir⟩
  · exact heq.trans (isDirectory_iff.1 hroot)
  · exact hdir

/-- A state with the same files everywhere, listed alike, is as good. -/
theorem Standing.of_same (h : Standing layout calls start fs) (hhome : fs'.home = fs.home)
    (hsame : ∀ loc, SameAt loc fs fs')
    (hroot : start.isDirectory (start.start layout.root) = true) :
    Standing layout calls start fs' := by
  refine ⟨⟨⟨hhome.trans h.renewed.framed.home, fun loc => ?_⟩, fun dir hdir hapart => ?_,
    Or.inl hroot⟩, ?_⟩
  · rw [(hsame loc).1]
    exact h.renewed.framed.entry loc
  · rw [(hsame dir).2, h.renewed.listing dir hdir hapart]
  · rw [isDirectory, (hsame _).1, ← isDirectory]
    exact h.root

end Standing

section Build

variable {r : Rehearsal} {ω : Type} {writer : Writer ω} (hw : writer.Accepts) {layout : Layout}
  {options : PackageOptions} {keepGoing : Bool} {folders : List TemplateFolder}
  {run again : Run (List ToolCall) ω}
  (hs : run.world.files.Straight layout.root)
  (hroot : run.world.files.isDirectory (run.world.files.place layout.root) = true)
  (hsecluded : ∀ fs, Standing layout (builds options folders) run.world.files fs →
    Secluded layout options folders (run.world.files.place layout.root) fs)

/-- The same builds once more leave a package as they left it before. -/
theorem Followed.once_more {w₀ : World (List ToolCall)} {init init' : FileSystem}
    {taken : List TemplateFolder} {fs fs' : FileSystem} {name : Name} {loc : Location}
    (h : Followed r layout options w₀ init taken fs)
    (h' : Followed r layout options w₀ init' taken fs') (hinit : init'.at? loc = fs.at? loc)
    (hres : name ≠ Text.Utf8.bytes Layout.referencePackage)
    (hloc : Below (Layout.packagePlace (w₀.files.place layout.root) name) loc) :
    fs'.at? loc = init'.at? loc := by
  by_cases hprep : Prepares layout w₀.files name
  · cases hlast : lastOf taken name with
    | none => exact h'.kept name hres (fun _ => hlast) loc hloc
    | some folder =>
      rw [hinit, h.last name folder hres hprep hlast loc hloc,
        h'.last name folder hres hprep hlast loc hloc]
  · exact h'.kept name hres (fun hyes => absurd hyes hprep) loc hloc

include hw hs hroot hsecluded

variable (keepGoing) in
/-- A run of builds leaves its start renewed. -/
theorem generateAll_standing : Standing layout (builds options folders) run.world.files
    (Disk.left (generateAll r.toolchain writer layout options keepGoing folders run)).world.files := by
  have hbegin : Between r layout options folders run.world run.world.files [] run.world.files :=
    ⟨Renewed.refl _ _ _, Followed.refl _⟩
  obtain ⟨taken, -, -, hend⟩ :=
    buildOnto_followed hs hsecluded hw keepGoing (fun _ => id) {} run hbegin
  exact hend.renewed.standing hroot

/-- **Building behind a run comes to the same as in it, and changes nothing.** -/
theorem generateAll_again (hhome : again.world.files.home = run.world.files.home)
    (hagain : ∀ loc, SameAt loc
      (Disk.left (generateAll r.toolchain writer layout options keepGoing folders run)).world.files
      again.world.files) :
    Disk.outcome (generateAll r.toolchain writer layout options keepGoing folders again) =
        Disk.outcome (generateAll r.toolchain writer layout options keepGoing folders run) ∧
      (∃ lines, (Disk.left (generateAll r.toolchain writer layout options keepGoing folders
          run)).output.accepted = run.output.accepted ++ lines ∧
        (Disk.left (generateAll r.toolchain writer layout options keepGoing folders
          again)).output.accepted = again.output.accepted ++ lines) ∧
      SameOutside (fun _ => False) again.world.files
        (Disk.left (generateAll r.toolchain writer layout options keepGoing folders
          again)).world.files := by
  have hstand := generateAll_standing (r := r) hw keepGoing hs hroot hsecluded
  have hrunhome := hstand.renewed.framed.home
  have hstart := isDirectory_of_append layout.root.names hroot
  have hagainstand := hstand.of_same (hhome.trans hrunhome.symm) hagain hstart
  have hbegin : Between r layout options folders run.world run.world.files [] run.world.files :=
    ⟨Renewed.refl _ _ _, Followed.refl _⟩
  have hbegin' : Between r layout options folders run.world again.world.files []
      again.world.files := ⟨hagainstand.renewed, Followed.refl _⟩
  obtain ⟨taken, htally, hout, hend⟩ :=
    buildOnto_followed hs hsecluded hw keepGoing (fun _ => id) {} run hbegin
  obtain ⟨taken', htally', hout', hend'⟩ :=
    buildOnto_followed hs hsecluded hw keepGoing (fun _ => id) {} again hbegin'
  obtain ⟨houtcome, rfl⟩ := Prod.mk.inj (htally.symm.trans htally')
  refine ⟨houtcome.symm, ⟨_, hout, hout'⟩, ?_⟩
  have houtside := hagainstand.outside (hend'.renewed.standing hroot)
  refine ⟨houtside.home, fun loc _ => ?_⟩
  by_cases hloc : PackagePlaces folders (run.world.files.place layout.root) loc
  · obtain ⟨folder, -, name, hb, hloc⟩ := hloc
    exact hend.followed.once_more hend'.followed (hagain loc).1 hb.2 hloc
  · exact houtside.entry loc hloc

end Build

/-! ## 5. Running once more -/

/-- A run comes no further than to a repository that is not fetched. -/
theorem runPipeline_unfetched {σ ω : Type} (tools : Toolchain σ) (writer : Writer ω) {config : Config}
    {repository : RepositoryRef} {rest : List RepositoryRef}
    (hfirst : config.repositories = repository :: rest) {run : Run σ ω} {e : FetchError}
    {world : World σ}
    (h : fetch tools ⟨config.templatesRoot⟩ config.host repository run.world = .error e world) :
    runPipeline tools writer config run = .error (.fetch e) { run with world } := by
  rw [runPipeline_eq, hfirst]
  simp only [fetchAll, h]

/-- Builds leave the clones as they are. -/
theorem Renewed.sameAt_repos {layout : Layout} {options : PackageOptions}
    {folders : List TemplateFolder} {start fs : FileSystem}
    (h : Renewed layout (builds options folders) start fs) {loc : Location}
    (hloc : Below (start.place layout.root ++ [Layout.reposName]) loc) : SameAt loc start fs := by
  have hapart : ∀ top, Touched (builds options folders) (start.place layout.root) top →
      ¬ Below top loc ∧ ¬ loc <+: top := by
    intro top htop
    obtain ⟨call, hcall, htop⟩ := htop
    obtain ⟨folder, -, rfl⟩ := List.mem_map.1 hcall
    exact repos_apart htop hloc
  refine ⟨?_, h.listing loc (fun hup => ?_) hapart⟩
  · rcases h.framed.entry loc with ⟨top, htop, hin⟩ | heq | ⟨top, htop, hup, -⟩
    · exact absurd hin (hapart top htop).1
    · exact heq
    · exact absurd hup (hapart top htop).2
  · have hlen := (hloc.trans hup).length_le
    simp only [List.length_append, List.length_singleton] at hlen
    omega

section Run

variable {r : Rehearsal} {ω : Type} {writer : Writer ω} (hw : writer.Accepts) {config : Config}
  {run again : Run (List ToolCall) ω}

include hw

variable (config run) in
/-- Nothing but packages comes and goes once all repositories are fetched. -/
theorem buildFound_renewed (hfree : run.world.files.LinkFree [])
    (hup : config.templatesRoot.NeverUp) :
    ∃ folders, Renewed ⟨config.templatesRoot⟩ (builds config.packageOptions folders) run.world.files
      (Disk.left (buildFound r.toolchain writer config run)).world.files := by
  unfold buildFound
  cases hd : discover run.world.files (Layout.reposDir ⟨config.templatesRoot⟩) config.entryPoint with
  | error e => exact ⟨[], Renewed.refl _ _ _⟩
  | ok folders =>
    exact ⟨folders, (generateAll_standing hw _ (straight_of_linkFree hfree hup)
      (isDirectory_of_discover hfree hup hd)
      fun fs => secluded_of_discover hfree hup hd rfl).renewed⟩

variable (config run again) in
/-- **Searching and building behind a run comes to the same as in it, and changes nothing.** -/
theorem buildFound_again (hfree : run.world.files.LinkFree [])
    (hup : config.templatesRoot.NeverUp) (hhome : again.world.files.home = run.world.files.home)
    (hagain : ∀ loc, SameAt loc (Disk.left (buildFound r.toolchain writer config run)).world.files
      again.world.files) :
    Disk.outcome (buildFound r.toolchain writer config again) =
        Disk.outcome (buildFound r.toolchain writer config run) ∧
      (∃ lines, (Disk.left (buildFound r.toolchain writer config run)).output.accepted =
          run.output.accepted ++ lines ∧
        (Disk.left (buildFound r.toolchain writer config again)).output.accepted =
          again.output.accepted ++ lines) ∧
      SameOutside (fun _ => False) again.world.files
        (Disk.left (buildFound r.toolchain writer config again)).world.files := by
  have hs := straight_reposDir ⟨config.templatesRoot⟩ hfree hup
  unfold buildFound at hagain ⊢
  cases hd : discover run.world.files (Layout.reposDir ⟨config.templatesRoot⟩) config.entryPoint with
  | error e =>
    rw [hd] at hagain
    rw [discover_congr hs (hfree.below _) hhome (fun loc _ => (hagain loc).1)
      (fun loc _ => hagain loc), hd]
    exact ⟨rfl, ⟨[], (List.append_nil _).symm, (List.append_nil _).symm⟩, SameOutside.refl _ _⟩
  | ok folders =>
    have hroot := isDirectory_of_discover hfree hup hd
    have hs' := straight_of_linkFree hfree hup
    have hsecluded : ∀ fs, Standing _ (builds config.packageOptions folders) _ fs → _ :=
      fun fs => secluded_of_discover hfree hup hd rfl
    have hstand := generateAll_standing (r := r) hw config.keepGoing hs' hroot hsecluded
    rw [hd] at hagain
    -- the search reads the clones and what is above them, where builds change nothing
    have hway : ∀ loc, loc <+: run.world.files.place (Layout.reposDir ⟨config.templatesRoot⟩) →
        again.world.files.at? loc = run.world.files.at? loc := by
      intro loc hloc
      rw [(hagain loc).1]
      rw [place_reposDir, List.prefix_concat_iff] at hloc
      rcases hloc with rfl | hloc
      · exact (hstand.renewed.sameAt_repos List.prefix_rfl).1
      · exact (((Renewed.refl _ _ _).standing hroot).outside hstand).entry loc
          (not_packagePlaces_root hloc)
    have hbelow : ∀ loc, Below (run.world.files.place (Layout.reposDir ⟨config.templatesRoot⟩)) loc →
        SameAt loc run.world.files again.world.files := by
      intro loc hloc
      rw [place_reposDir] at hloc
      exact (hstand.renewed.sameAt_repos hloc).trans (hagain loc)
    rw [discover_congr hs (hfree.below _) hhome hway hbelow, hd]
    exact generateAll_again hw hs' hroot hsecluded hhome hagain

/-- Behind the fetching a run changes packages only. -/
theorem runPipeline_builds
    (h : Repeatable r ⟨config.templatesRoot⟩ config.repositories run.world.files) :
    ∃ folders, Renewed ⟨config.templatesRoot⟩ (builds config.packageOptions folders)
      (Disk.left (fetchAll r.toolchain ⟨config.templatesRoot⟩ config.host config.repositories
        run.world)).files
      (Disk.left (runPipeline r.toolchain writer config run)).world.files := by
  have hcalls : ∀ x ∈ config.repositories,
      Call.fetch config.host x ∈ fetches config.host config.repositories :=
    fun x hx => List.mem_map_of_mem hx
  obtain ⟨-, hfree, -⟩ := fetchAll_renewed h hcalls (fun _ => id) (Renewed.refl _ _ _)
  rw [runPipeline_eq]
  cases hf : fetchAll r.toolchain ⟨config.templatesRoot⟩ config.host config.repositories run.world with
  | error e w₁ => exact ⟨[], Renewed.refl _ _ _⟩
  | ok _ w₁ =>
    rw [hf] at hfree
    exact buildFound_renewed hw config { run with world := w₁ } (hfree h.free) h.neverUp

/-- **A run that follows another comes to the same, writes the same, and changes nothing**, whatever
    the first came to. -/
theorem runPipeline_again
    (h : Repeatable r ⟨config.templatesRoot⟩ config.repositories run.world.files)
    (hagain : again.world.files =
      (Disk.left (runPipeline r.toolchain writer config run)).world.files) :
    Disk.outcome (runPipeline r.toolchain writer config again) =
        Disk.outcome (runPipeline r.toolchain writer config run) ∧
      (∃ lines, (Disk.left (runPipeline r.toolchain writer config run)).output.accepted =
          run.output.accepted ++ lines ∧
        (Disk.left (runPipeline r.toolchain writer config again)).output.accepted =
          again.output.accepted ++ lines) ∧
      (Disk.left (runPipeline r.toolchain writer config again)).world.files.home =
        again.world.files.home ∧
      ∀ loc, (Disk.left (runPipeline r.toolchain writer config again)).world.files.at? loc =
        again.world.files.at? loc := by
  obtain ⟨folders, hfolders⟩ := runPipeline_builds (r := r) hw h
  rw [← hagain] at hfolders
  set calls := fetches config.host config.repositories ++ builds config.packageOptions folders
  have hcalls : ∀ x ∈ config.repositories, Call.fetch config.host x ∈ calls :=
    fun x hx => List.mem_append_left _ (List.mem_map_of_mem hx)
  have hfirst : Renewed ⟨config.templatesRoot⟩ calls run.world.files run.world.files :=
    Renewed.refl _ _ _
  obtain ⟨hfetched, hfree, -⟩ := fetchAll_renewed h hcalls (fun _ => id) hfirst
  have hnow := hfetched.trans (hfolders.mono fun _ => List.mem_append_right _)
  obtain ⟨hagainfetched, -, -⟩ := fetchAll_renewed h hcalls (fun _ => id) hnow
  have hrepos : ∀ loc, Below (run.world.files.place config.templatesRoot ++ [Layout.reposName]) loc →
      SameAt loc _ again.world.files := fun loc hloc =>
    hfolders.sameAt_repos (by rwa [hfetched.place_eq])
  obtain ⟨houtcome, -, -⟩ := fetchAll_behind h hcalls hfirst hnow hrepos
  have hat := fetchAll_behind_at? h hcalls hfirst hnow hrepos
  have hhome := hagainfetched.framed.home.trans hnow.framed.home.symm
  have hfetchedhome := hfetched.framed.home
  rw [runPipeline_eq] at hagain ⊢
  rw [runPipeline_eq]
  cases hf : fetchAll r.toolchain ⟨config.templatesRoot⟩ config.host config.repositories run.world with
  | error e w₁ =>
    rw [hf] at houtcome
    obtain ⟨w₁', hf'⟩ := Disk.outcome_eq_error.1 houtcome
    rw [hf'] at hhome hat ⊢
    exact ⟨rfl, ⟨[], (List.append_nil _).symm, (List.append_nil _).symm⟩, hhome, hat⟩
  | ok _ w₁ =>
    rw [hf] at houtcome hagain hfree hfetchedhome
    obtain ⟨w₁', hf'⟩ := Disk.outcome_eq_ok.1 houtcome
    have hlike := fun loc => And.intro (hat loc)
      (fetchAll_behind_children h hcalls hfirst hnow hrepos hf' loc)
    rw [hf'] at hhome hat hagainfetched hlike ⊢
    obtain ⟨hout, hlines, hsame⟩ := buildFound_again hw config { run with world := w₁ }
      { again with world := w₁' } (hfree h.free) h.neverUp
      (hagainfetched.framed.home.trans hfetchedhome.symm) (hagain ▸ hlike)
    exact ⟨hout, hlines, hsame.home.trans hhome,
      fun loc => (hsame.entry loc not_false).trans (hat loc)⟩

end Run

/-- **What is cloned is away from the root**, if its path has no `..` and neither place is inside the
    other. -/
theorem Rehearsal.detached_of_disjoint {r : Rehearsal} {root : Location} {start : FileSystem}
    (hfree : start.LinkFree [])
    (hfixture : ∀ fixture, r.fixture = some fixture → fixture.NeverUp ∧
      ¬ root <+: start.place fixture ∧ ¬ start.place fixture <+: root) : r.Detached root start := by
  intro _ fixture hf fs hframed _
  obtain ⟨hup, hin, hout⟩ := hfixture fixture hf
  rw [← place_of_home hframed.home] at hin hout
  have hlink : ∀ loc, ¬ root <+: loc → ∀ target, fs.at? loc ≠ some (.link target) := by
    intro loc hloc target hat
    rcases hframed.entry loc with ⟨_, rfl, hbelow⟩ | heq | ⟨_, rfl, -, -, hdir⟩
    · exact hloc hbelow
    · rw [heq] at hat
      exact hfree loc List.nil_prefix target hat
    · rw [hdir] at hat
      cases hat
  have hs : fs.Straight fixture := ⟨hup, fun ns hns _ => hlink _ fun hbelow =>
    hin (hbelow.trans ((List.prefix_append_right_inj _).2 hns))⟩
  refine (settled_of_disjoint hs (fun loc hloc => hlink loc fun hbelow => ?_) hin hout).mono
    fun loc hloc => (inside_iff.1 hloc).1
  rcases List.prefix_or_prefix_of_prefix hbelow hloc with h | h
  · exact hin h
  · exact hout h

/-- A clone and a package that earlier runs left, and what is cloned now: a template that is built
    and one that does not compile. -/
def workbench : FileSystem :=
  .written [("T", .directory), ("T/Empty.sr", .directory),
    ("T/Empty.sr/Serifian.plist", .file (Text.Utf8.bytes "m") false),
    ("T/repos", .directory), ("T/repos/a", .directory), ("T/repos/a/r", .directory),
    ("T/repos/a/r/old.typ", .file (Text.Utf8.bytes "old") false),
    ("T/x.sr", .directory), ("T/x.sr/old", .file (Text.Utf8.bytes "old") false),
    ("f", .directory), ("f/x", .directory),
    ("f/x/main.typ", .file (Text.Utf8.bytes "= X") false),
    ("f/y", .directory), ("f/y/main.typ", .file (Text.Utf8.bytes "// fail-compile") false)]

theorem runPipeline_again_workbench :
    let r : Rehearsal := { fixture := some (.ofString "f") }
    let config : Config := {
      templatesRoot := .ofString "T"
      repositories := [⟨"a", "r", none⟩, ⟨"b", "s", some "main"⟩, ⟨"a", "r", none⟩]
      keepGoing := true }
    let run : Run (List ToolCall) Unit := ⟨⟨workbench, []⟩, ⟨(), []⟩⟩
    let again := Disk.left (runPipeline r.toolchain Writer.accepting config run)
    let left := Disk.left (runPipeline r.toolchain Writer.accepting config again)
    Writer.accepting.Accepts ∧
      Repeatable r ⟨config.templatesRoot⟩ config.repositories run.world.files ∧
      Disk.outcome (runPipeline r.toolchain Writer.accepting config again) =
        Disk.outcome (runPipeline r.toolchain Writer.accepting config run) ∧
      (∃ lines, again.output.accepted = run.output.accepted ++ lines ∧
        left.output.accepted = again.output.accepted ++ lines) ∧
      left.world.files.home = again.world.files.home ∧
      ∀ loc, left.world.files.at? loc = again.world.files.at? loc := by
  intro r config run
  have hfree : run.world.files.LinkFree [] := linkFree_of_entries (by decide +kernel) _
  have hrepeat : Repeatable r ⟨config.templatesRoot⟩ config.repositories run.world.files := by
    refine ⟨hfree, by decide, by decide, by decide, Rehearsal.detached_of_disjoint hfree ?_⟩
    rintro _ ⟨⟩
    exact ⟨by decide, by decide +kernel, by decide +kernel⟩
  dsimp only
  exact ⟨accepts_accepting, hrepeat, runPipeline_again accepts_accepting hrepeat rfl⟩

/-- Something to clone, and no root. -/
def rootless : FileSystem :=
  .written [("f", .directory), ("f/main.typ", .file (Text.Utf8.bytes "= X") false)]

/-- Something to clone beside a root with a clone. -/
def crossing : FileSystem :=
  .written [("T", .directory), ("T/repos", .directory), ("T/repos/b", .directory),
    ("T/repos/b/s", .directory), ("T/repos/b/s/sub", .directory),
    ("f", .directory), ("f/main.typ", .file (Text.Utf8.bytes "= X") false)]

/-- A run fails otherwise once more, if its first clone is not made and leaves what is not cleaned. -/
theorem runPipeline_differs {ω : Type} {r : Rehearsal} {writer : Writer ω} {config : Config}
    {repository : RepositoryRef} {rest : List RepositoryRef} {clone : Path}
    (hfirst : config.repositories = repository :: rest) (hwell : repository.isWellFormed = true)
    (hclone : Layout.cloneDir ⟨config.templatesRoot⟩ repository = clone)
    {run : Run (List ToolCall) ω}
    (h : Disk.succeeds (fun _ fs =>
      let cloned := r.perform (.clone (repository.cloneUrl config.host) clone) fs
      Disk.fails cloned && Disk.fails (removeIfPresent clone (Disk.left cloned)))
      (removeIfPresent clone run.world.files) = true) :
    Disk.outcome (runPipeline r.toolchain writer config
        (Disk.left (runPipeline r.toolchain writer config run))) ≠
      Disk.outcome (runPipeline r.toolchain writer config run) := by
  subst hclone
  obtain ⟨_, fs, hremove, hunmade⟩ := Disk.succeeds_iff.1 h
  obtain ⟨hcloned, hkept⟩ := Bool.and_eq_true_iff.1 hunmade
  obtain ⟨e, fs', hcloned⟩ := Disk.fails_iff.1 hcloned
  rw [hcloned, Disk.left_error] at hkept
  obtain ⟨e', fs'', hkept⟩ := Disk.fails_iff.1 hkept
  obtain ⟨calls, hfetch⟩ : ∃ calls, fetch r.toolchain ⟨config.templatesRoot⟩ config.host repository
      run.world = .error (.clone repository.display e) ⟨fs', calls⟩ := by
    have := fetch_cleared (r := r) config.host hwell hremove
    rwa [hcloned] at this
  have hrefused : fetch r.toolchain ⟨config.templatesRoot⟩ config.host repository ⟨fs', calls⟩ =
      .error (.clean (Layout.cloneDir ⟨config.templatesRoot⟩ repository) e') ⟨fs'', calls⟩ := by
    simp only [fetch, hwell, if_true, World.onFiles, hkept]
  have hbefore : runPipeline r.toolchain writer config run =
      .error (.fetch (.clone repository.display e)) { run with world := ⟨fs', calls⟩ } :=
    runPipeline_unfetched _ _ hfirst hfetch
  have hagain : runPipeline r.toolchain writer config { run with world := ⟨fs', calls⟩ } = _ :=
    runPipeline_unfetched _ _ hfirst hrefused
  rw [hbefore, Disk.left_error, Disk.outcome_error, hagain, Disk.outcome_error]
  simp

/-- A repository with a name over its limit. -/
def overlong : RepositoryRef :=
  ⟨"a", String.ofList (List.replicate 300 'n'), none⟩

theorem overlong_isWellFormed : overlong.isWellFormed = true := by
  have hne : ∀ s : String, s.length < 300 → String.ofList (List.replicate 300 'n') ≠ s := by
    rintro s hs rfl
    rw [String.length_ofList, List.length_replicate] at hs
    omega
  have hseparator : (List.replicate 300 'n').contains '/' = false := by decide
  simp only [overlong, RepositoryRef.isWellFormed, RepositoryRef.isSegment, String.toList_ofList,
    hseparator, bne_iff_ne.2 (hne "" (by decide)), bne_iff_ne.2 (hne "." (by decide)),
    bne_iff_ne.2 (hne ".." (by decide))]
  decide

theorem overlong_cloneDir : Layout.cloneDir ⟨.ofString "T"⟩ overlong =
    (Path.ofString "T/repos/a").join ⟨List.replicate 300 110⟩ := by
  have hname : Path.ofString overlong.repo = ⟨List.replicate 300 110⟩ := by
    rw [Path.ofString, Text.Utf8.bytes, overlong, String.toList_ofList]
    decide +kernel
  rw [Layout.cloneDir, hname]
  rfl

/-- **A run may fail otherwise once more.** Where the root is missing, a name over its limit is found
    too long when the clone is made, and the next time when it is cleaned. A path to what is cloned
    that passes through a clone leads nowhere once that clone was removed. -/
theorem runPipeline_differs_again :
    (let r : Rehearsal := { fixture := some (.ofString "f") }
      let config : Config := {
        templatesRoot := .ofString "T"
        repositories := [⟨"a", String.ofList (List.replicate 300 'n'), none⟩] }
      let run : Run (List ToolCall) Unit := ⟨⟨rootless, []⟩, ⟨(), []⟩⟩
      rootless.LinkFree [] ∧ config.templatesRoot.NeverUp ∧
        rootless.stat? (.ofString "f") = .ok ([Text.Utf8.bytes "f"], .directory) ∧
        rootless.place config.templatesRoot = [Text.Utf8.bytes "T"] ∧
        Disk.outcome (runPipeline r.toolchain Writer.accepting config
          (Disk.left (runPipeline r.toolchain Writer.accepting config run))) ≠
          Disk.outcome (runPipeline r.toolchain Writer.accepting config run)) ∧
    (let fixture := Path.ofString "T/repos/b/s/sub/../../../../../f"
      let r : Rehearsal := { fixture := some fixture }
      let config : Config := {
        templatesRoot := .ofString "T"
        repositories := [⟨"a", "r", none⟩, ⟨"b", "s", none⟩] }
      let run : Run (List ToolCall) Unit := ⟨⟨crossing, []⟩, ⟨(), []⟩⟩
      crossing.LinkFree [] ∧ config.templatesRoot.NeverUp ∧
        crossing.stat? fixture = .ok ([Text.Utf8.bytes "f"], .directory) ∧
        crossing.place config.templatesRoot = [Text.Utf8.bytes "T"] ∧
        Disk.outcome (runPipeline r.toolchain Writer.accepting config
          (Disk.left (runPipeline r.toolchain Writer.accepting config run))) ≠
          Disk.outcome (runPipeline r.toolchain Writer.accepting config run)) := by
  refine ⟨⟨linkFree_of_entries (by decide +kernel) _, by decide, by decide +kernel,
    by decide +kernel, ?_⟩, linkFree_of_entries (by decide +kernel) _, by decide, by decide +kernel,
    by decide +kernel, ?_⟩
  · let config : Config := { templatesRoot := .ofString "T", repositories := [overlong] }
    have hfirst : config.repositories = [overlong] := rfl
    exact runPipeline_differs hfirst overlong_isWellFormed overlong_cloneDir (by decide +kernel)
  · decide +kernel

end TemplatePress
