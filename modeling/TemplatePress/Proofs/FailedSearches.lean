import TemplatePress.Proofs.SearchOrder

/-!
# Searches that fail

A directory may fail to be listed because of what stands in the file system, or because its path is
barred, say by missing permission. This file fixes:

* `Visits`: the directories that a search comes to, its root and what is reached below it through
  real directories. Nothing behind a link is among them (`not_visits_of_behindLink`);
* `FirstUnlisted`: in the order of a search (`Before`), the first of them that cannot be listed;
* `SearchEnds`: a search finds its folders where everything visited is listed, and fails with the
  first that is not. One entry hands this on (`visitEntry_ends`), so do the entries of a directory
  (`visitEntries_ends`), and so does a search, by induction on the depth (`visitLevels_ends`);
* `runPipelineBy`: a run that lists in any way, which ends with a failed search as fetching left it
  (`runPipelineBy_discovery`);
* `discoverBy_fails_iff`: all of this for a search and a run where paths are barred.
-/

namespace TemplatePress

open FileSystem

/-! ## 1. Listing where paths are barred -/

/-- How directories are listed where paths are barred, each for a reason. -/
def FileSystem.barred (fs : FileSystem) (bars : Path → Option IoError) : Discovery.Listing :=
  fun p =>
    match bars p with
    | some e => .error e
    | none => fs.readDirectory p

namespace Discovery

variable {fs : FileSystem} {bars : Path → Option IoError}

theorem readDirectory_of_barred {p : Path} {entries : List (Name × Entry)}
    (h : fs.barred bars p = .ok entries) : fs.readDirectory p = .ok entries := by
  unfold barred at h
  split at h
  · cases h
  · exact h

theorem barred_congr {bars' : Path → Option IoError} {p : Path} (h : bars' p = bars p) :
    fs.barred bars' p = fs.barred bars p := by
  rw [barred, barred, h]

/-- The path leads to no directory but the one at the location. -/
def LeadsOnlyTo (fs : FileSystem) (p : Path) (dir : Location) : Prop :=
  ∀ loc, fs.stat? p = .ok (loc, .directory) → loc = dir

theorem leadsOnlyTo_of_stat? {p : Path} {dir : Location}
    (h : fs.stat? p = .ok (dir, .directory)) : LeadsOnlyTo fs p dir := by
  intro loc hloc
  cases h.symm.trans hloc
  rfl

/-- **The path of a sub-directory leads nowhere else.** -/
theorem leadsOnlyTo_join {p : Path} {dir : Location} {n : Name}
    (h : fs.stat? p = .ok (dir, .directory)) (hat : fs.at? (dir ++ [n]) = some .directory) :
    LeadsOnlyTo fs (p.join ⟨n⟩) (dir ++ [n]) :=
  fun _ hloc => (leads_of_stat? h).of_join (isOrdinary_of_at? hat) (by simp [hat])
    (leads_of_stat? hloc)

theorem LeadsOnlyTo.listed {p : Path} {dir : Location} {entries : List (Name × Entry)}
    (h : LeadsOnlyTo fs p dir) (hlist : fs.barred bars p = .ok entries) :
    fs.stat? p = .ok (dir, .directory) ∧ entries = fs.children dir := by
  obtain ⟨loc, hstat, rfl⟩ := readDirectory_eq_ok (readDirectory_of_barred hlist)
  obtain rfl := h loc hstat
  exact ⟨hstat, rfl⟩

/-! ## 2. Directories that a search comes to -/

/-- The names on the way to a directory that a search comes to: its root, whatever it is, and what
    is reached below it through real directories. -/
def Visits (fs : FileSystem) (root : Path) (ns : List Name) : Prop :=
  ns = [] ∨ ∃ dir, fs.stat? root = .ok (dir, .directory) ∧ Reached fs dir ns

theorem visits_iff {root : Path} {dir : Location} (h : fs.stat? root = .ok (dir, .directory))
    {ns : List Name} : Visits fs root ns ↔ Reached fs dir ns := by
  constructor
  · rintro (rfl | ⟨dir', h', hns⟩)
    · exact .here
    · cases h.symm.trans h'
      exact hns
  · exact fun hns => Or.inr ⟨dir, h, hns⟩

/-- The path leads through a link below the root. -/
def BehindLink (fs : FileSystem) (root p : Path) : Prop :=
  ∃ dir ns l target more, fs.stat? root = .ok (dir, .directory) ∧
    fs.at? (dir ++ ns ++ [l]) = some (.link target) ∧ (∀ n ∈ more, Name.isOrdinary n = true) ∧
      p = root.under (ns ++ l :: more)

/-- **A search never comes behind a link.** -/
theorem not_visits_of_behindLink {root : Path} {ns : List Name} (h : Visits fs root ns) :
    ¬ BehindLink fs root (root.under ns) := by
  rintro ⟨dir, ms, l, target, more, hroot, hlink, hmore, heq⟩
  rw [visits_iff hroot] at h
  have hway : ∀ n ∈ ms ++ [l], Name.isOrdinary n = true := by
    have hat : fs.at? (dir ++ (ms ++ [l])) ≠ none := by
      rw [← List.append_assoc, hlink]
      simp
    exact isOrdinary_of_at?_append hat
  have hordinary : ∀ n ∈ ms ++ [l] ++ more, Name.isOrdinary n = true :=
    List.forall_mem_append.2 ⟨hway, hmore⟩
  rw [List.append_cons] at heq
  obtain rfl := Path.under_injective root h.ordinary hordinary heq
  -- what is reached stands below real directories only
  have hat := h.directory (at?_of_stat? hroot)
  rw [← List.append_assoc, ← List.append_assoc] at hat
  have hdir := isDirectory_iff.1 (isDirectory_of_append more (isDirectory_iff.2 hat))
  rw [hlink] at hdir
  cases hdir

/-! ## 3. The first directory that is not listed -/

/-- Of what is reached from a path, the names lead to the first directory that cannot be listed. -/
structure FirstUnlisted (list : Listing) (p : Path) (reached : List Name → Prop) (ns : List Name)
    (e : IoError) : Prop where
  visited : reached ns
  unlisted : list (p.under ns) = .error e
  before : ∀ ms, reached ms → Before ms ns → ∃ entries, list (p.under ms) = .ok entries

/-- **How a search ends:** with folders where everything that is reached can be listed, and with the
    first directory that cannot be otherwise. -/
inductive SearchEnds (list : Listing) (p : Path) (reached : List Name → Prop) :
    Except DiscoveryError (List TemplateFolder) → Prop where
  | found {folders : List TemplateFolder} :
      (∀ ns, reached ns → ∃ entries, list (p.under ns) = .ok entries) →
      SearchEnds list p reached (.ok folders)
  | failed {ns : List Name} {e : IoError} : FirstUnlisted list p reached ns e →
      SearchEnds list p reached (.error (.readDirectory (p.under ns) e))

/-- Where the path itself cannot be listed, nothing comes before it. -/
theorem SearchEnds.failed_here {list : Listing} {p : Path} {reached : List Name → Prop}
    {e : IoError} (h : reached []) (hlist : list p = .error e) :
    SearchEnds list p reached (.error (.readDirectory p e)) := by
  have hfirst : FirstUnlisted list p reached [] e := ⟨h, hlist, fun ms _ hbefore => nomatch hbefore⟩
  exact .failed hfirst

/-- Only one directory is the first that cannot be listed. -/
theorem FirstUnlisted.unique {list : Listing} {p : Path} {reached : List Name → Prop}
    {ns ms : List Name} {e e' : IoError} (h : FirstUnlisted list p reached ns e)
    (h' : FirstUnlisted list p reached ms e') : ns = ms ∧ e = e' := by
  have heq : ns = ms := by
    by_contra hne
    rcases before_or_before hne with hbefore | hbefore
    · obtain ⟨entries, hlisted⟩ := h'.before ns h.visited hbefore
      cases hlisted.symm.trans h.unlisted
    · obtain ⟨entries, hlisted⟩ := h.before ms h'.visited hbefore
      cases hlisted.symm.trans h'.unlisted
  subst heq
  exact ⟨rfl, Except.error.inj (h.unlisted.symm.trans h'.unlisted)⟩

/-- **A search fails exactly with the first directory that cannot be listed.** -/
theorem SearchEnds.eq_error_iff {list : Listing} {p : Path} {reached : List Name → Prop}
    {result : Except DiscoveryError (List TemplateFolder)} (h : SearchEnds list p reached result)
    (err : DiscoveryError) : result = .error err ↔
      ∃ ns e, FirstUnlisted list p reached ns e ∧ err = .readDirectory (p.under ns) e := by
  cases h with
  | found hall =>
    refine ⟨nofun, ?_⟩
    rintro ⟨ns, e, hfirst, -⟩
    obtain ⟨entries, hlisted⟩ := hall ns hfirst.visited
    cases hlisted.symm.trans hfirst.unlisted
  | failed hfirst =>
    constructor
    · intro heq
      exact ⟨_, _, hfirst, (Except.error.inj heq).symm⟩
    · rintro ⟨ms, e', hfirst', rfl⟩
      obtain ⟨rfl, rfl⟩ := hfirst.unique hfirst'
      rfl

/-- **A search fails exactly if something that is reached cannot be listed.** -/
theorem SearchEnds.fails_iff {list : Listing} {p : Path} {reached : List Name → Prop}
    {result : Except DiscoveryError (List TemplateFolder)} (h : SearchEnds list p reached result) :
    (∃ err, result = .error err) ↔ ∃ ns, reached ns ∧ ∃ e, list (p.under ns) = .error e := by
  cases h with
  | found hall =>
    refine ⟨nofun, ?_⟩
    rintro ⟨ns, hns, e, hunlisted⟩
    obtain ⟨entries, hlisted⟩ := hall ns hns
    cases hlisted.symm.trans hunlisted
  | failed hfirst => exact ⟨fun _ => ⟨_, hfirst.visited, _, hfirst.unlisted⟩, fun _ => ⟨_, rfl⟩⟩

/-! ## 4. The walk -/

/-- The names of what is reached through an entry of a directory, which has to be a directory. -/
def Enters (fs : FileSystem) (dir : Location) (x : Name × Entry) (ns : List Name) : Prop :=
  x.2 = .directory ∧ ∃ more, ns = x.1 :: more ∧ Reached fs (dir ++ [x.1]) more

theorem reached_iff_enters {dir : Location} {ns : List Name} (hdir : fs.at? dir = some .directory) :
    Reached fs dir ns ↔ ns = [] ∨ ∃ x ∈ fs.children dir, Enters fs dir x ns := by
  cases ns with
  | nil => exact ⟨fun _ => Or.inl rfl, fun _ => .here⟩
  | cons n more =>
    rw [reached_cons hdir]
    constructor
    · rintro ⟨hat, hmore⟩
      exact Or.inr ⟨(n, .directory), mem_children.2 hat, rfl, more, rfl, hmore⟩
    · rintro (hnil | ⟨⟨m, e⟩, hmem, hentry, more', heq, hmore⟩)
      · cases hnil
      · cases heq
        cases hentry
        exact ⟨mem_children.1 hmem, hmore⟩

section Walk

variable {list : Listing} {visit : Path → Except DiscoveryError (List TemplateFolder)}
  {entryPoint : Name} {p : Path} {dir : Location}

/-- An entry that is no directory cannot fail, and one that is fails as the visit of it. -/
theorem visitEntry_ends {x : Name × Entry}
    (hvisit : x.2 = .directory → SearchEnds list (p.join ⟨x.1⟩) (Reached fs (dir ++ [x.1]))
      (visit (p.join ⟨x.1⟩))) :
    SearchEnds list p (Enters fs dir x) (visitEntry visit entryPoint p x) := by
  obtain ⟨n, e⟩ := x
  cases e with
  | file _ _ => exact .found fun ns hns => nomatch hns.1
  | link _ => exact .found fun ns hns => nomatch hns.1
  | directory =>
    have hends : SearchEnds list (p.join ⟨n⟩) (Reached fs (dir ++ [n])) (visit (p.join ⟨n⟩)) :=
      hvisit rfl
    change SearchEnds list p _ (visit (p.join ⟨n⟩))
    generalize visit (p.join ⟨n⟩) = result at hends ⊢
    cases hends with
    | found hall =>
      refine .found ?_
      rintro _ ⟨-, more, rfl, hmore⟩
      exact hall more hmore
    | @failed ns e hfirst =>
      have hthrough : FirstUnlisted list p (Enters fs dir (n, .directory)) (n :: ns) e := by
        refine ⟨⟨rfl, ns, rfl, hfirst.visited⟩, hfirst.unlisted, ?_⟩
        rintro _ ⟨-, more, rfl, hmore⟩ hbefore
        rcases before_cons_iff.1 hbefore with hlt | ⟨-, hbefore⟩
        · rw [Path.compareBytes_self] at hlt
          cases hlt
        · exact hfirst.before more hmore hbefore
      exact .failed hthrough

/-- **The entries of a directory fail with the first that fails**, if they are in order. What is
    reached through an entry comes before all that is reached through the next. -/
theorem visitEntries_ends {entries : List (Name × Entry)}
    (hsorted : entries.Pairwise fun x y => Path.compareBytes x.1 y.1 = .lt)
    (hvisit : ∀ x ∈ entries, x.2 = .directory →
      SearchEnds list (p.join ⟨x.1⟩) (Reached fs (dir ++ [x.1])) (visit (p.join ⟨x.1⟩))) :
    SearchEnds list p (fun ns => ∃ x ∈ entries, Enters fs dir x ns)
      (visitEntries visit entryPoint p entries) := by
  induction entries with
  | nil => exact .found fun ns ⟨x, hx, _⟩ => absurd hx List.not_mem_nil
  | cons x rest ih =>
    obtain ⟨hleast, hsorted⟩ := List.pairwise_cons.1 hsorted
    rw [List.forall_mem_cons] at hvisit
    have hhead : SearchEnds list p (Enters fs dir x) (visitEntry visit entryPoint p x) :=
      visitEntry_ends hvisit.1
    have htail := ih hsorted hvisit.2
    unfold visitEntries
    generalize visitEntry visit entryPoint p x = first at hhead
    cases hhead with
    | failed hfirst =>
      refine .failed ⟨⟨x, List.mem_cons_self, hfirst.visited⟩, hfirst.unlisted, ?_⟩
      rintro ms ⟨y, hy, hms⟩ hbefore
      rcases List.mem_cons.1 hy with rfl | hy
      · exact hfirst.before ms hms hbefore
      · -- what is reached through a later entry does not come before
        obtain ⟨-, more, rfl, -⟩ := hfirst.visited
        obtain ⟨-, more', rfl, -⟩ := hms
        have hlt := hleast y hy
        rcases before_cons_iff.1 hbefore with hgt | ⟨heq, -⟩
        · rw [Path.compareBytes_swap, hlt] at hgt
          cases hgt
        · rw [heq, Path.compareBytes_self] at hlt
          cases hlt
    | found hall =>
      generalize visitEntries visit entryPoint p rest = others at htail
      cases htail with
      | found hall' =>
        refine .found ?_
        rintro ns ⟨y, hy, hns⟩
        rcases List.mem_cons.1 hy with rfl | hy
        · exact hall ns hns
        · exact hall' ns ⟨y, hy, hns⟩
      | failed hfirst =>
        obtain ⟨z, hz, hreached⟩ := hfirst.visited
        refine .failed ⟨⟨z, List.mem_cons_of_mem _ hz, hreached⟩, hfirst.unlisted, ?_⟩
        rintro ms ⟨y, hy, hms⟩ hbefore
        rcases List.mem_cons.1 hy with rfl | hy
        · exact hall ms hms
        · exact hfirst.before ms ⟨y, hy, hms⟩ hbefore

/-- **A search from a directory ends as its listings say.** A path that can be listed is below the
    limit, so a depth that makes up for its length does not run out before listing fails. -/
theorem visitLevels_ends {depth : Nat} (hdir : fs.at? dir = some .directory)
    (hp : LeadsOnlyTo fs p dir) (hdepth : depth ≠ 0)
    (hlong : ∀ entries, fs.readDirectory p = .ok entries → pathLimit < depth + p.bytes.length) :
    SearchEnds (fs.barred bars) p (Reached fs dir)
      (visitLevels (fs.barred bars) entryPoint depth p) := by
  induction depth generalizing p dir with
  | zero => exact absurd rfl hdepth
  | succ depth ih =>
    unfold visitLevels
    cases hlist : fs.barred bars p with
    | error e => exact .failed_here .here hlist
    | ok entries =>
      obtain ⟨hstat, rfl⟩ := hp.listed hlist
      have hread := readDirectory_of_barred hlist
      have hlimit := length_lt_of_readDirectory hread
      have hsub : ∀ x ∈ (fs.children dir).mergeSort byName, x.2 = .directory →
          SearchEnds (fs.barred bars) (p.join ⟨x.1⟩) (Reached fs (dir ++ [x.1]))
            (visitLevels (fs.barred bars) entryPoint depth (p.join ⟨x.1⟩)) := by
        rintro ⟨n, _⟩ hx rfl
        have hat := mem_children.1 (List.mem_mergeSort.1 hx)
        have hlen := Path.length_lt_join_name p (isOrdinary_of_at? hat)
        have hlong := hlong _ hread
        exact ih (p := p.join ⟨n⟩) hat (leadsOnlyTo_join hstat hat) (by omega) fun _ _ => by omega
      have hends : SearchEnds (fs.barred bars) p
          (fun ns => ∃ x ∈ (fs.children dir).mergeSort byName, Enters fs dir x ns)
          (visitEntries (visitLevels (fs.barred bars) entryPoint depth) entryPoint p
            ((fs.children dir).mergeSort byName)) :=
        visitEntries_ends (pairwise_sorted (nodup_children fs dir)) hsub
      have hreached : ∀ ns, Reached fs dir ns ↔
          ns = [] ∨ ∃ x ∈ (fs.children dir).mergeSort byName, Enters fs dir x ns := by
        intro ns
        rw [reached_iff_enters hdir]
        simp only [List.mem_mergeSort]
      simp only
      generalize visitEntries (visitLevels (fs.barred bars) entryPoint depth) entryPoint p
        ((fs.children dir).mergeSort byName) = result at hends ⊢
      cases hends with
      | found hall =>
        refine .found fun ns hns => ?_
        rcases (hreached ns).1 hns with rfl | hns
        · exact ⟨_, hlist⟩
        · exact hall ns hns
      | failed hfirst =>
        refine .failed ⟨(hreached _).2 (Or.inr hfirst.visited), hfirst.unlisted, ?_⟩
        intro ms hms hbefore
        rcases (hreached ms).1 hms with rfl | hms
        · exact ⟨_, hlist⟩
        · exact hfirst.before ms hms hbefore

/-- **Listings that agree on all that is visited give the same search.** -/
theorem visitLevels_congr_reached {bars' : Path → Option IoError} {depth : Nat}
    (hdir : fs.at? dir = some .directory) (hp : LeadsOnlyTo fs p dir)
    (hbars : ∀ ns, Reached fs dir ns → bars' (p.under ns) = bars (p.under ns)) :
    visitLevels (fs.barred bars') entryPoint depth p =
      visitLevels (fs.barred bars) entryPoint depth p := by
  induction depth generalizing p dir with
  | zero => rfl
  | succ depth ih =>
    have hhere : fs.barred bars' p = fs.barred bars p := barred_congr (hbars [] .here)
    unfold visitLevels
    rw [hhere]
    cases hlist : fs.barred bars p with
    | error e => rfl
    | ok entries =>
      obtain ⟨hstat, rfl⟩ := hp.listed hlist
      refine visitEntries_congr ?_
      rintro ⟨n, _⟩ hx rfl
      have hat := mem_children.1 (List.mem_mergeSort.1 hx)
      exact ih hat (leadsOnlyTo_join hstat hat) fun ns hns =>
        hbars (n :: ns) ((reached_cons hdir).2 ⟨hat, hns⟩)

end Walk

section Search

/-- **With no path barred, a search is the search.** -/
theorem discoverBy_unbarred (fs : FileSystem) (root : Path) (entryPoint : String) :
    discoverBy (fs.barred fun _ => none) root entryPoint = discover fs root entryPoint := rfl

/-- The empty path leads nowhere. -/
theorem length_pos_of_stat? {p : Path} {r : Location × Entry} (h : fs.stat? p = .ok r) :
    0 < p.bytes.length := by
  obtain ⟨bytes⟩ := p
  cases bytes with
  | nil => cases h
  | cons b rest => exact Nat.succ_pos _

/-- A path that leads to no directory is not listed. -/
theorem exists_unlisted (bars : Path → Option IoError) {p : Path}
    (h : ¬ ∃ dir, fs.stat? p = .ok (dir, .directory)) : ∃ e, fs.barred bars p = .error e := by
  cases hlist : fs.barred bars p with
  | error e => exact ⟨e, rfl⟩
  | ok entries =>
    obtain ⟨dir, hdir, -⟩ := readDirectory_eq_ok (readDirectory_of_barred hlist)
    exact absurd ⟨dir, hdir⟩ h

theorem discoverBy_eq_error {list : Listing} {root : Path} {e : IoError}
    (h : list root = .error e) (entryPoint : String) :
    discoverBy list root entryPoint = .error (.readDirectory root e) := by
  simp only [discoverBy, pathLimit, visitLevels, h]

variable (fs bars) (root : Path) (entryPoint : String)

/-- **A search from a root ends as its listings say**, whatever the root is. -/
theorem discoverBy_ends : SearchEnds (fs.barred bars) root (Visits fs root)
    (discoverBy (fs.barred bars) root entryPoint) := by
  by_cases hroot : ∃ dir, fs.stat? root = .ok (dir, .directory)
  · obtain ⟨dir, hroot⟩ := hroot
    rw [show Visits fs root = Reached fs dir from funext fun ns => propext (visits_iff hroot)]
    have hlength := length_pos_of_stat? hroot
    exact visitLevels_ends (at?_of_stat? hroot) (leadsOnlyTo_of_stat? hroot) (by decide)
      fun _ _ => by omega
  · obtain ⟨e, hlist⟩ := exists_unlisted bars hroot
    rw [discoverBy_eq_error hlist]
    exact .failed_here (Or.inl rfl) hlist

variable {fs bars root}

/-- Bars on what a search does not come to make no difference. -/
theorem discoverBy_congr {bars' : Path → Option IoError}
    (h : ∀ ns, Visits fs root ns → bars' (root.under ns) = bars (root.under ns)) :
    discoverBy (fs.barred bars') root entryPoint = discoverBy (fs.barred bars) root entryPoint := by
  by_cases hroot : ∃ dir, fs.stat? root = .ok (dir, .directory)
  · obtain ⟨dir, hroot⟩ := hroot
    exact visitLevels_congr_reached (at?_of_stat? hroot) (leadsOnlyTo_of_stat? hroot)
      fun ns hns => h ns ((visits_iff hroot).2 hns)
  · obtain ⟨e, hlist⟩ := exists_unlisted bars hroot
    have hhere : fs.barred bars' root = fs.barred bars root := barred_congr (h [] (Or.inl rfl))
    rw [discoverBy_eq_error hlist, discoverBy_eq_error (hhere.trans hlist)]

end Search

end Discovery

/-! ## 5. Runs -/

open Discovery

/-- **With no path barred, a run is the run.** -/
theorem runPipelineBy_unbarred {σ ω : Type} (tools : Toolchain σ) (writer : Writer ω)
    (config : Config) : runPipelineBy (·.barred fun _ => none) tools writer config =
      runPipeline tools writer config := rfl

section Runs

variable {σ ω : Type} (tools : Toolchain σ) (writer : Writer ω) (config : Config)

/-- Building does not fail as a search does. -/
theorem buildOnto_ne_discovery {layout : Layout} {options : PackageOptions} {keepGoing : Bool}
    {folders : List TemplateFolder} {report : PipelineReport} {run run' : Run σ ω}
    {err : DiscoveryError} :
    Pipeline.buildOnto tools writer layout options keepGoing folders report run ≠
      .error (.discovery err) run' := by
  induction folders generalizing report run with
  | nil => exact nofun
  | cons folder rest ih =>
    unfold Pipeline.buildOnto
    cases hone : Pipeline.buildOne tools writer layout options keepGoing folder report run with
    | ok report₁ run₁ => exact ih
    | error e run₁ =>
      rintro ⟨⟩
      rcases buildOne_eq_error hone with ⟨e', heq, -⟩ | ⟨e', -, heq, -⟩ <;> cases heq

/-- **A run ends with a failed search exactly if fetching succeeds and the search behind it fails**,
    and it ends as fetching left it. -/
theorem runPipelineBy_discovery (list : FileSystem → Listing) (run run' : Run σ ω)
    (err : DiscoveryError) :
    runPipelineBy list tools writer config run = .error (.discovery err) run' ↔
      ∃ world, fetchAll tools ⟨config.templatesRoot⟩ config.host config.repositories run.world =
          .ok () world ∧
        discoverBy (list world.files) (Layout.reposDir ⟨config.templatesRoot⟩) config.entryPoint =
          .error err ∧
        run' = { run with world } := by
  simp only [runPipelineBy, Pipeline.inWorld]
  cases hfetch : fetchAll tools ⟨config.templatesRoot⟩ config.host config.repositories
    run.world with
  | error e world => simp
  | ok _ world =>
    simp only [EStateM.Result.ok.injEq, true_and, exists_eq_left']
    cases hfound : discoverBy (list world.files) (Layout.reposDir ⟨config.templatesRoot⟩)
      config.entryPoint with
    | error e => simp [eq_comm]
    | ok folders =>
      simp only [reduceCtorEq, false_and, iff_false]
      exact buildOnto_ne_discovery tools writer

/-- Fetching makes no call that builds. -/
theorem fetchAll_kinds (layout : Layout) (host : String) (repositories : List RepositoryRef)
    (w : World (Logged σ)) :
    ∃ made, (Disk.left (fetchAll tools.logged layout host repositories w)).tools.log =
        w.tools.log ++ made ∧
      ∀ c ∈ made, c.call.kind ∉ buildKinds := by
  obtain ⟨fetches, hchain, -⟩ := fetchAll_inOrder tools layout host repositories w
  refine ⟨_, hchain.log_eq, fun c hc => ?_⟩
  obtain ⟨a, ha, hc⟩ := List.mem_flatMap.1 hc
  have hinOrder := FetchAttempt.isInOrder (hchain.isOf a ha)
  obtain ⟨planned, hplanned, heq⟩ := InOrder.exists_planned hinOrder hc
  simp only [RepositoryRef.plan, List.mem_cons, List.mem_map] at hplanned
  rcases hplanned with rfl | ⟨reference, -, rfl⟩ <;> simp [heq, ToolCall.kind, buildKinds]

end Runs

/-- **A search fails exactly if its root, or a directory reached through real directories, cannot be
    listed.** The error is that of the first such directory in the order of the search. What is
    behind a link is not visited, so it makes no search fail. A run whose search fails ends as
    fetching left it: nothing is written, and no call has been made that builds. -/
theorem discoverBy_fails_iff (fs : FileSystem) (bars : Path → Option IoError) (root : Path)
    (entryPoint : String) :
    let list := fs.barred bars
    let found := discoverBy list root entryPoint
    ((∃ err, found = .error err) ↔
        ∃ ns, Visits fs root ns ∧ ∃ e, list (root.under ns) = .error e) ∧
      (∀ err, found = .error err ↔ ∃ ns e,
        FirstUnlisted list root (Visits fs root) ns e ∧ err = .readDirectory (root.under ns) e) ∧
      (∀ ns, Visits fs root ns → ¬ BehindLink fs root (root.under ns)) ∧
      (∀ bars' : Path → Option IoError, (∀ p, bars' p ≠ bars p → BehindLink fs root p) →
        discoverBy (fs.barred bars') root entryPoint = found) ∧
      ∀ {σ ω : Type} (tools : Toolchain σ) (writer : Writer ω) (config : Config)
        (run run' : Run (Logged σ) ω) (err : DiscoveryError),
        (runPipelineBy (·.barred bars) tools.logged writer config run =
              .error (.discovery err) run' ↔
            ∃ world, fetchAll tools.logged ⟨config.templatesRoot⟩ config.host config.repositories
                run.world = .ok () world ∧
              discoverBy (world.files.barred bars) (Layout.reposDir ⟨config.templatesRoot⟩)
                config.entryPoint = .error err ∧
              run' = { run with world }) ∧
          (runPipelineBy (·.barred bars) tools.logged writer config run =
              .error (.discovery err) run' →
            run'.output = run.output ∧
              ∃ made, run'.world.tools.log = run.world.tools.log ++ made ∧
                ∀ c ∈ made, c.call.kind ∉ buildKinds) := by
  intro list found
  have hends := discoverBy_ends fs bars root entryPoint
  refine ⟨hends.fails_iff, hends.eq_error_iff, fun ns => not_visits_of_behindLink, ?_, ?_⟩
  · intro bars' hbars
    refine discoverBy_congr entryPoint fun ns hns => ?_
    by_contra hne
    exact not_visits_of_behindLink hns (hbars _ hne)
  · intro σ ω tools writer config run run' err
    have hiff := runPipelineBy_discovery tools.logged writer config (·.barred bars) run run' err
    refine ⟨hiff, fun hrun => ?_⟩
    obtain ⟨world, hfetch, -, rfl⟩ := hiff.1 hrun
    obtain ⟨made, hlog, hkinds⟩ := fetchAll_kinds tools ⟨config.templatesRoot⟩ config.host
      config.repositories run.world
    rw [hfetch] at hlog
    exact ⟨rfl, made, hlog, hkinds⟩

/-- A template, directories behind it that are barred, and a link to a directory. -/
def barrier : FileSystem :=
  .written [("T", .directory), ("T/repos", .directory), ("T/repos/a", .directory),
    ("T/repos/a/main.typ", .file (Text.Utf8.bytes "= A") false),
    ("T/repos/aa", .link (.ofString "../away")), ("away", .directory),
    ("T/repos/b", .directory), ("T/repos/d", .directory)]

/-- What bars the directories of the barrier, and the one behind the link. -/
def barrierBars : Path → Option IoError := fun p =>
  if p = .ofString "T/repos/b" then some (.os .linkLoop)
  else if p = .ofString "T/repos/aa" ∨ p = .ofString "T/repos/d" then some (.os .permissionDenied)
  else none

theorem discoverBy_barrier : discoverBy (barrier.barred barrierBars)
    (Layout.reposDir ⟨.ofString "T"⟩) "main.typ" =
      .error (.readDirectory (.ofString "T/repos/b") (.os .linkLoop)) := by
  let root : Path := Layout.reposDir ⟨.ofString "T"⟩
  have hrepos : barrier.barred barrierBars root = .ok [(Text.Utf8.bytes "a", .directory),
      (Text.Utf8.bytes "aa", .link (.ofString "../away")), (Text.Utf8.bytes "b", .directory),
      (Text.Utf8.bytes "d", .directory)] := by decide +kernel
  have hsorted : List.mergeSort [(Text.Utf8.bytes "a", Entry.directory),
      (Text.Utf8.bytes "aa", .link (.ofString "../away")), (Text.Utf8.bytes "b", .directory),
      (Text.Utf8.bytes "d", .directory)] byName = _ :=
    List.mergeSort_of_pairwise (by decide +kernel)
  have ha : barrier.barred barrierBars (root.join ⟨Text.Utf8.bytes "a"⟩) =
      .ok [(Text.Utf8.bytes "main.typ", .file (Text.Utf8.bytes "= A") false)] := by decide +kernel
  have hb : barrier.barred barrierBars (root.join ⟨Text.Utf8.bytes "b"⟩) =
      .error (.os .linkLoop) := by decide +kernel
  have hjoin : root.join ⟨Text.Utf8.bytes "b"⟩ = .ofString "T/repos/b" := by decide +kernel
  have hvisit : ∀ depth, visitLevels (barrier.barred barrierBars) (Text.Utf8.bytes "main.typ")
      (depth + 2) root = .error (.readDirectory (root.join ⟨Text.Utf8.bytes "b"⟩)
        (.os .linkLoop)) := by
    intro depth
    simp only [visitLevels, hrepos, hsorted, ha, hb, visitEntries, visitEntry,
      List.mergeSort_singleton]
  rw [hjoin] at hvisit
  exact hvisit 4094

theorem discoverBy_fails_iff_barrier :
    let root : Path := Layout.reposDir ⟨.ofString "T"⟩
    let err : DiscoveryError := .readDirectory (.ofString "T/repos/b") (.os .linkLoop)
    let config : Config := { templatesRoot := .ofString "T", repositories := [] }
    let run : Run (Logged (List ToolCall)) Unit := ⟨⟨barrier, [], []⟩, ⟨(), []⟩⟩
    discoverBy (barrier.barred barrierBars) root "main.typ" = .error err ∧
      (∃ ns e, FirstUnlisted (barrier.barred barrierBars) root (Visits barrier root) ns e ∧
        err = .readDirectory (root.under ns) e) ∧
      BehindLink barrier root (.ofString "T/repos/aa") ∧
      discoverBy
        (barrier.barred fun p => if p = .ofString "T/repos/aa" then none else barrierBars p) root
        "main.typ" = .error err ∧
      runPipelineBy (·.barred barrierBars) (Rehearsal.toolchain {}).logged Writer.accepting config
        run = .error (.discovery err) run := by
  intro root err config run
  have hlink : BehindLink barrier root (.ofString "T/repos/aa") :=
    ⟨[Text.Utf8.bytes "T", Text.Utf8.bytes "repos"], [], Text.Utf8.bytes "aa",
      .ofString "../away", [], by decide +kernel, by decide +kernel, List.forall_mem_nil _,
      by decide +kernel⟩
  obtain ⟨-, hfirst, -, hbehind, hruns⟩ :=
    discoverBy_fails_iff barrier barrierBars root "main.typ"
  refine ⟨discoverBy_barrier, (hfirst err).1 discoverBy_barrier, hlink, ?_, ?_⟩
  · refine (hbehind _ fun p hne => ?_).trans discoverBy_barrier
    split at hne
    · rename_i heq
      exact heq ▸ hlink
    · exact absurd rfl hne
  · have hrun := (hruns (Rehearsal.toolchain {}) Writer.accepting config run run err).1
    exact hrun.2 ⟨run.world, rfl, discoverBy_barrier, rfl⟩

end TemplatePress
