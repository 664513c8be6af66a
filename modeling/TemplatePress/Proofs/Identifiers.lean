import Mathlib.Data.List.Basic
import TemplatePress.Proofs.CallOrder
import TemplatePress.Proofs.FetchedCopies

/-!
# Identifiers of repositories

Author and name of a repository become parts of a path at which a tree is removed, so the check in
front of it has to read a text as the path will be read. This file fixes:

* `Path.Disjoint`: of two paths neither begins with the components of the other. Names behind one
  path make disjoint paths exactly if neither row of names begins with the other
  (`Path.disjoint_under_iff`);
* `isSegment_iff_readsAsName`: the texts that pass the check are those that read, as a path, as one
  ordinary name that is the whole text;
* `cloneDir_disjoint`, `cloneUrl_ne`: repositories that pass have disjoint places and different
  addresses;
* `FetchesInto`: all that a fetch does, it does at one path (`fetch_into`);
* `fetch_checksIdentifiers`: the check decides what a fetch does, and where.
-/

namespace TemplatePress

open FileSystem

/-! ## 1. Paths apart by their components -/

namespace Path

/-- Neither path begins with the components of the other. -/
def Disjoint (p q : Path) : Prop :=
  ¬ p.components <+: q.components ∧ ¬ q.components <+: p.components

/-- **Names behind a path are its last components.** -/
theorem components_under (p : Path) {ns : List Name} (h : ∀ n ∈ ns, Name.isOrdinary n = true) :
    (p.under ns).components = p.components ++ ns.map .normal := by
  induction ns using List.reverseRecOn with
  | nil => simp
  | append_singleton ns n ih =>
    rw [under_concat, components_join_name _ (h n (by simp)), ih fun m hm => h m (by simp [hm])]
    simp

theorem map_normal_injective : Function.Injective (List.map Component.normal) :=
  List.map_injective_iff.2 fun _ _ h => Component.normal.inj h

section Under

variable (p : Path) {ns ms : List Name} (hns : ∀ n ∈ ns, Name.isOrdinary n = true)
  (hms : ∀ m ∈ ms, Name.isOrdinary m = true)

include hns hms

theorem components_under_prefix_iff :
    (p.under ns).components <+: (p.under ms).components ↔ ns <+: ms := by
  rw [components_under p hns, components_under p hms, List.prefix_append_right_inj,
    List.prefix_map_iff]
  constructor
  · rintro ⟨front, hfront, heq⟩
    rwa [map_normal_injective heq]
  · exact fun h => ⟨ns, h, rfl⟩

theorem disjoint_under_iff :
    (p.under ns).Disjoint (p.under ms) ↔ ¬ ns <+: ms ∧ ¬ ms <+: ns := by
  rw [Disjoint, components_under_prefix_iff p hns hms, components_under_prefix_iff p hms hns]

end Under

/-- **A name is ordinary exactly if it reads, as a path, as itself.** -/
theorem isOrdinary_iff_components {n : Name} :
    Name.isOrdinary n = true ↔ (⟨n⟩ : Path).components = [.normal n] := by
  refine ⟨components_name, fun h => ?_⟩
  obtain ⟨hmem, hhere, habove⟩ := normal_mem_components (p := ⟨n⟩) (n := n) (by simp [h])
  exact isOrdinary_of_mem_parts hmem hhere habove

end Path

/-! ## 2. Texts that pass the check -/

namespace RepositoryRef

/-- The text, read as a path, is one ordinary name, which is the whole text. -/
def ReadsAsName (s : String) : Prop :=
  (Path.ofString s).components = [.normal (Text.Utf8.bytes s)]

/-- Author and name read as one name each. -/
def ReadsAsNames (r : RepositoryRef) : Prop :=
  ReadsAsName r.author ∧ ReadsAsName r.repo

instance (r : RepositoryRef) : Decidable r.ReadsAsNames :=
  inferInstanceAs (Decidable (_ = _ ∧ _ = _))

theorem slash_notMem_of_isOrdinary {s : String}
    (h : Name.isOrdinary (Text.Utf8.bytes s) = true) : '/' ∉ s.toList := by
  intro hmem
  have hbyte : Path.separator ∈ Text.Utf8.bytes s :=
    List.mem_flatMap.2 ⟨'/', hmem, by decide⟩
  exact (Name.isOrdinary_iff.1 h).2.2.2 hbyte

/-- **The check reads a text as a path reads it.** -/
theorem isSegment_iff_readsAsName {s : String} : isSegment s = true ↔ ReadsAsName s := by
  rw [ReadsAsName, Path.ofString, ← Path.isOrdinary_iff_components]
  refine ⟨isOrdinary_of_isSegment, fun h => ?_⟩
  obtain ⟨hne, hhere, habove, -⟩ := Name.isOrdinary_iff.1 h
  have hother : ∀ t : String, Text.Utf8.bytes s ≠ Text.Utf8.bytes t → (s != t) = true :=
    fun t hbytes => bne_iff_ne.2 fun heq => hbytes (congrArg _ heq)
  simp only [isSegment, Bool.and_eq_true, Bool.not_eq_true', List.contains_eq_mem,
    decide_eq_false_iff_not]
  exact ⟨⟨⟨hother "" hne, hother "." hhere⟩, hother ".." habove⟩, slash_notMem_of_isOrdinary h⟩

theorem isWellFormed_iff_readsAsNames {r : RepositoryRef} :
    r.isWellFormed = true ↔ r.ReadsAsNames := by
  rw [isWellFormed, Bool.and_eq_true, isSegment_iff_readsAsName, isSegment_iff_readsAsName]
  rfl

/-- **Repositories of one host are cloned from different addresses.** -/
theorem cloneUrl_ne {r s : RepositoryRef} (hr : r.isWellFormed = true) (hne : r.pair ≠ s.pair)
    (host : String) : r.cloneUrl host ≠ s.cloneUrl host := by
  intro heq
  have hlists := congrArg String.toList heq
  simp only [cloneUrl, String.toList_append, List.append_assoc, List.append_cancel_left_eq,
    show ("/" : String).toList = ['/'] from rfl, List.cons_append, List.nil_append] at hlists
  -- the only `/` behind the host stands between author and name
  have hauthorSlash := slash_notMem_of_isOrdinary (isOrdinary_author hr)
  have hrepoSlash : '/' ∉ r.repo.toList ++ ".git".toList := by
    rw [List.mem_append, not_or]
    exact ⟨slash_notMem_of_isOrdinary (isOrdinary_repo hr), by decide⟩
  obtain ⟨hauthor, -, hrepo⟩ :=
    (List.append_cons_inj_of_notMem hauthorSlash hrepoSlash).1 (List.cons.inj hlists).2
  exact hne (Prod.ext (String.toList_inj.1 hauthor)
    (String.toList_inj.1 (List.append_cancel_right hrepo)))

end RepositoryRef

/-! ## 3. Where a fetch works -/

namespace Layout

variable {layout : Layout} {r s : RepositoryRef}

/-- The names of a clone behind the root. -/
def cloneNames (r : RepositoryRef) : List Name :=
  [reposName, Text.Utf8.bytes r.author, Text.Utf8.bytes r.repo]

theorem isOrdinary_cloneNames (hr : r.isWellFormed = true) :
    ∀ n ∈ cloneNames r, Name.isOrdinary n = true := by
  intro n hn
  simp only [cloneNames, List.mem_cons, List.not_mem_nil, or_false] at hn
  rcases hn with rfl | rfl | rfl
  · decide
  · exact isOrdinary_author hr
  · exact isOrdinary_repo hr

/-- **A clone stands behind the root, by three names**, however the root is written. -/
theorem components_cloneDir (hr : r.isWellFormed = true) :
    (layout.cloneDir r).components = layout.root.components ++ (cloneNames r).map .normal :=
  Path.components_under layout.root (isOrdinary_cloneNames hr)

/-- **Clones of different authors or names are disjoint.** -/
theorem cloneDir_disjoint (hr : r.isWellFormed = true) (hs : s.isWellFormed = true)
    (hne : r.pair ≠ s.pair) : (layout.cloneDir r).Disjoint (layout.cloneDir s) := by
  have hnames : cloneNames r ≠ cloneNames s := by
    intro heq
    simp only [cloneNames, List.cons.injEq, and_true, true_and] at heq
    exact hne (Prod.ext (bytes_injective heq.1) (bytes_injective heq.2))
  refine (Path.disjoint_under_iff layout.root (isOrdinary_cloneNames hr)
    (isOrdinary_cloneNames hs)).2 ⟨fun h => hnames ?_, fun h => hnames ?_⟩
  · exact h.eq_of_length rfl
  · exact (h.eq_of_length rfl).symm

end Layout

section Fetch

variable {σ : Type} (tools : Toolchain σ) (layout : Layout) (host : String) (r : RepositoryRef)
  (w : World (Logged σ))

/-- A checkout makes no call but one, in the clone. -/
theorem log_of_checkoutReference (clone : Path) :
    ∃ more, (Disk.left (checkoutReference tools.logged r clone w)).tools.log =
        w.tools.log ++ more ∧
      ∀ c ∈ more, ∃ reference, c.call = .checkout clone reference := by
  cases hr : r.reference with
  | none =>
    simp only [checkoutReference, hr]
    exact ⟨[], (List.append_nil _).symm, List.forall_mem_nil _⟩
  | some reference =>
    rw [checkoutReference_eq tools r w hr]
    rcases log_of_run tools (.checkout clone reference) w with ⟨w', h, hlog⟩ | ⟨e, w', h, hlog⟩ <;>
      rw [h] <;> exact ⟨_, hlog, List.forall_mem_singleton.2 ⟨reference, rfl⟩⟩

/-- **All that a fetch does, it does at one path.** What stands there is removed, and on the files
    that this leaves the path is cloned into. -/
structure FetchesInto (url : String) (clone : Path)
    (ended : EStateM.Result FetchError (World (Logged σ)) Path) : Prop where
  /-- A failed removal ends the fetch before any call. -/
  uncleaned : ∀ e fs, removeIfPresent clone w.files = .error e fs →
    ended = .error (.clean clone e) { w with files := fs }
  /-- Behind the removal comes the clone, and behind the clone at most a checkout of it. -/
  cleaned : ∀ fs, removeIfPresent clone w.files = .ok () fs →
    (∃ more, (Disk.left ended).tools.log =
        (Disk.left (tools.logged.run (.clone url clone) { w with files := fs })).tools.log ++ more ∧
      ∀ c ∈ more, ∃ reference, c.call = .checkout clone reference) ∧
    ∀ path, Disk.outcome ended = .ok path → path = clone

theorem fetch_into (hwell : r.isWellFormed = true) :
    FetchesInto tools w (r.cloneUrl host) (layout.cloneDir r)
      (fetch tools.logged layout host r w) := by
  unfold fetch
  rw [if_pos hwell]
  simp only [World.onFiles]
  refine ⟨fun e fs h => by rw [h], fun fs h => ?_⟩
  rw [h]
  simp only
  cases tools.logged.run (.clone (r.cloneUrl host) (layout.cloneDir r)) { w with files := fs } with
  | error e w₁ =>
    exact ⟨⟨[], (List.append_nil _).symm, List.forall_mem_nil _⟩, fun path hpath => by cases hpath⟩
  | ok _ w₁ =>
    have hlog := log_of_checkoutReference tools r w₁ (layout.cloneDir r)
    simp only
    cases hcheckout : checkoutReference tools.logged r (layout.cloneDir r) w₁ with
    | error e w₂ =>
      rw [hcheckout] at hlog
      exact ⟨hlog, fun path hpath => by cases hpath⟩
    | ok _ w₂ =>
      rw [hcheckout] at hlog
      exact ⟨hlog, fun path hpath => (Except.ok.inj hpath).symm⟩

/-- **Only the check refuses a reference.** -/
theorem isWellFormed_of_fetch {shown : String}
    (h : Disk.outcome (fetch tools.logged layout host r w) = .error (.invalidRepository shown)) :
    r.isWellFormed = false := by
  obtain ⟨made, -, hmade⟩ := fetch_inOrder tools layout host r w
  rw [h] at hmade
  rcases hmade.error_cases with ⟨planned, hplanned, cause, heq⟩ | ⟨_, -, hinders⟩
  · -- a call fails with an error of its own step
    simp only [RepositoryRef.plan, List.mem_cons, List.mem_map] at hplanned
    rcases hplanned with rfl | ⟨reference, -, rfl⟩ <;> cases heq
  · rcases hinders with ⟨hwell, -⟩ | ⟨-, source, fs, -, heq⟩
    · exact hwell
    · cases heq

/-- **The check decides what a fetch does, and where.** A reference is refused exactly if author or
    name does not read as one ordinary name, and then nothing is touched or called. One that passes
    is removed and cloned at one path, whose components are those of the root, `repos`, the author
    and the name, whatever the root is. Different references that pass have disjoint paths and
    different addresses. -/
theorem fetch_checksIdentifiers :
    let ended := fetch tools.logged layout host r w
    let clone := layout.cloneDir r
    ((∃ shown w', ended = .error (.invalidRepository shown) w') ↔ ¬ r.ReadsAsNames) ∧
      (¬ r.ReadsAsNames → ended = .error (.invalidRepository r.display) w) ∧
      (r.ReadsAsNames →
        clone.components = layout.root.components ++
            [.normal (Text.Utf8.bytes "repos"), .normal (Text.Utf8.bytes r.author),
              .normal (Text.Utf8.bytes r.repo)] ∧
          FetchesInto tools w (r.cloneUrl host) clone ended ∧
          ∀ s : RepositoryRef, s.ReadsAsNames → (r.author, r.repo) ≠ (s.author, s.repo) →
            clone.Disjoint (layout.cloneDir s) ∧ r.cloneUrl host ≠ s.cloneUrl host) := by
  have hrefused : ¬ r.ReadsAsNames →
      fetch tools.logged layout host r w = .error (.invalidRepository r.display) w := by
    intro h
    rw [fetch, if_neg fun hwell => h (RepositoryRef.isWellFormed_iff_readsAsNames.1 hwell)]
  refine ⟨⟨?_, fun h => ⟨_, _, hrefused h⟩⟩, hrefused, fun h => ?_⟩
  · rintro ⟨shown, w', heq⟩ h
    have hshown : Disk.outcome (fetch tools.logged layout host r w) =
        .error (.invalidRepository shown) := by
      rw [heq]
      rfl
    have hnot := isWellFormed_of_fetch tools layout host r w hshown
    rw [RepositoryRef.isWellFormed_iff_readsAsNames.2 h] at hnot
    cases hnot
  · have hwell := RepositoryRef.isWellFormed_iff_readsAsNames.2 h
    refine ⟨Layout.components_cloneDir hwell, fetch_into tools layout host r w hwell, ?_⟩
    intro s hs hne
    have hwell' := RepositoryRef.isWellFormed_iff_readsAsNames.2 hs
    exact ⟨Layout.cloneDir_disjoint hwell hwell' hne, RepositoryRef.cloneUrl_ne hwell hne host⟩

end Fetch

theorem fetch_checksIdentifiers_twigs :
    let tools := Rehearsal.toolchain {}
    let layout : Layout := ⟨.ofString "./T//"⟩
    let r : RepositoryRef := ⟨"a", "b.git", none⟩
    let s : RepositoryRef := ⟨"a", "b", none⟩
    let split : RepositoryRef := ⟨"a", "b/", none⟩
    let w : World (Logged (List ToolCall)) := ⟨.written [("T", .directory)], [], []⟩
    r.ReadsAsNames ∧ s.ReadsAsNames ∧ ¬ split.ReadsAsNames ∧
      fetch tools.logged layout "h" split w = .error (.invalidRepository "a/b/") w ∧
      (layout.cloneDir r).components = layout.root.components ++
        [.normal (Text.Utf8.bytes "repos"), .normal (Text.Utf8.bytes "a"),
          .normal (Text.Utf8.bytes "b.git")] ∧
      FetchesInto tools w (r.cloneUrl "h") (layout.cloneDir r)
        (fetch tools.logged layout "h" r w) ∧
      (layout.cloneDir r).Disjoint (layout.cloneDir s) ∧ r.cloneUrl "h" ≠ s.cloneUrl "h" := by
  intro tools layout r s split w
  have hr : r.ReadsAsNames := by decide +kernel
  have hs : s.ReadsAsNames := by decide +kernel
  have hsplit : ¬ split.ReadsAsNames := by decide +kernel
  obtain ⟨-, hrefused, -⟩ := fetch_checksIdentifiers tools layout "h" split w
  obtain ⟨-, -, hpassed⟩ := fetch_checksIdentifiers tools layout "h" r w
  obtain ⟨hcomponents, hinto, hother⟩ := hpassed hr
  exact ⟨hr, hs, hsplit, hrefused hsplit, hcomponents, hinto, hother s hs (by decide)⟩

end TemplatePress
