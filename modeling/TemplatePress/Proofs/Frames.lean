import TemplatePress.Fetch
import TemplatePress.Proofs.Packages

/-!
# What fetching and building leave alone

* a well-formed reference names two ordinary path segments (`isOrdinary_of_isSegment`);
* `fetch_framed`: fetching touches the clone's place, and adds the directories missing above it;
* `Call`: one fetch or one build, and `runCalls`: any number of them in any order;
* `Guarded`: what every call needs of the files and keeps, namely that no link stands on the way to
  a place that a call may touch (`Guarded.of_framed`);
* `runCalls_framed`: after any calls only the places of the packages and clones that were asked for
  may differ, with new directories above them. The reference package never differs, and no build
  changes a clone.
-/

namespace TemplatePress

open FileSystem

/-! ## 1. Names of clones -/

/-- A byte below `0x80` is only written for its own character. -/
theorem val_of_mem_utf8EncodeChar {c : Char} {b : UInt8} (h : b ∈ String.utf8EncodeChar c)
    (hb : b.toNat < 0x80) : c.val.toNat = b.toNat := by
  simp only [String.utf8EncodeChar] at h
  split at h
  · rw [List.mem_singleton] at h
    rw [h, UInt8.toNat_ofNat']
    omega
  · split at h
    · simp only [List.mem_cons, List.not_mem_nil, or_false] at h
      rcases h with h | h <;> rw [h, UInt8.toNat_ofNat'] at hb <;> omega
    · split at h
      · simp only [List.mem_cons, List.not_mem_nil, or_false] at h
        rcases h with h | h | h <;> rw [h, UInt8.toNat_ofNat'] at hb <;> omega
      · simp only [List.mem_cons, List.not_mem_nil, or_false] at h
        rcases h with h | h | h | h <;> rw [h, UInt8.toNat_ofNat'] at hb <;> omega

theorem bytes_injective : Function.Injective Text.Utf8.bytes := by
  intro s t h
  have hbytes : ∀ u : String, (Text.Utf8.bytes u).toByteArray = u.toByteArray :=
    fun u => String.utf8Encode_toList
  rw [← String.toByteArray_inj, ← hbytes s, ← hbytes t, h]

/-- **A segment is written as an ordinary name.** -/
theorem isOrdinary_of_isSegment {s : String} (h : RepositoryRef.isSegment s = true) :
    Name.isOrdinary (Text.Utf8.bytes s) = true := by
  simp only [RepositoryRef.isSegment, Bool.and_eq_true, bne_iff_ne, Bool.not_eq_true',
    List.contains_eq_mem, decide_eq_false_iff_not] at h
  obtain ⟨⟨⟨hne, hhere⟩, habove⟩, hslash⟩ := h
  refine Name.isOrdinary_iff.2 ⟨fun e => hne ?_, fun e => hhere ?_, fun e => habove ?_, fun e => ?_⟩
  · exact bytes_injective (e.trans (show [] = Text.Utf8.bytes "" from rfl))
  · exact bytes_injective (e.trans (by decide))
  · exact bytes_injective (e.trans (by decide))
  · obtain ⟨c, hc, hmem⟩ := List.mem_flatMap.1 e
    have hval := val_of_mem_utf8EncodeChar hmem (by decide)
    have : c = '/' := Char.ext (UInt32.toNat_inj.1 hval)
    exact hslash (this ▸ hc)

/-! ## 2. Fetching -/

namespace Layout

/-- The name of the directory of all clones. -/
def reposName : Name := Text.Utf8.bytes "repos"

/-- Where the clone of a repository stands below the place of the root. -/
def clonePlace (root : Location) (r : RepositoryRef) : Location :=
  root ++ [reposName, Text.Utf8.bytes r.author, Text.Utf8.bytes r.repo]

/-- Where the package of a name stands below the place of the root. -/
def packagePlace (root : Location) (name : Name) : Location :=
  root ++ [Package.dirName name]

/-- The directory of an author's clones. -/
def authorDir (l : Layout) (author : String) : Path :=
  l.reposDir.join ⟨Text.Utf8.bytes author⟩

end Layout

section Fetch

variable {σ : Type} {tools : Toolchain σ} {r : Rehearsal} (ht : tools.Rehearses r)
  {layout : Layout} {w : World σ}

theorem perform_clone_framed {fs : FileSystem} {p : Path} {dir : Location} {n : Name}
    (r : Rehearsal) (hh : Hosts fs (Below (dir ++ [n])) p dir) (hn : Name.isOrdinary n = true)
    (hnone : fs.at? (dir ++ [n]) = none) (url : String) :
    Framed (dir ++ [n]) fs (Disk.left (r.perform (.clone url (p.join ⟨n⟩)) fs)) := by
  simp only [Rehearsal.perform]
  split
  · exact Framed.refl _ _
  · cases r.fixture with
    | none =>
      have hf := (makeDirectories_hosts hh hn hnone).1.framed
      simp only
      split <;> rename_i heq <;> rw [heq] at hf <;> exact hf
    | some fixture =>
      have hf := copyLevels_hosts hh hn hnone pathLimit fixture
      simp only [copyTree]
      split <;> rename_i heq <;> rw [heq] at hf <;> exact hf

include ht

theorem checkoutReference_left (repository : RepositoryRef) (clone : Path) :
    (Disk.left (checkoutReference tools repository clone w)).files = w.files := by
  cases hr : repository.reference with
  | none =>
    simp only [checkoutReference, hr]
    rfl
  | some reference =>
    have hkept : (Disk.left (tools.run (.checkout clone reference) w)).files = w.files :=
      ht.left (P := fun fs => fs = w.files) rfl rfl
    simp only [checkoutReference, hr]
    split <;> rename_i heq <;> rw [heq] at hkept <;> exact hkept

/-- **Fetching touches the clone's place, and adds the directories missing above it.** -/
theorem fetch_framed (host : String) {repository : RepositoryRef} {dir : Location}
    (hwell : repository.isWellFormed = true)
    (hh : Hosts w.files (Below (dir ++ [Text.Utf8.bytes repository.repo]))
      (layout.authorDir repository.author) dir) :
    Framed (dir ++ [Text.Utf8.bytes repository.repo]) w.files
      (Disk.left (fetch tools layout host repository w)).files := by
  have hn : Name.isOrdinary (Text.Utf8.bytes repository.repo) = true :=
    isOrdinary_of_isSegment (Bool.and_eq_true_iff.1 hwell).2
  have hdest : layout.cloneDir repository =
      (layout.authorDir repository.author).join ⟨Text.Utf8.bytes repository.repo⟩ := rfl
  unfold fetch
  rw [if_pos hwell]
  simp only [World.onFiles, hdest]
  have hkept := kept_prune w.files (dir ++ [Text.Utf8.bytes repository.repo])
  have hnone := at?_prune_self w.files (dir ++ [Text.Utf8.bytes repository.repo]) (by simp)
  rcases removeIfPresent_hosts hh hn with heq | ⟨e, heq⟩ <;> rw [heq]
  · -- the clone
    have hclone : Framed (dir ++ [Text.Utf8.bytes repository.repo]) w.files
        (Disk.left (tools.run (.clone (repository.cloneUrl host)
          ((layout.authorDir repository.author).join ⟨Text.Utf8.bytes repository.repo⟩))
          { w with files := w.files.prune (dir ++ [Text.Utf8.bytes repository.repo]) })).files :=
      ht.left (w := { w with files := w.files.prune (dir ++ [Text.Utf8.bytes repository.repo]) })
        hkept.framed (hkept.framed.trans
          (perform_clone_framed r (hh.of_framed (fun _ => id) hkept.framed) hn hnone _))
    simp only
    split
    · rename_i heq
      rw [heq] at hclone
      exact hclone
    · rename_i w₂ heq
      rw [heq] at hclone
      have hcheckout := checkoutReference_left ht (w := w₂) repository
        ((layout.authorDir repository.author).join ⟨Text.Utf8.bytes repository.repo⟩)
      split <;> rename_i heq <;> rw [heq] at hcheckout
      · rw [Disk.left_error] at hcheckout ⊢
        rw [hcheckout]
        exact hclone
      · rw [Disk.left_ok] at hcheckout ⊢
        rw [hcheckout]
        exact hclone
  · exact Framed.refl _ _

end Fetch

/-! ## 3. Calls -/

/-- One fetch or one build. -/
inductive Call where
  | fetch (host : String) (repository : RepositoryRef)
  | generate (options : PackageOptions) (folder : TemplateFolder)

/-- What a call leaves, whether it fails or not. -/
def Call.act {σ : Type} (tools : Toolchain σ) (layout : Layout) (w : World σ) : Call → World σ
  | .fetch host repository => Disk.left (TemplatePress.fetch tools layout host repository w)
  | .generate options folder => Disk.left (TemplatePress.generate tools layout options folder w)

/-- What calls leave that are made one after the other. -/
def runCalls {σ : Type} (tools : Toolchain σ) (layout : Layout) (calls : List Call)
    (w : World σ) : World σ :=
  calls.foldl (Call.act tools layout) w

/-- The places that a call may touch, below the place of the root. -/
def Call.Touches (root : Location) (top : Location) : Call → Prop
  | .fetch _ repository =>
    repository.isWellFormed = true ∧ top = Layout.clonePlace root repository
  | .generate _ folder => ∃ name, folder.Builds name ∧ top = Layout.packagePlace root name

/-- At and below some locations anything may differ; elsewhere only missing directories above them
    are new. -/
structure FramedBy (tops : Location → Prop) (fs fs' : FileSystem) : Prop where
  home : fs'.home = fs.home
  entry : ∀ loc, (∃ top, tops top ∧ Below top loc) ∨ fs'.at? loc = fs.at? loc ∨
    ∃ top, tops top ∧ loc <+: top ∧ fs.at? loc = none ∧ fs'.at? loc = some .directory

namespace FramedBy

variable {tops tops' : Location → Prop} {fs fs' fs'' : FileSystem}

theorem refl (tops : Location → Prop) (fs : FileSystem) : FramedBy tops fs fs :=
  ⟨rfl, fun _ => Or.inr (Or.inl rfl)⟩

theorem trans (h : FramedBy tops fs fs') (h' : FramedBy tops fs' fs'') : FramedBy tops fs fs'' := by
  refine ⟨h'.home.trans h.home, fun loc => ?_⟩
  rcases h.entry loc with hin | heq | ⟨top, htop, hup, hnone, hdir⟩
  · exact Or.inl hin
  · rw [← heq]
    exact h'.entry loc
  · rcases h'.entry loc with hin | heq' | ⟨_, _, _, hnone', _⟩
    · exact Or.inl hin
    · exact Or.inr (Or.inr ⟨top, htop, hup, hnone, heq'.trans hdir⟩)
    · rw [hdir] at hnone'
      cases hnone'

theorem mono (h : FramedBy tops fs fs') (ht : ∀ top, tops top → tops' top) :
    FramedBy tops' fs fs' := by
  refine ⟨h.home, fun loc => ?_⟩
  rcases h.entry loc with ⟨top, htop, hin⟩ | heq | ⟨top, htop, hnew⟩
  · exact Or.inl ⟨top, ht top htop, hin⟩
  · exact Or.inr (Or.inl heq)
  · exact Or.inr (Or.inr ⟨top, ht top htop, hnew⟩)

/-- Outside all the locations and away from what is above them, nothing differs. -/
theorem eq_of_apart (h : FramedBy tops fs fs') {loc : Location}
    (hloc : ∀ top, tops top → ¬ Below top loc ∧ ¬ loc <+: top) : fs'.at? loc = fs.at? loc := by
  rcases h.entry loc with ⟨top, htop, hin⟩ | heq | ⟨top, htop, hup, -⟩
  · exact absurd hin (hloc top htop).1
  · exact heq
  · exact absurd hup (hloc top htop).2

end FramedBy

theorem FileSystem.Framed.framedBy {top : Location} {fs fs' : FileSystem} (h : Framed top fs fs')
    {tops : Location → Prop} (htop : tops top) : FramedBy tops fs fs' := by
  refine ⟨h.home, fun loc => ?_⟩
  by_cases hloc : top <+: loc
  · exact Or.inl ⟨top, htop, hloc⟩
  · exact Or.inr ((h.entry loc hloc).imp_right fun hnew => ⟨top, htop, hnew⟩)

/-! ## 4. What keeps a call to its places -/

theorem dirName_ne_reposName (name : Name) : Package.dirName name ≠ Layout.reposName := by
  intro h
  have hsuffix : Text.Utf8.bytes ".sr" <:+ Layout.reposName := by
    rw [← h]
    exact List.suffix_append _ _
  revert hsuffix
  decide

/-- No link stands on the way to the root, at the directory of all clones, or at the directory of
    an author from whom a call fetches. -/
structure Guarded (layout : Layout) (root : Location) (calls : List Call) (fs : FileSystem) :
    Prop where
  straight : fs.Straight layout.root
  place : root = fs.place layout.root
  repos : ∀ target, fs.at? (root ++ [Layout.reposName]) ≠ some (.link target)
  author : ∀ host repository, Call.fetch host repository ∈ calls →
    repository.isWellFormed = true → ∀ target,
      fs.at? (root ++ [Layout.reposName, Text.Utf8.bytes repository.author]) ≠ some (.link target)

section Calls

variable {layout : Layout} {root : Location} {calls : List Call} {fs fs' : FileSystem}

/-- A touched place is two or more names below the directory of all clones, or beside it. -/
theorem not_below_of_touches {call : Call} {top : Location} (h : call.Touches root top)
    {loc : Location} (hloc : loc <+: root ∨ loc = root ++ [Layout.reposName] ∨
      ∃ author : Name, loc = root ++ [Layout.reposName, author]) : ¬ Below top loc := by
  intro hbelow
  have hlen := hbelow.length_le
  cases call with
  | fetch host repository =>
    obtain ⟨-, rfl⟩ := h
    simp only [Layout.clonePlace, List.length_append, List.length_cons, List.length_nil] at hlen
    rcases hloc with hup | rfl | ⟨author, rfl⟩
    · have := hup.length_le
      omega
    · simp at hlen
    · simp at hlen
  | generate options folder =>
    obtain ⟨name, -, rfl⟩ := h
    have hrepos : ∀ more : List Name, ¬ Layout.packagePlace root name <+:
        root ++ Layout.reposName :: more := by
      intro more hpre
      rw [Layout.packagePlace, List.prefix_append_right_inj, List.cons_prefix_cons] at hpre
      exact dirName_ne_reposName name hpre.1
    rcases hloc with hup | rfl | ⟨author, rfl⟩
    · have := hup.length_le
      simp only [Layout.packagePlace, List.length_append, List.length_cons,
        List.length_nil] at hlen
      omega
    · exact hrepos [] hbelow
    · exact hrepos [author] hbelow

/-- **A touched place leaves the guard standing.** -/
theorem Guarded.of_framed (h : Guarded layout root calls fs) {call : Call} {top : Location}
    (htop : call.Touches root top) (hf : Framed top fs fs') : Guarded layout root calls fs' := by
  have hplace : fs'.place layout.root = fs.place layout.root := place_of_home hf.home layout.root
  refine ⟨h.straight.of_links hf.home fun ns hns target hat => ?_, h.place.trans hplace.symm,
    fun target hat => ?_, fun host repository hmem hwell target hat => ?_⟩
  · refine hf.link (not_below_of_touches htop (Or.inl ?_)) hat
    rw [h.place, FileSystem.place]
    exact (List.prefix_append_right_inj _).2 hns
  · exact h.repos target (hf.link (not_below_of_touches htop (Or.inr (Or.inl rfl))) hat)
  · exact h.author host repository hmem hwell target
      (hf.link (not_below_of_touches htop (Or.inr (Or.inr ⟨_, rfl⟩))) hat)

/-- A path to another entry of a directory neither begins with what is below one nor is begun by
    it. -/
theorem apart_of_ne {dir : Location} {n m : Name} (hne : n ≠ m) {more : List Name} {loc : Location}
    (hloc : Below (dir ++ [n]) loc) : ¬ Below (dir ++ m :: more) loc ∧ ¬ loc <+: dir ++ m :: more := by
  have hm : Below (dir ++ [m]) (dir ++ m :: more) := ⟨more, by simp⟩
  exact ⟨fun hb => hne (eq_of_below hloc (below_of_below hm hb)),
    fun hup => hne (eq_of_below (below_of_below hloc hup) hm)⟩

/-- Where there are no links the path of the reference metadata is straight. -/
theorem straight_referenceMetadata {fs : FileSystem} {layout : Layout} (hfree : fs.LinkFree [])
    (hup : layout.root.NeverUp) : fs.Straight layout.referenceMetadata :=
  straight_of_linkFree hfree ((Path.neverUp_join_name _ (by decide)).2
    ((Path.neverUp_join_name layout.root (by decide)).2 hup))

/-- The reference metadata is in the reference package. -/
theorem below_referenceMetadata (fs : FileSystem) (layout : Layout) :
    Below (Layout.packagePlace (fs.place layout.root) (Text.Utf8.bytes Layout.referencePackage))
      (fs.place layout.referenceMetadata) := by
  have hplace : fs.place layout.referenceMetadata =
      Layout.packagePlace (fs.place layout.root) (Text.Utf8.bytes Layout.referencePackage) ++
        [Package.metadataName] := by
    rw [Layout.packagePlace, ← place_join fs layout.root (by decide)]
    exact place_join fs _ (by decide)
  rw [hplace]
  exact List.prefix_append _ _

/-- No call touches the reference package, or anything above it. -/
theorem reference_apart {call : Call} {top : Location} (h : call.Touches root top) {loc : Location}
    (hloc : Below (Layout.packagePlace root (Text.Utf8.bytes Layout.referencePackage)) loc) :
    ¬ Below top loc ∧ ¬ loc <+: top := by
  cases call with
  | fetch host repository =>
    obtain ⟨-, rfl⟩ := h
    exact apart_of_ne (dirName_ne_reposName _) hloc
  | generate options folder =>
    obtain ⟨name, hb, rfl⟩ := h
    exact apart_of_ne (fun heq => hb.2 (Package.dirName_injective heq).symm) hloc

/-- No build touches a clone, or anything above it. -/
theorem repos_apart {options : PackageOptions} {folder : TemplateFolder} {top : Location}
    (h : (Call.generate options folder).Touches root top) {loc : Location}
    (hloc : Below (root ++ [Layout.reposName]) loc) : ¬ Below top loc ∧ ¬ loc <+: top := by
  obtain ⟨name, -, rfl⟩ := h
  exact apart_of_ne (dirName_ne_reposName name).symm hloc

variable {σ : Type} {tools : Toolchain σ} {r : Rehearsal} (ht : tools.Rehearses r) {w : World σ}

include ht

/-- **A call touches its places only.** -/
theorem act_framed {call : Call} (hmem : call ∈ calls) (h : Guarded layout root calls w.files) :
    (∃ top, call.Touches root top ∧ Framed top w.files (call.act tools layout w).files) ∨
      call.act tools layout w = w := by
  cases call with
  | fetch host repository =>
    by_cases hwell : repository.isWellFormed = true
    · have hauthor : Name.isOrdinary (Text.Utf8.bytes repository.author) = true :=
        isOrdinary_of_isSegment (Bool.and_eq_true_iff.1 hwell).1
      have hrepos : w.files.Straight layout.reposDir := by
        refine h.straight.join (n := Layout.reposName) (by decide) fun target => ?_
        rw [← h.place]
        exact h.repos target
      have hplace : w.files.place layout.reposDir = root ++ [Layout.reposName] := by
        rw [h.place]
        exact place_join w.files layout.root (n := Layout.reposName) (by decide)
      have hplace' : w.files.place (layout.authorDir repository.author) =
          root ++ [Layout.reposName] ++ [Text.Utf8.bytes repository.author] := by
        rw [← hplace]
        exact place_join w.files layout.reposDir hauthor
      have hs : w.files.Straight (layout.authorDir repository.author) := by
        refine hrepos.join hauthor fun target => ?_
        rw [hplace, List.append_assoc]
        exact h.author host repository hmem hwell target
      have hf := fetch_framed ht host hwell (Or.inr ⟨hs, hplace'.symm⟩)
      refine Or.inl ⟨_, ⟨hwell, rfl⟩, ?_⟩
      simpa [Layout.clonePlace, Call.act] using hf
    · refine Or.inr ?_
      simp only [Call.act, TemplatePress.fetch, if_neg hwell, Disk.left_error]
  | generate options folder =>
    by_cases hb : ∃ name, folder.Builds name
    · obtain ⟨name, hb⟩ := hb
      exact Or.inl ⟨_, ⟨name, hb, rfl⟩, generate_framed ht hb (Or.inr ⟨h.straight, h.place⟩)⟩
    · exact Or.inr (generate_refused hb)

/-- **Calls touch their places only**, one after the other. -/
theorem runCalls_touches {made : List Call} (hmade : ∀ call ∈ made, call ∈ calls)
    (h : Guarded layout root calls w.files) :
    FramedBy (fun top => ∃ call ∈ made, call.Touches root top) w.files
        (runCalls tools layout made w).files ∧
      Guarded layout root calls (runCalls tools layout made w).files := by
  induction made generalizing w with
  | nil => exact ⟨FramedBy.refl _ _, h⟩
  | cons call rest ih =>
    have hrest : ∀ call ∈ rest, call ∈ calls := fun c hc => hmade c (List.mem_cons_of_mem _ hc)
    have hmono : ∀ {fs fs' : FileSystem},
        FramedBy (fun top => ∃ c ∈ rest, c.Touches root top) fs fs' →
        FramedBy (fun top => ∃ c ∈ call :: rest, c.Touches root top) fs fs' :=
      fun hf => hf.mono fun top ⟨c, hc, htop⟩ => ⟨c, List.mem_cons_of_mem _ hc, htop⟩
    rcases act_framed ht (hmade call List.mem_cons_self) h with ⟨top, htop, hf⟩ | heq
    · obtain ⟨hframed, hguarded⟩ := ih hrest (h.of_framed htop hf)
      exact ⟨(hf.framedBy ⟨call, List.mem_cons_self, htop⟩).trans (hmono hframed), hguarded⟩
    · obtain ⟨hframed, hguarded⟩ := ih hrest h
      rw [show runCalls tools layout (call :: rest) w =
        runCalls tools layout rest (call.act tools layout w) from rfl, heq]
      exact ⟨hmono hframed, hguarded⟩

/-- **After any calls only the places of the packages and clones that were asked for may differ**,
    with new directories above them. The reference package never differs, and no build changes a
    clone. -/
theorem runCalls_framed (hroot : w.files.Straight layout.root)
    (hplace : root = w.files.place layout.root)
    (hrepos : w.files.at? (root ++ [Layout.reposName]) = none ∨
      w.files.at? (root ++ [Layout.reposName]) = some .directory)
    (hauthors : ∀ host repository, Call.fetch host repository ∈ calls →
      repository.isWellFormed = true →
      w.files.at? (root ++ [Layout.reposName, Text.Utf8.bytes repository.author]) = none ∨
        w.files.at? (root ++ [Layout.reposName, Text.Utf8.bytes repository.author]) =
          some .directory) :
    FramedBy (fun top => ∃ call ∈ calls, call.Touches root top) w.files
        (runCalls tools layout calls w).files ∧
      (∀ loc, Below (Layout.packagePlace root (Text.Utf8.bytes Layout.referencePackage)) loc →
        (runCalls tools layout calls w).files.at? loc = w.files.at? loc) ∧
      ∀ made options folder, made ++ [Call.generate options folder] <+: calls →
        ∀ loc, Below (root ++ [Layout.reposName]) loc →
          (runCalls tools layout (made ++ [Call.generate options folder]) w).files.at? loc =
            (runCalls tools layout made w).files.at? loc := by
  have hnolink : ∀ {loc : Location}, w.files.at? loc = none ∨ w.files.at? loc = some .directory →
      ∀ target, w.files.at? loc ≠ some (.link target) := by
    rintro loc (hat | hat) target <;> simp [hat]
  have hguarded : Guarded layout root calls w.files :=
    ⟨hroot, hplace, hnolink hrepos, fun host repository hmem hwell =>
      hnolink (hauthors host repository hmem hwell)⟩
  have hframed := (runCalls_touches ht (fun _ => id) hguarded).1
  refine ⟨hframed, fun loc hloc => hframed.eq_of_apart ?_, fun made options folder hmade loc hloc => ?_⟩
  · rintro top ⟨call, -, htop⟩
    exact reference_apart htop hloc
  · have hmem : ∀ call ∈ made ++ [Call.generate options folder], call ∈ calls :=
      fun call hcall => hmade.subset hcall
    have hmid := (runCalls_touches ht
      (fun call hcall => hmem call (List.mem_append_left _ hcall)) hguarded).2
    have hlast : FramedBy (fun top => ∃ call ∈ [Call.generate options folder],
        call.Touches root top) _ _ :=
      (runCalls_touches ht (fun call hcall => hmem call (List.mem_append_right _ hcall)) hmid).1
    rw [runCalls, List.foldl_append]
    refine hlast.eq_of_apart ?_
    rintro top ⟨call, hcall, htop⟩
    rw [List.mem_singleton] at hcall
    subst hcall
    exact repos_apart htop hloc

end Calls

/-- A reference package, a template and a directory to clone. -/
def workshop : FileSystem :=
  .written [("T", .directory), ("T/Empty.sr", .directory),
    ("T/Empty.sr/Serifian.plist", .file (Text.Utf8.bytes "m") false),
    ("s", .directory), ("s/x", .directory),
    ("s/x/main.typ", .file (Text.Utf8.bytes "= X") false),
    ("f", .directory), ("f/main.typ", .file (Text.Utf8.bytes "= F") true)]

theorem runCalls_framed_workshop :
    let tools := (Rehearsal.toolchain { fixture := some (.ofString "f") }).withFaults
      [⟨.compile, some 1, .io (.os .notFound)⟩]
    let w : World (Counted (List ToolCall)) := ⟨workshop, ⟨[], []⟩⟩
    let root : Location := [Text.Utf8.bytes "T"]
    let calls := [Call.fetch "h" ⟨"a", "r", none⟩, Call.generate {} ⟨.ofString "s/x"⟩,
      Call.generate {} ⟨.ofString "s/Empty"⟩]
    FramedBy (fun top => ∃ call ∈ calls, call.Touches root top) w.files
        (runCalls tools ⟨.ofString "T"⟩ calls w).files ∧
      (∀ loc, Below (Layout.packagePlace root (Text.Utf8.bytes Layout.referencePackage)) loc →
        (runCalls tools ⟨.ofString "T"⟩ calls w).files.at? loc = w.files.at? loc) ∧
      ∀ made options folder, made ++ [Call.generate options folder] <+: calls →
        ∀ loc, Below (root ++ [Layout.reposName]) loc →
          (runCalls tools ⟨.ofString "T"⟩ (made ++ [Call.generate options folder]) w).files.at? loc =
            (runCalls tools ⟨.ofString "T"⟩ made w).files.at? loc := by
  intro tools w root calls
  have hnew : ∀ author : Name, workshop.at? (root ++ [Layout.reposName, author]) = none := by
    intro author
    have hrepos : workshop.at? (root ++ [Layout.reposName]) ≠ some .directory := by decide +kernel
    exact at?_cons_eq_none hrepos (List.cons_ne_nil author [])
  exact runCalls_framed (rehearses_withFaults (rehearses_toolchain _) _)
    (by decide +kernel : workshop.Straight (.ofString "T")) (by decide +kernel)
    (Or.inl (by decide +kernel)) fun _ _ _ _ => Or.inl (hnew _)

end TemplatePress
