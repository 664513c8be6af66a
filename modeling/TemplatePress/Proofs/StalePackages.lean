import TemplatePress.Proofs.Clones
import TemplatePress.Proofs.Views

/-!
# Stale packages

What stands at the place of a package before it is built has no part in the build. This file fixes:

* `EqualBeside`: two file systems differ at one place only. Once a directory is made anew at that
  place in both, nothing tells them apart (`sameView_of_prepared`);
* `prepare_beside`: two such places are prepared alike, or both are refused and kept;
* a place that was refused is refused again, with nothing new above it (`prepare_refused_again`),
  and one that was prepared and filled is prepared again (`prepare_grown`);
* `MeetAlike`: in two states of a toolchain the next call of each kind meets the same fault;
* `generate_ignores_previous`: a build answers the same whatever stood at its place, and leaves the
  same files; once more it changes nothing.
-/

namespace TemplatePress

open FileSystem

namespace FileSystem

/-! ## 1. Equal beside one place -/

theorem Kept.symm {region : Location → Prop} {fs fs' : FileSystem} (h : Kept region fs fs') :
    Kept region fs' fs :=
  ⟨⟨h.outside.home.symm, fun loc hloc => (h.outside.entry loc hloc).symm⟩,
    fun dir hdir => (h.listing dir hdir).symm⟩

/-- The file systems differ at one name of a directory and below only, and the directory lists the
    same besides. -/
structure EqualBeside (dir : Location) (n : Name) (fs fs' : FileSystem) : Prop where
  kept : Kept (Below (dir ++ [n])) fs fs'
  beside : ((fs'.children dir).filter fun x => x.1 ≠ n) = (fs.children dir).filter fun x => x.1 ≠ n

/-- No name is over the limit, as on every disk. -/
def NamesFit (fs : FileSystem) : Prop :=
  ∀ dir n, fs.at? (dir ++ [n]) ≠ none → n.length ≤ nameLimit

theorem namesFit_of_entries {fs : FileSystem}
    (h : ∀ x ∈ fs.entries, ∀ n ∈ x.1, n.length ≤ nameLimit) : NamesFit fs := by
  intro dir n hat
  obtain ⟨e, he⟩ := Option.ne_none_iff_exists'.1 hat
  exact h _ ((at?_eq_some_iff (by simp)).1 he) n (by simp)

/-- Names that lead to something are within the limit. -/
theorem NamesFit.short {fs : FileSystem} (h : NamesFit fs) {loc : Location} {names : List Name}
    (hat : fs.at? (loc ++ names) ≠ none) : ∀ m ∈ names, m.length ≤ nameLimit := by
  induction names using List.reverseRecOn with
  | nil => exact nofun
  | append_singleton front n ih =>
    rw [← List.append_assoc] at hat
    obtain ⟨e, he⟩ := Option.ne_none_iff_exists'.1 hat
    have hfront : fs.at? (loc ++ front) ≠ none := by
      rw [isDirectory_iff.1 (isDirectory_of_at? he)]
      exact Option.some_ne_none _
    exact List.forall_mem_append.2 ⟨ih hfront, by simpa using h _ n hat⟩

/-- Whatever is put at a place, the file systems are equal beside it. -/
theorem equalBeside_put {fs : FileSystem} {dir : Location} {n : Name} {e : Entry}
    (ha : fs.admits dir n e = true) : EqualBeside dir n fs (fs.put dir n e) := by
  refine ⟨⟨⟨put_home fs dir n e, fun loc hloc => ?_⟩, sameListings_put ha List.prefix_rfl⟩, ?_⟩
  · rw [at?_put ha, if_neg]
    rintro rfl
    exact hloc List.prefix_rfl
  · rw [children_put ha, if_pos rfl, putListed]
    split
    · rw [List.filter_map]
      have hsame : ∀ x : Name × Entry, ((if x.1 = n then (n, e) else x).1 ≠ n) = (x.1 ≠ n) := by
        intro x
        by_cases hx : x.1 = n <;> simp [hx]
      rw [List.filter_congr (q := fun x => x.1 ≠ n) fun x _ => by
        simp only [Function.comp_apply, hsame]]
      refine (List.map_congr_left fun x hx => ?_).trans (List.map_id _)
      rw [if_neg (by simpa using (List.mem_filter.1 hx).2), id]
    · simp

section Beside

variable {fs fs' a b : FileSystem} {p : Path} {dir : Location} {n : Name}

/-- **Where the one place holds the same and nothing below, nothing tells the file systems
    apart.** -/
theorem sameView_of_kept (h : Kept (Below (dir ++ [n])) a b)
    (hat : b.at? (dir ++ [n]) = a.at? (dir ++ [n])) (hlisted : b.children dir = a.children dir)
    (ha : ∀ ns, ns ≠ [] → a.at? (dir ++ [n] ++ ns) = none)
    (hb : ∀ ns, ns ≠ [] → b.at? (dir ++ [n] ++ ns) = none) : SameView a b := by
  refine ⟨h.outside.home, fun loc => ?_, fun d => ?_⟩
  · by_cases hin : Below (dir ++ [n]) loc
    · obtain ⟨ns, rfl⟩ := hin
      by_cases hns : ns = []
      · rw [hns, List.append_nil, hat]
      · rw [ha ns hns, hb ns hns]
    · exact h.outside.entry loc hin
  · by_cases hin : Below (dir ++ [n]) d
    · rw [children_of_empty ha hin, children_of_empty hb hin]
    · by_cases hd : d = dir
      · rw [hd, hlisted]
      · refine h.listing d fun m hm => ?_
        rcases List.prefix_concat_iff.1 hm with heq | hup
        · exact hd (List.append_inj_left' heq rfl).symm
        · exact hin hup

/-- Two file systems in which a place is prepared are the same to see, if they are the same beside
    it. -/
theorem sameView_of_prepared (ha : Prepared a p dir n) (hb : Prepared b p dir n)
    (h : Kept (Below (dir ++ [n])) a b) (hlisted : b.children dir = a.children dir) :
    SameView a b :=
  sameView_of_kept h (hb.directory.trans ha.directory.symm) hlisted ha.empty hb.empty

/-- Where nothing stands at the one place, nothing tells the file systems apart. -/
theorem EqualBeside.sameView (h : EqualBeside dir n fs fs') (hnone : fs.at? (dir ++ [n]) = none)
    (hnone' : fs'.at? (dir ++ [n]) = none) : SameView fs fs' := by
  have hempty : ∀ {c : FileSystem}, c.at? (dir ++ [n]) = none →
      ∀ ns, ns ≠ [] → c.at? (dir ++ [n] ++ ns) = none :=
    fun hc ns hns => at?_append_eq_none (by simp [hc]) hns
  have hall : ∀ {c : FileSystem}, c.at? (dir ++ [n]) = none →
      ((c.children dir).filter fun x => x.1 ≠ n) = c.children dir := by
    intro c hc
    refine List.filter_eq_self.2 fun x hx => ?_
    have hx := mem_children.1 hx
    simp only [ne_eq, decide_not, Bool.not_eq_true', decide_eq_false_iff_not]
    rintro rfl
    rw [hc] at hx
    cases hx
  refine sameView_of_kept h.kept (hnone'.trans hnone.symm) ?_ (hempty hnone) (hempty hnone')
  rw [← hall hnone', h.beside, hall hnone]

/-- The directory above the place is not at the place. -/
theorem not_below_above (dir : Location) (n : Name) {loc : Location} (hloc : loc <+: dir) :
    ¬ Below (dir ++ [n]) loc := by
  intro hb
  have := (hb.trans hloc).length_le
  rw [List.length_append, List.length_singleton] at this
  omega

theorem EqualBeside.straight (h : EqualBeside (fs.place p) n fs fs') (hs : fs.Straight p) :
    fs'.Straight p := by
  refine hs.of_links h.kept.outside.home fun ns hns target hat => ?_
  rwa [← h.kept.outside.entry _ (not_below_above _ n ((List.prefix_append_right_inj _).2 hns))]

theorem EqualBeside.isDirectory (h : EqualBeside dir n fs fs') :
    fs'.isDirectory dir = fs.isDirectory dir := by
  rw [FileSystem.isDirectory, FileSystem.isDirectory,
    h.kept.outside.entry _ (not_below_above dir n List.prefix_rfl)]

end Beside

/-! ## 2. Preparing two such places -/

section Prepare

variable {fs fs' : FileSystem} {p : Path} {n : Name}

/-- **Behind directories that stand, a name over the limit refuses the place**, which is kept. -/
theorem prepare_blocked (hs : fs.Straight p) (hn : Name.isOrdinary n = true)
    (hc : checkPath (p.join ⟨n⟩) = .ok ()) (h : Blocked fs (fs.start p) (p.names ++ [n])) :
    Package.prepare (p.join ⟨n⟩) fs = .error (.os .nameTooLong) fs := by
  have hspot := spot_descend hs hn hc
  rw [descend_of_blocked h] at hspot
  have hlstat : fs.lstat? (p.join ⟨n⟩) = .error (.os .nameTooLong) := by
    simp only [lstat?, Path.endsInSeparator_join_name p hn, hspot]
  simp only [Package.prepare, removeIfPresent, hlstat]
  rfl

/-- Where the directory above stands and no limit is met, both places are made anew. -/
theorem prepare_standing (hs : fs.Straight p) (hn : Name.isOrdinary n = true)
    (h : EqualBeside (fs.place p) n fs fs') (hdir : fs.isDirectory (fs.place p) = true)
    (hc : checkPath (p.join ⟨n⟩) = .ok ()) (hshort : ∀ m ∈ p.names ++ [n], m.length ≤ nameLimit) :
    Agree SameView (Package.prepare (p.join ⟨n⟩) fs) (Package.prepare (p.join ⟨n⟩) fs') := by
  obtain ⟨hnames, hlen⟩ := List.forall_mem_append.1 hshort
  have hs' := h.straight hs
  have hplace : fs'.place p = fs.place p := place_of_home h.kept.outside.home p
  have hdir' : fs'.isDirectory (fs'.place p) = true := by rwa [hplace, h.isDirectory]
  have hcheck : nameCheck p n = .ok () := by
    rw [nameCheck_of_checkPath hc, if_neg (by have := hlen n (by simp); omega)]
  obtain ⟨a, ha⟩ := exists_prepare_eq_ok (Or.inr ⟨hs, rfl⟩) hn
    (leads_of_isDirectory hs.1 hnames hdir) hcheck
  obtain ⟨b, hb⟩ := exists_prepare_eq_ok (Or.inr ⟨hs', rfl⟩) hn
    (leads_of_isDirectory hs'.1 hnames hdir') hcheck
  have hpa := (prepare_hosts (Or.inr ⟨hs, rfl⟩) hn).2 a ha
  have hpb := (prepare_hosts (Or.inr ⟨hs', rfl⟩) hn).2 b hb
  have hra := prepare_remade hs hn hnames ha
  have hrb := prepare_remade hs' hn hnames hb
  have hkb := hrb.kept hdir'
  have hlb := hrb.listed
  rw [hplace] at hpb hkb hlb
  rw [ha, hb]
  refine .ok () (sameView_of_prepared hpa hpb (((hra.kept hdir).symm.trans h.kept).trans hkb) ?_)
  rw [hlb, hra.listed, relist, relist, h.beside]

/-- What is in the way to the place in one is in the way in the other. -/
theorem EqualBeside.blocked (h : EqualBeside (fs.place p) n fs fs')
    (hblocked : Blocked fs (fs.start p) (p.names ++ [n])) :
    Blocked fs' (fs'.start p) (p.names ++ [n]) := by
  obtain ⟨front, m, hpre, hlong, hfront⟩ := hblocked
  have hup : fs.start p ++ front <+: fs.place p :=
    (List.prefix_append_right_inj _).2 (prefix_of_concat hpre)
  refine ⟨front, m, hpre, hlong, ?_⟩
  rw [FileSystem.start, h.kept.outside.home, ← FileSystem.start, FileSystem.isDirectory,
    h.kept.outside.entry _ (not_below_above _ n hup)]
  exact hfront

/-- **Two file systems that differ at one place only are prepared there alike**, or both are refused
    for a limit, and kept. -/
theorem prepare_beside (hs : fs.Straight p) (hn : Name.isOrdinary n = true)
    (h : EqualBeside (fs.place p) n fs fs') :
    Agree SameView (Package.prepare (p.join ⟨n⟩) fs) (Package.prepare (p.join ⟨n⟩) fs') ∨
      ∃ e, Package.prepare (p.join ⟨n⟩) fs = .error e fs ∧
        Package.prepare (p.join ⟨n⟩) fs' = .error e fs' := by
  by_cases hdir : fs.isDirectory (fs.place p) = true
  · cases hc : checkPath (p.join ⟨n⟩) with
    | error e => exact Or.inr ⟨e, prepare_checkPath hn hc, prepare_checkPath hn hc⟩
    | ok =>
      by_cases hshort : ∀ m ∈ p.names ++ [n], m.length ≤ nameLimit
      · exact Or.inl (prepare_standing hs hn h hdir hc hshort)
      · -- the directories of the way stand in both, so that both are refused for the same name
        have hblocked := blocked_of_long hdir hshort
        exact Or.inr ⟨_, prepare_blocked hs hn hc hblocked,
          prepare_blocked (h.straight hs) hn hc (h.blocked hblocked)⟩
  · have hnone : fs.at? (fs.place p ++ [n]) = none :=
      at?_append_eq_none (fun hat => hdir (isDirectory_iff.2 hat)) (by simp)
    have hnone' : fs'.at? (fs.place p ++ [n]) = none := by
      refine at?_append_eq_none (fun hat => hdir ?_) (by simp)
      rw [← h.isDirectory]
      exact isDirectory_iff.2 hat
    exact Or.inl (prepare_view _ fs fs' (h.sameView hnone hnone'))

/-- **Where the path is not over its limit, nothing at the place is kept**: a name over the limit
    never stood there. -/
theorem prepare_beside_fit (hs : fs.Straight p) (hn : Name.isOrdinary n = true)
    (h : EqualBeside (fs.place p) n fs fs') (hfit : NamesFit fs) (hfit' : NamesFit fs')
    (hc : checkPath (p.join ⟨n⟩) = .ok ()) :
    Agree SameView (Package.prepare (p.join ⟨n⟩) fs) (Package.prepare (p.join ⟨n⟩) fs') := by
  by_cases hnone : fs.at? (fs.place p ++ [n]) = none ∧ fs'.at? (fs.place p ++ [n]) = none
  · exact prepare_view _ fs fs' (h.sameView hnone.1 hnone.2)
  · have hstands : ∃ c : FileSystem, NamesFit c ∧ c.at? (fs.place p ++ [n]) ≠ none ∧
        c.isDirectory (fs.place p) = fs.isDirectory (fs.place p) := by
      by_cases hat : fs.at? (fs.place p ++ [n]) = none
      · exact ⟨fs', hfit', fun hat' => hnone ⟨hat, hat'⟩, h.isDirectory⟩
      · exact ⟨fs, hfit, hat, rfl⟩
    obtain ⟨c, hfitc, hat, hsame⟩ := hstands
    have hdir : c.isDirectory (fs.place p) = true := by
      obtain ⟨e, he⟩ := Option.ne_none_iff_exists'.1 hat
      exact isDirectory_of_at? he
    have hstands : c.at? (fs.start p ++ (p.names ++ [n])) ≠ none := by rwa [← List.append_assoc]
    exact prepare_standing hs hn h (hsame.symm.trans hdir) hc (hfitc.short hstands)

/-- **A place that was refused is refused again**, and nothing more is made above it. -/
theorem prepare_refused_again (hs : fs.Straight p) (hn : Name.isOrdinary n = true) {e : IoError}
    (h : Package.prepare (p.join ⟨n⟩) fs = .error e fs') :
    Package.prepare (p.join ⟨n⟩) fs' = .error e fs' := by
  have hadds := prepare_refused hs hn h
  cases hc : checkPath (p.join ⟨n⟩) with
  | error e' =>
    rw [prepare_checkPath hn hc] at h
    cases h
    exact prepare_checkPath hn hc
  | ok =>
    by_cases hstart : fs.isDirectory (fs.start p) = true
    · rcases removeIfPresent_way hs hn hc hstart with ⟨e', heq, -⟩ | hclears
      · have hprep : Package.prepare (p.join ⟨n⟩) fs = .error (.os e') fs := by
          simp only [Package.prepare, heq]
        rw [hprep] at h
        cases h
        exact hprep
      · -- directories were made as far as to the name that is over its limit
        have hway := prepare_way hs hn hc hstart
        rw [h] at hway
        simp only [Package.prepare, hclears.removed] at h
        have hblocked := hclears.blocked e fs' h
        rw [FileSystem.start, ← hadds.home, ← FileSystem.start] at hblocked
        have hs' := hadds.straight hs
        have hagain := prepare_blocked hs' hn hc hblocked
        have hstart' : fs'.isDirectory (fs'.start p) = true := by
          obtain ⟨front, -, -, -, hfront⟩ := hblocked
          exact isDirectory_of_append front hfront
        have hway' := prepare_way hs' hn hc hstart'
        have hcongr : fs'.wayCheck (fs'.start p) p.names n =
            fs.wayCheck (fs.start p) p.names n := by
          rw [FileSystem.start, hadds.home, ← FileSystem.start]
          exact wayCheck_congr fun ns _ _ => (hadds.entry _).imp_right fun hnew => hnew.2
        rw [hagain] at hway' ⊢
        have hsame : Except.error e = Except.error (IoError.os .nameTooLong) :=
          hway.outcome.trans ((congrArg (Except.mapError IoError.os) hcongr.symm).trans
            hway'.outcome.symm)
        cases hsame
        rfl
    · obtain ⟨e', heq⟩ := prepare_nowhere hs hn hstart
      rw [heq] at h
      cases h
      exact heq

/-- **A place that was prepared and then filled is prepared again**, and nothing tells what is left
    from what was left before. -/
theorem prepare_grown {a b : FileSystem} (hs : fs.Straight p) (hn : Name.isOrdinary n = true)
    (h : Package.prepare (p.join ⟨n⟩) fs = .ok () a) (hg : Grows (fs.place p ++ [n]) a b)
    (hin : Kept (Inside (fs.place p ++ [n])) a b) :
    ∃ c, Package.prepare (p.join ⟨n⟩) b = .ok () c ∧ SameView a c := by
  obtain ⟨hframed, hprepared⟩ := prepare_hosts (Or.inr ⟨hs, rfl⟩) hn
  have hpa := hprepared a h
  rw [h, Disk.left_ok] at hframed
  have hsa := hs.of_framed hframed
  have hsb : b.Straight p := hsa.of_links hg.outside.home fun ns hns target hat =>
    (hg.link _ _).1 hat
  have hplace : b.place p = fs.place p := place_of_home (hg.outside.home.trans hframed.home) p
  have hshort := (place_of_leads hsa hpa.leads).2
  have hra := prepare_remade hs hn hshort h
  have hl := hpa.leads.mono hg.keepsWays
  obtain ⟨c, hpc⟩ := exists_prepare_eq_ok (Or.inr ⟨hsb, hplace.symm⟩) hn hl hpa.check
  have hprepc := (prepare_hosts (Or.inr ⟨hsb, hplace.symm⟩) hn).2 c hpc
  have hrc := prepare_remade hsb hn hshort hpc
  rw [hplace] at hrc
  -- the place was listed last already
  have hlisted : c.children (fs.place p) = a.children (fs.place p) := by
    rw [hrc.listed, (hra.fill hg hin).listed, hra.listed]
    exact relistAll_relistAll [n] _
  exact ⟨c, hpc, sameView_of_prepared hpa hprepc (hg.kept.trans (hrc.kept hl.isDirectory)) hlisted⟩

end Prepare

end FileSystem

/-! ## 3. Faults -/

/-- The next call of each of the kinds meets the same fault in both states. -/
def MeetAlike {σ : Type} (faults : List Fault) (kinds : List ToolCall.Kind) (s s' : Counted σ) :
    Prop :=
  ∀ kind ∈ kinds, Fault.meets? faults kind (s'.seen.count kind + 1) =
    Fault.meets? faults kind (s.seen.count kind + 1)

/-- Nothing tells the files of the worlds apart, and calls still to come meet the same faults. -/
def Paired (faults : List Fault) (kinds : List ToolCall.Kind)
    (w w' : World (Counted (List ToolCall))) : Prop :=
  SameView w.files w'.files ∧ MeetAlike faults kinds w.tools w'.tools

section Faults

variable {r : Rehearsal} {faults : List Fault} {layout : Layout} {options : PackageOptions}
  {w w' : World (Counted (List ToolCall))}

/-- A call leaves the calls of other kinds to meet the faults that they would have met. -/
theorem MeetAlike.after {kinds : List ToolCall.Kind} {call : ToolCall}
    {s s' : Counted (List ToolCall)} (h : MeetAlike faults (call.kind :: kinds) s s')
    (hnew : call.kind ∉ kinds) (calls calls' : List ToolCall) :
    MeetAlike faults kinds ⟨calls, call.kind :: s.seen⟩ ⟨calls', call.kind :: s'.seen⟩ := by
  intro kind hkind
  have hne : call.kind ≠ kind := fun heq => hnew (heq ▸ hkind)
  rw [List.count_cons_of_ne hne, List.count_cons_of_ne hne]
  exact h kind (List.mem_cons_of_mem _ hkind)

/-- **A call does the same on the same views**, if it meets the same fault. -/
theorem run_paired {kinds : List ToolCall.Kind} {call : ToolCall} (hnew : call.kind ∉ kinds)
    (h : Paired faults (call.kind :: kinds) w w') :
    Agree (Paired faults kinds) ((r.toolchain.withFaults faults).run call w)
      ((r.toolchain.withFaults faults).run call w') := by
  obtain ⟨hfiles, hmeet⟩ := h
  have hcount := hmeet call.kind List.mem_cons_self
  simp only [Toolchain.withFaults, List.count_cons_self, hcount]
  split
  · exact .error _ ⟨hfiles, hmeet.after hnew _ _⟩
  · have hrun : Agree (fun a b => SameView a.files b.files)
        (r.toolchain.run call ⟨w.files, w.tools.inner⟩)
        (r.toolchain.run call ⟨w'.files, w'.tools.inner⟩) :=
      run_agree (perform_view r call w.files w'.files hfiles)
    generalize r.toolchain.run call ⟨w.files, w.tools.inner⟩ = x,
      r.toolchain.run call ⟨w'.files, w'.tools.inner⟩ = y at hrun ⊢
    cases hrun with
    | ok _ hab => exact .ok () ⟨hab, hmeet.after hnew _ _⟩
    | error e hab => exact .error e ⟨hab, hmeet.after hnew _ _⟩

theorem onFiles_paired {kinds : List ToolCall.Kind} {ε α : Type} (wrap : IoError → ε)
    {act : Disk α} (hact : Views act) (h : Paired faults kinds w w') :
    Agree (Paired faults kinds) (World.onFiles wrap act w) (World.onFiles wrap act w') := by
  have hfiles := hact w.files w'.files h.1
  unfold World.onFiles
  generalize act w.files = x, act w'.files = y at hfiles ⊢
  cases hfiles with
  | ok a hab => exact .ok a ⟨hab, h.2⟩
  | error e hab => exact .error _ ⟨hab, h.2⟩

/-- **A package is filled alike**: the three calls meet the same faults. -/
theorem fill_paired (folder : Path) (paths : PackagePaths) (h : Paired faults buildKinds w w') :
    Agree (Paired faults [])
      (Package.fill (r.toolchain.withFaults faults) layout options folder paths w)
      (Package.fill (r.toolchain.withFaults faults) layout options folder paths w') := by
  have hask : ∀ (call : ToolCall) (kinds : List ToolCall.Kind) (wrap : ToolError → PackageError)
      (a b : World (Counted (List ToolCall))), call.kind ∉ kinds →
      Paired faults (call.kind :: kinds) a b →
      Agree (Paired faults kinds) (Package.ask (r.toolchain.withFaults faults) call wrap a)
        (Package.ask (r.toolchain.withFaults faults) call wrap b) :=
    fun call kinds wrap a b hnew hab => ask_agree wrap (run_paired hnew hab)
  have hnone : ∀ {kinds : List ToolCall.Kind} (a b : World (Counted (List ToolCall))),
      Paired faults kinds a b → Paired faults [] a b :=
    fun _ _ hab => ⟨hab.1, fun _ hkind => nomatch hkind⟩
  refine (hask (.copyTree folder paths.typst) [.compile, .rasterize] _ w w'
    (by simp [ToolCall.kind]) h).bind_of hnone fun _ a b hab => ?_
  refine (onFiles_paired _ (copyFile_view _ _) hab).bind_of hnone fun _ a b hab => ?_
  refine (hask (.compile paths.entryDocument paths.document) [.rasterize] _ a b
    (by simp [ToolCall.kind]) hab).bind_of hnone fun _ a b hab => ?_
  exact hask _ [] _ a b (by simp) hab

end Faults

/-! ## 4. Building over what was there -/

section Generate

variable {r : Rehearsal} {faults : List Fault} {layout : Layout} {options : PackageOptions}
  {folder : TemplateFolder} {name : Name} {w w' : World (Counted (List ToolCall))}
  (hb : folder.Builds name)

include hb

/-- Where the places are prepared alike, the packages are built alike. -/
theorem generate_paired (hmeet : MeetAlike faults buildKinds w.tools w'.tools)
    (h : Agree SameView (Package.prepare (layout.packageDir name) w.files)
      (Package.prepare (layout.packageDir name) w'.files)) :
    Agree (fun a b => SameView a.files b.files)
      (generate (r.toolchain.withFaults faults) layout options folder w)
      (generate (r.toolchain.withFaults faults) layout options folder w') := by
  cases hp : Package.prepare (layout.packageDir name) w.files with
  | error e a =>
    cases hp' : Package.prepare (layout.packageDir name) w'.files with
    | ok u b =>
      rw [hp, hp'] at h
      cases h
    | error e' b =>
      rw [hp, hp'] at h
      rw [generate_unprepared hb hp, generate_unprepared hb hp']
      cases h with
      | error _ hab => exact .error _ hab
  | ok u a =>
    cases hp' : Package.prepare (layout.packageDir name) w'.files with
    | error e' b =>
      rw [hp, hp'] at h
      cases h
    | ok u' b =>
      rw [hp, hp'] at h
      have hfill : Agree (Paired faults [])
          (Package.fill (r.toolchain.withFaults faults) layout options folder.path
            (layout.package name options.entryPoint) { w with files := a })
          (Package.fill (r.toolchain.withFaults faults) layout options folder.path
            (layout.package name options.entryPoint) { w' with files := b }) := by
        cases h with
        | ok _ hab => exact fill_paired _ _ ⟨hab, hmeet⟩
      rw [generate_prepared hb hp, generate_prepared hb hp']
      generalize Package.fill _ _ _ _ _ { w with files := a } = x,
        Package.fill _ _ _ _ _ { w' with files := b } = y at hfill ⊢
      cases hfill with
      | ok _ hcd => exact .ok _ hcd.1
      | error e hcd => exact .error e hcd.1

variable (hs : w.files.Straight layout.root)

include hs

/-- **What a build left is prepared like what it found**: whatever a package was filled with is
    removed again, and a place that was refused is refused. -/
theorem prepare_behind_generate {tools : Toolchain (Counted (List ToolCall))}
    (ht : tools.Rehearses r) :
    Agree SameView (Package.prepare (layout.packageDir name) w.files)
      (Package.prepare (layout.packageDir name)
        (Disk.left (generate tools layout options folder w)).files) := by
  have hn := hb.isOrdinary
  cases hp : Package.prepare (layout.packageDir name) w.files with
  | error e a =>
    rw [generate_unprepared hb hp, Disk.left_error,
      show Package.prepare (layout.packageDir name) a = .error e a from
        prepare_refused_again hs hn hp]
    exact .error e (SameView.refl a)
  | ok u a =>
    have hready := ((prepare_packageDir hb (Or.inr ⟨hs, rfl⟩)).2 a hp).ready hn
    obtain ⟨hgrows, hinside⟩ := fill_left ht (w := { w with files := a }) hready
      options.entryPoint options folder.path
    obtain ⟨c, hpc, hsame⟩ := prepare_grown hs hn hp hgrows hinside
    rw [generate_left hb hp,
      show Package.prepare (layout.packageDir name) _ = .ok () c from hpc]
    exact .ok () hsame

/-- **A build answers the same whatever stood at its place, and leaves the same files**, unless the
    path of the place is refused for its length. Once more it changes nothing, if its calls meet the
    same faults. -/
theorem generate_ignores_previous
    (hbeside : EqualBeside (w.files.place layout.root) (Package.dirName name) w.files w'.files)
    (hmeet : MeetAlike faults buildKinds w.tools w'.tools) :
    let build := generate (r.toolchain.withFaults faults) layout options folder
    Disk.outcome (build w') = Disk.outcome (build w) ∧
      (NamesFit w.files → NamesFit w'.files → checkPath (layout.packageDir name) = .ok () →
        SameView (Disk.left (build w)).files (Disk.left (build w')).files) ∧
      (MeetAlike faults buildKinds w.tools (Disk.left (build w)).tools →
        Disk.outcome (build (Disk.left (build w))) = Disk.outcome (build w) ∧
          SameView (Disk.left (build w)).files (Disk.left (build (Disk.left (build w)))).files) := by
  intro build
  have hn := hb.isOrdinary
  refine ⟨?_, fun hfit hfit' hc => ?_, fun hagain => ?_⟩
  · rcases prepare_beside hs hn hbeside with hagree | ⟨e, hp, hp'⟩
    · exact (generate_paired hb hmeet hagree).outcome
    · simp only [build, generate_unprepared hb hp, generate_unprepared hb hp']
      rfl
  · exact (generate_paired hb hmeet (prepare_beside_fit hs hn hbeside hfit hfit' hc)).left
  · have hbehind : Agree SameView (Package.prepare (layout.packageDir name) w.files)
        (Package.prepare (layout.packageDir name) (Disk.left (build w)).files) :=
      prepare_behind_generate hb hs (rehearses_withFaults (rehearses_toolchain r) faults)
    have hpaired : Agree (fun a b => SameView a.files b.files) (build w)
        (build (Disk.left (build w))) :=
      generate_paired hb hagain hbehind
    exact ⟨hpaired.outcome, hpaired.left⟩

end Generate

/-- The workshop with a file at the place of the package. -/
def usedWorkshop : FileSystem :=
  workshop.put [Text.Utf8.bytes "T"] (Text.Utf8.bytes "x.sr") (.file (Text.Utf8.bytes "old") false)

theorem equalBeside_usedWorkshop :
    EqualBeside [Text.Utf8.bytes "T"] (Text.Utf8.bytes "x.sr") workshop usedWorkshop := by
  have hadmits : workshop.admits [Text.Utf8.bytes "T"] (Text.Utf8.bytes "x.sr")
      (.file (Text.Utf8.bytes "old") false) = true := by decide +kernel
  exact equalBeside_put hadmits

theorem generate_ignores_previous_workshop :
    let r : Rehearsal := {}
    let faults : List Fault := [⟨.rasterize, some 3, .io (.os .notFound)⟩]
    let layout : Layout := ⟨.ofString "T"⟩
    let folder : TemplateFolder := ⟨.ofString "s/x"⟩
    let name : Name := Text.Utf8.bytes "x"
    let w : World (Counted (List ToolCall)) := ⟨workshop, ⟨[], []⟩⟩
    let w' : World (Counted (List ToolCall)) := ⟨usedWorkshop, ⟨[], []⟩⟩
    let build := generate (r.toolchain.withFaults faults) layout {} folder
    folder.Builds name ∧ w.files.Straight layout.root ∧
      EqualBeside (w.files.place layout.root) (Package.dirName name) w.files w'.files ∧
      MeetAlike faults buildKinds w.tools w'.tools ∧
      Disk.outcome (build w') = Disk.outcome (build w) ∧
      SameView (Disk.left (build w)).files (Disk.left (build w')).files ∧
      Disk.outcome (build (Disk.left (build w))) = Disk.outcome (build w) ∧
      SameView (Disk.left (build w)).files (Disk.left (build (Disk.left (build w)))).files := by
  intro r faults layout folder name w w' build
  have hb : folder.Builds name := ⟨by decide, by decide⟩
  have hs : w.files.Straight layout.root := by decide +kernel
  have hplace : w.files.place layout.root = [Text.Utf8.bytes "T"] := by decide +kernel
  have hbeside : EqualBeside (w.files.place layout.root) (Package.dirName name)
      w.files w'.files := by
    have hname : Package.dirName name = Text.Utf8.bytes "x.sr" := by decide
    rw [hplace, hname]
    exact equalBeside_usedWorkshop
  have hmeet : MeetAlike faults buildKinds w.tools w'.tools := fun _ _ => rfl
  have hfit : NamesFit workshop := namesFit_of_entries (by decide +kernel)
  have hfit' : NamesFit usedWorkshop := namesFit_of_entries (by decide +kernel)
  have hagain : MeetAlike faults buildKinds w.tools (Disk.left (build w)).tools := by
    have hseen : (Disk.left (build w)).tools.seen = [.rasterize, .compile, .copyTree] := by
      decide +kernel
    intro kind hkind
    rw [hseen]
    simp only [buildKinds, List.mem_cons, List.not_mem_nil, or_false] at hkind
    rcases hkind with rfl | rfl | rfl <;> rfl
  have hall : Disk.outcome (build w') = Disk.outcome (build w) ∧ _ :=
    generate_ignores_previous hb hs hbeside hmeet
  obtain ⟨hout, hview, hsecond⟩ := hall
  exact ⟨hb, hs, hbeside, hmeet, hout, hview hfit hfit' (by decide +kernel), hsecond hagain⟩

/-- **A build once more may change something, and what stood at its place may stay.** The second call
    of a kind may not meet the fault that the first one met. Where the path of the place is over its
    limit, though it leads there, nothing is removed. -/
theorem generate_keeps_previous :
    (let r : Rehearsal := {}
      let layout : Layout := ⟨.ofString "T"⟩
      let folder : TemplateFolder := ⟨.ofString "s/x"⟩
      let build := generate (r.toolchain.withFaults [⟨.copyTree, some 1, .io (.os .notFound)⟩])
        layout {} folder
      let w : World (Counted (List ToolCall)) := ⟨workshop, ⟨[], []⟩⟩
      let source : Location := [Text.Utf8.bytes "T", Text.Utf8.bytes "x.sr", Package.sourceName]
      workshop.LinkFree [] ∧ layout.root.NeverUp ∧ folder.name? = some (Text.Utf8.bytes "x") ∧
        (Disk.left (build (Disk.left (build w)))).files.at? source = some .directory ∧
        (Disk.left (build w)).files.at? source = none) ∧
    (let r : Rehearsal := {}
      let layout : Layout := ⟨⟨(List.replicate 2048 [46, 47]).flatten ++ Text.Utf8.bytes "T"⟩⟩
      let folder : TemplateFolder := ⟨.ofString "s/x"⟩
      let build := generate r.toolchain layout {} folder
      let place : Location := [Text.Utf8.bytes "T", Text.Utf8.bytes "x.sr"]
      workshop.LinkFree [] ∧ layout.root.NeverUp ∧ folder.name? = some (Text.Utf8.bytes "x") ∧
        workshop.place layout.root = [Text.Utf8.bytes "T"] ∧
        EqualBeside [Text.Utf8.bytes "T"] (Text.Utf8.bytes "x.sr") workshop usedWorkshop ∧
        (Disk.left (build ⟨usedWorkshop, []⟩)).files.at? place =
          some (.file (Text.Utf8.bytes "old") false) ∧
        (Disk.left (build ⟨workshop, []⟩)).files.at? place = none) := by
  have hfree : workshop.LinkFree [] := linkFree_of_entries (by decide +kernel) _
  refine ⟨⟨hfree, by decide, by decide, by decide +kernel, by decide +kernel⟩, hfree,
    by decide +kernel, by decide, by decide +kernel, equalBeside_usedWorkshop,
    by decide +kernel, by decide +kernel⟩

end TemplatePress
