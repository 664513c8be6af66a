import TemplatePress.Proofs.Destinations
import TemplatePress.Proofs.Duplicates

/-!
# Places for new directories

A directory is made at a path at which nothing stands, together with the directories missing above
it. The path may lead through links, and `.` parts and separators do not change where it leads, but
its last part, as it is written, has to be a name. This file fixes:

* `walk_behind`: the look-up of a path with names behind a directory is the look-up of these names
  in the directory;
* `ComesTo`: the location at which the directory comes to stand. It is told from the last directory
  that the path leads to on its way and from the names behind it;
* `IsNew`: nothing stands at the path, and what stands at a path above it leads to a directory. Then
  there is such a location (`exists_comesTo`);
* `makeDirectories_comesTo`: there the directory is made;
* `copyTree_made`: what is copied into it, once it is made, is doubled there.
-/

namespace TemplatePress.FileSystem

open TemplatePress.Path (Step Component)

/-! ## 1. Names behind a directory -/

/-- The last part of the path, as it is written, is a name; separators may follow. -/
def EndsInName (p : Path) : Prop :=
  ∃ n, p.steps.getLast? = some (.enter n)

instance (p : Path) : Decidable (EndsInName p) :=
  decidable_of_iff (p.steps.getLast?.bind Step.name?).isSome (by
    simp only [EndsInName, Option.isSome_iff_exists, Option.bind_eq_some_iff]
    refine exists_congr fun n => ⟨fun ⟨step, hlast, hn⟩ => ?_, fun hlast => ⟨_, hlast, rfl⟩⟩
    cases step <;> cases hn
    exact hlast)

theorem flatMap_steps_normal (names : List Name) :
    (names.map Component.normal).flatMap Component.steps = names.map .enter := by
  rw [List.flatMap_map, List.map_eq_flatMap]
  rfl

theorem endsInName_ofComponents {cs : List Component} {names : List Name}
    (h : Path.Written (cs ++ names.map .normal)) (hne : names ≠ []) :
    EndsInName (Path.ofComponents (cs ++ names.map .normal)) := by
  refine ⟨names.getLast hne, ?_⟩
  rw [Path.steps_ofComponents h, List.flatMap_append, flatMap_steps_normal, List.getLast?_append,
    List.getLast?_map, List.getLast?_eq_some_getLast hne]
  rfl

theorem components_of_endsInName {p : Path} (h : EndsInName p) :
    ∃ cs n, p.components = cs ++ [.normal n] := by
  obtain ⟨n, hlast⟩ := h
  obtain ⟨front, hfront⟩ := List.getLast?_eq_some_iff.1 hlast
  have hread := Path.readable_components p
  have hmoves : (moves (p.components.flatMap Component.steps)).getLast? = some (.enter n) := by
    rw [← Path.steps_ofComponents hread.1, moves_steps_ofComponents, hfront]
    simp [moves, Option.guard]
  rcases List.eq_nil_or_concat' p.components with hnil | ⟨cs, c, hcs⟩
  · simp [hnil, moves] at hmoves
  · rw [hcs] at hread hmoves
    cases c with
    | root => simp [Path.eq_nil_of_readable hread (Or.inl rfl), moves, Component.steps] at hmoves
    | current =>
      simp [Path.eq_nil_of_readable hread (Or.inr rfl), moves, Component.steps, Option.guard]
        at hmoves
    | parent => simp [moves, Component.steps, Option.guard] at hmoves
    | normal m => exact ⟨cs, m, hcs⟩

theorem isEmpty_of_checkPath {p : Path} (h : checkPath p = .ok ()) : p.isEmpty = false := by
  simp [Path.isEmpty, (checkPath_eq_ok.1 h).2.1]

section Behind

variable {fs : FileSystem} {p : Path} {cs : List Component} {names : List Name} {n : Name}
  {loc : Location}

/-- **The look-up of a path with names behind a directory is that of the names in it.** -/
theorem walk_behind (hcs : p.components = cs ++ (names ++ [n]).map .normal) (hend : EndsInName p)
    (hl : fs.Leads (Path.ofComponents cs) loc) :
    ∃ links, fs.walk false linkLimit (fs.start p) p.steps p.endsInSeparator =
      fs.walk false links loc ((names ++ [n]).map .enter) p.endsInSeparator := by
  obtain ⟨last, hlast⟩ := hend
  obtain ⟨front, hfront⟩ := List.getLast?_eq_some_iff.1 hlast
  have hwritten := Path.written_components p
  have hcsw : Path.Written cs := fun m hm => hwritten m (by rw [hcs]; simp [hm])
  -- what moves among the steps is told by the components
  have hmoves : moves front ++ [.enter last] =
      moves ((Path.ofComponents cs).steps ++ names.map .enter) ++ [.enter n] := by
    calc moves front ++ [.enter last]
        = moves p.steps := by simp [hfront, moves, Option.guard]
      _ = moves (Path.ofComponents p.components).steps := (moves_steps_ofComponents p).symm
      _ = moves ((Path.ofComponents cs).steps ++ (names ++ [n]).map .enter) := by
        rw [Path.steps_ofComponents hwritten, Path.steps_ofComponents hcsw, hcs,
          List.flatMap_append, flatMap_steps_normal]
      _ = moves ((Path.ofComponents cs).steps ++ names.map .enter) ++ [.enter n] := by
        simp [moves, Option.guard]
  obtain ⟨hfront', hn⟩ := List.append_inj' hmoves rfl
  have hstart : fs.start p = fs.start (Path.ofComponents cs) := by
    have habs : p.isAbsolute = (Path.ofComponents cs).isAbsolute := by
      rw [Path.isAbsolute_eq_head, Path.isAbsolute_ofComponents hcsw, hcs]
      cases cs <;> cases names <;> simp
    rw [start, start, habs]
  obtain ⟨s, hs, rfl, hdir⟩ := hl
  obtain ⟨links, hlinks⟩ := walk_append fs false linkLimit _ _ _ s hs hdir
    ((names ++ [n]).map .enter) p.endsInSeparator (by simp)
  refine ⟨links, ?_⟩
  rw [← hlinks, hfront, leadsByMoves_walk fs false _ linkLimit, hfront', hn,
    ← leadsByMoves_walk fs false _ linkLimit, hstart]
  simp

/-! ## 2. One directory -/

section Make

variable (hend : EndsInName p) (hcheck : checkPath p = .ok ())
  (hl : fs.Leads (Path.ofComponents cs) loc)

include hend hcheck hl

/-- Where a name on the way is missing, none is made. -/
theorem makeDirectory_missing {m : Name}
    (hcs : p.components = cs ++ (m :: names ++ [n]).map .normal) (hshort : m.length ≤ nameLimit)
    (hnone : fs.at? (loc ++ [m]) = none) : fs.makeDirectory p = .error (.os .notFound) := by
  obtain ⟨links, hwalk⟩ := walk_behind hcs hend hl
  have hspot : fs.spot false p = .error (.os .notFound) := by
    refine spot_eq_error.2 (Or.inr ⟨hcheck, _, rfl, ?_⟩)
    rw [hwalk, walk_eq]
    simp [walkSteps, Nat.not_lt.2 hshort, hnone]
  rw [makeDirectory, hspot]

/-- **A name behind a directory is made there.** -/
theorem made_behind (hcs : p.components = cs ++ [.normal n]) (hshort : n.length ≤ nameLimit)
    (hnone : fs.at? (loc ++ [n]) = none) :
    ∃ fs', fs.makeDirectory p = .ok fs' ∧ Made fs fs' p (loc ++ [n]) := by
  have hread : Path.Readable (cs ++ [.normal n]) := hcs ▸ Path.readable_components p
  have hn : Name.isOrdinary n = true := hread.1 n (by simp)
  have hcs' : p.components = cs ++ ([] ++ [n]).map .normal := hcs
  obtain ⟨links, hwalk⟩ := walk_behind hcs' hend hl
  have hspot : fs.spot false p = .ok ⟨loc, .enter n, p.endsInSeparator⟩ := by
    refine spot_eq_ok.2 ⟨hcheck, ?_⟩
    rw [hwalk, walk_eq]
    exact walkSteps_last hshort fun hf => by cases hf
  have hadmits := admits_join hl hn (Or.inl rfl)
  have hok : fs.makeDirectory p = .ok (fs.put loc n .directory) := by
    simp [makeDirectory, hspot, hnone, hadmits]
  obtain ⟨loc', hmade⟩ := made_of_makeDirectory hok
  -- the path is spelled anew as the name behind the directory
  have hl' := leads_ofComponents.2 hmade.leads
  rw [hcs, Path.ofComponents_concat hread] at hl'
  have hat : (fs.put loc n .directory).at? (loc ++ [n]) = some .directory := by
    rw [at?_put hadmits, if_pos rfl]
  obtain rfl := (hl.mono hmade.adds.onlyAdds.keepsWays).of_join hn (by simp [hat]) hl'
  exact ⟨_, hok, hmade⟩

end Make

end Behind

/-! ## 3. The place of a new directory -/

/-- Nothing stands at the location, and there the directory comes to stand that is made at the path:
    behind the last directory that the path leads to on its way, by the names behind that. -/
def ComesTo (fs : FileSystem) (p : Path) (top : Location) : Prop :=
  ∃ cs dir m ms, p.components = cs ++ (m :: ms).map .normal ∧
    fs.Leads (Path.ofComponents cs) dir ∧ fs.at? (dir ++ [m]) = none ∧ top = dir ++ m :: ms

section ComesTo

variable {fs : FileSystem} {p q : Path} {top : Location} {n : Name}

/-- One more name comes to stand in the new directory. -/
theorem ComesTo.concat (h : fs.ComesTo p top) (hq : q.components = p.components ++ [.normal n]) :
    fs.ComesTo q (top ++ [n]) := by
  obtain ⟨cs, dir, m, ms, hcs, hl, hnone, rfl⟩ := h
  exact ⟨cs, dir, m, ms ++ [n], by simp [hq, hcs], hl, hnone, by simp⟩

theorem comesTo_of_leads {dir : Location} (hq : q.components = p.components ++ [.normal n])
    (hl : fs.Leads p dir) (hnone : fs.at? (dir ++ [n]) = none) :
    fs.ComesTo q (dir ++ [n]) :=
  ⟨p.components, dir, n, [], by simpa using hq, leads_ofComponents.2 hl, hnone, rfl⟩

/-- Where the path above was missing and is made, the name behind it is made next. -/
theorem made_next {cs : List Component} {dir : Location} {fs₁ : FileSystem}
    (hcs : p.components = cs ++ [.normal n]) (hend : EndsInName p) (hcheck : checkPath p = .ok ())
    (hshort : n.length ≤ nameLimit) (hmiss : fs.makeDirectory p = .error (.os .notFound))
    (hok : makeDirectories (Path.ofComponents cs) fs = .ok () fs₁)
    (hmade : Made fs fs₁ (Path.ofComponents cs) dir) :
    ∃ fs', makeDirectories p fs = .ok () fs' ∧ Made fs fs' p (dir ++ [n]) := by
  have hread := (Path.readable_components p).of_front (hcs ▸ List.prefix_append cs _)
  obtain ⟨fs₂, hok₂, hmade₂⟩ :=
    made_behind hend hcheck hmade.leads hcs hshort (hmade.empty [n] (by simp))
  refine ⟨fs₂, ?_, hmade₂.check, hmade₂.leads, hmade₂.real, hmade₂.empty,
    (hmade.adds.mono (List.prefix_append dir [n])).trans hmade₂.adds⟩
  rw [makeDirectories, Path.components_ofComponents hread] at hok
  rw [makeDirectories, hcs, List.length_append, List.length_singleton, ancestorsFrom,
    Path.parent?_of_components hcs (by simp)]
  rw [makeFirst_of_missing _ (isEmpty_of_checkPath hcheck) hmiss rfl, hok]
  simp only [hok₂]

/-- **At its place a directory is made**, with those missing above it. The induction is on the names
    behind the directory that stands, from their end. -/
theorem makeDirectories_comesTo (h : fs.ComesTo p top) (hend : EndsInName p)
    (hcheck : checkPath p = .ok ())
    (hshort : ∀ m, Component.normal m ∈ p.components → m.length ≤ nameLimit) :
    ∃ fs', makeDirectories p fs = .ok () fs' ∧ Made fs fs' p top := by
  obtain ⟨cs, dir, m, ms, hcs, hl, hnone, rfl⟩ := h
  have hm : m.length ≤ nameLimit := hshort m (by simp [hcs])
  induction ms using List.reverseRecOn generalizing p with
  | nil =>
    obtain ⟨fs', hok, hmade⟩ := made_behind hend hcheck hl hcs hm hnone
    obtain ⟨above, habove⟩ := ancestorsFrom_eq_cons p.components.length p
    refine ⟨fs', ?_, hmade⟩
    rw [makeDirectories, habove]
    exact makeFirst_of_ok (isEmpty_of_checkPath hcheck) hok
  | append_singleton ms n ih =>
    have hcs' : p.components = cs ++ (m :: ms).map .normal ++ [.normal n] := by simp [hcs]
    have hfront : cs ++ (m :: ms).map .normal <+: p.components := hcs' ▸ List.prefix_append _ _
    have hread := (Path.readable_components p).of_front hfront
    have habove := Path.components_ofComponents hread
    obtain ⟨fs₁, hok, hmade⟩ := ih (endsInName_ofComponents hread.1 (List.cons_ne_nil m ms))
      (checkPath_ofComponents hcheck hfront (by simp))
      (fun k hk => hshort k (hfront.subset (habove ▸ hk))) habove
    have hmiss : fs.makeDirectory p = .error (.os .notFound) :=
      makeDirectory_missing hend hcheck hl hcs hm hnone
    have hnext := made_next hcs' hend hcheck (hshort n (by simp [hcs])) hmiss hok hmade
    simpa using hnext

end ComesTo

/-! ## 4. Paths at which nothing stands -/

/-- A directory can be made at the path: its last part is a name, no part leads up, nothing is found
    there, not even a link, and what is found at a path above leads to a directory. Path and names
    are within their limits, and the directory where look-ups start stands. -/
structure IsNew (fs : FileSystem) (p : Path) : Prop where
  neverUp : p.NeverUp
  endsInName : EndsInName p
  check : checkPath p = .ok ()
  short : ∀ n ∈ p.names, n.length ≤ nameLimit
  start : fs.isDirectory (fs.start p) = true
  vacant : fs.Vacant (Path.ofComponents p.components)
  above : ∀ cs, cs <+: p.components → ∀ found, fs.lstat? (Path.ofComponents cs) = .ok found →
    fs.leadsToDirectory (Path.ofComponents cs) = true

section IsNew

variable {fs : FileSystem} {p : Path}

theorem isNew_iff : fs.IsNew p ↔ p.NeverUp ∧ EndsInName p ∧ checkPath p = .ok () ∧
    (∀ n ∈ p.names, n.length ≤ nameLimit) ∧ fs.isDirectory (fs.start p) = true ∧
    (fs.lstat? (Path.ofComponents p.components)).toBool = false ∧
    ∀ cs ∈ p.components.inits, (fs.lstat? (Path.ofComponents cs)).toBool = true →
      fs.leadsToDirectory (Path.ofComponents cs) = true := by
  have hfound : ∀ q, (fs.lstat? q).toBool = true ↔ ∃ found, fs.lstat? q = .ok found := by
    intro q
    cases fs.lstat? q <;> simp [Except.toBool]
  have hvacant : (fs.lstat? (Path.ofComponents p.components)).toBool = false ↔
      fs.Vacant (Path.ofComponents p.components) := by
    rw [← Bool.not_eq_true, hfound, not_exists, Vacant]
  constructor
  · intro h
    exact ⟨h.neverUp, h.endsInName, h.check, h.short, h.start, hvacant.2 h.vacant, fun cs hcs hf =>
      h.above cs ((List.mem_inits _ _).1 hcs) _ ((hfound _).1 hf).choose_spec⟩
  · rintro ⟨hup, hend, hcheck, hshort, hstart, hv, habove⟩
    exact ⟨hup, hend, hcheck, hshort, hstart, hvacant.1 hv, fun cs hcs found hf =>
      habove cs ((List.mem_inits _ _).2 hcs) ((hfound _).2 ⟨found, hf⟩)⟩

instance (fs : FileSystem) (p : Path) : Decidable (fs.IsNew p) :=
  decidable_of_iff _ isNew_iff.symm

theorem leads_start (hnames : p.names = []) (hup : p.NeverUp)
    (hstart : fs.isDirectory (fs.start p) = true) : fs.Leads p (fs.start p) := by
  have hplace : fs.place p = fs.start p := by rw [place, hnames, List.append_nil]
  rw [← hplace] at hstart ⊢
  exact leads_of_isDirectory hup (by simp [hnames]) hstart

/-- One name further a path leads on, or it comes to the place of a new directory. -/
theorem leads_or_comesTo_join {n : Name} (hn : Name.isOrdinary n = true)
    (hc : nameCheck p n = .ok ())
    (hfound : ∀ found, fs.lstat? (p.join ⟨n⟩) = .ok found →
      fs.leadsToDirectory (p.join ⟨n⟩) = true)
    (h : (∃ loc, fs.Leads p loc) ∨ ∃ top, fs.ComesTo p top) :
    (∃ loc, fs.Leads (p.join ⟨n⟩) loc) ∨ ∃ top, fs.ComesTo (p.join ⟨n⟩) top := by
  have hcs := Path.components_join_name p hn
  obtain ⟨dir, hl⟩ | ⟨top, hcomes⟩ := h
  · cases hat : fs.at? (dir ++ [n]) with
    | none => exact Or.inr ⟨_, comesTo_of_leads hcs hl hat⟩
    | some e =>
      have hlstat := lstat?_join hl hn hc
      rw [hat] at hlstat
      obtain ⟨loc, hstat⟩ := leadsToDirectory_iff.1 (hfound _ hlstat)
      exact Or.inl ⟨loc, leads_of_stat? hstat⟩
  · exact Or.inr ⟨_, hcomes.concat hcs⟩

/-- **A path leads to a directory, or it comes to the place of a new one**, if what is found on its
    way leads to directories. The induction is on the components, from their end. -/
theorem leads_or_comesTo {cs : List Component} (hread : Path.Readable cs)
    (hup : (Path.ofComponents cs).NeverUp)
    (hstart : fs.isDirectory (fs.start (Path.ofComponents cs)) = true)
    (hcheck : ∀ ds, ds <+: cs → ds ≠ [] → checkPath (Path.ofComponents ds) = .ok ())
    (hshort : ∀ n, Component.normal n ∈ cs → n.length ≤ nameLimit)
    (habove : ∀ ds, ds <+: cs → ∀ found, fs.lstat? (Path.ofComponents ds) = .ok found →
      fs.leadsToDirectory (Path.ofComponents ds) = true) :
    (∃ loc, fs.Leads (Path.ofComponents cs) loc) ∨
      ∃ top, fs.ComesTo (Path.ofComponents cs) top := by
  induction cs using List.reverseRecOn with
  | nil => exact Or.inl ⟨_, leads_start rfl hup hstart⟩
  | append_singleton cs c ih =>
    cases c with
    | root =>
      obtain rfl := Path.eq_nil_of_readable hread (Or.inl rfl)
      exact Or.inl ⟨_, leads_start rfl hup hstart⟩
    | current =>
      obtain rfl := Path.eq_nil_of_readable hread (Or.inr rfl)
      exact Or.inl ⟨_, leads_start rfl hup hstart⟩
    | parent =>
      refine absurd ?_ hup
      rw [Path.steps_ofComponents hread.1]
      simp [Component.steps]
    | normal n =>
      have hn : Name.isOrdinary n = true := hread.1 n (by simp)
      have hlen := hshort n (by simp)
      have hc := hcheck _ List.prefix_rfl (by simp)
      have hfound := habove _ List.prefix_rfl
      rw [Path.ofComponents_concat hread] at hup hstart hc hfound ⊢
      rw [Path.neverUp_join_name _ hn] at hup
      rw [start_join fs _ hn] at hstart
      have hname : nameCheck (Path.ofComponents cs) n = .ok () := by
        rw [nameCheck_of_checkPath hc, if_neg (Nat.not_lt.2 hlen)]
      refine leads_or_comesTo_join hn hname hfound (ih (hread.of_front (List.prefix_append _ _)) hup
        hstart (fun ds hds => hcheck ds (hds.trans (List.prefix_append _ _)))
        (fun m hm => hshort m (List.mem_append_left _ hm))
        fun ds hds => habove ds (hds.trans (List.prefix_append _ _)))

/-- **There is a place for the directory.** -/
theorem exists_comesTo (h : fs.IsNew p) : ∃ top, fs.ComesTo p top := by
  obtain ⟨-, hup, habs⟩ := Path.steps_of_components p
  have hread := Path.readable_components p
  have hcomponents := Path.components_ofComponents hread
  have hstart : fs.start (Path.ofComponents p.components) = fs.start p := by
    rw [start, start, habs]
  rcases leads_or_comesTo hread (hup.2 h.neverUp) (hstart ▸ h.start)
      (fun ds hds hne => checkPath_ofComponents h.check hds hne)
      (fun n hn => h.short n (Path.mem_names_of_components hn)) h.above
    with ⟨loc, hl⟩ | ⟨top, hcomes⟩
  · obtain ⟨cs, n, hcs⟩ := components_of_endsInName h.endsInName
    have hne : p.components ≠ [] := by simp [hcs]
    have hsep : (Path.ofComponents p.components).endsInSeparator = false := by
      rw [hcs]
      exact Path.endsInSeparator_ofComponents (hcs ▸ hread.1) (by simp) []
    have hcheck := checkPath_ofComponents h.check List.prefix_rfl hne
    exact absurd h.vacant (not_vacant_of_leadsToDirectory hsep
      (leadsToDirectory_iff.2 ⟨loc, stat?_of_leads hl hcheck⟩))
  · obtain ⟨cs, dir, m, ms, hcs, hrest⟩ := hcomes
    exact ⟨top, cs, dir, m, ms, hcomponents.symm.trans hcs, hrest⟩

end IsNew

/-! ## 5. Copies in new directories -/

/-- **Copying into a directory that was made lets nothing but that directory grow**, and doubles the
    source there, if neither is inside the other. -/
theorem copyTree_made {fs fs₁ fs' : FileSystem} {source destination : Path} {loc top : Location}
    (hm : makeDirectories destination fs = .ok () fs₁) (hmade : Made fs fs₁ destination top)
    (hs : fs.stat? source = .ok (loc, .directory))
    (h : copyTree source destination fs = .ok () fs') :
    Grows top fs₁ fs' ∧ (Beside loc top → Extends fs₁ fs' ∧
      Duplicate fs' source loc destination top) := by
  have hs₁ := stat?_of_extends hmade.adds.onlyAdds hs
  have htop := isDirectory_iff.1 hmade.leads.isDirectory
  have hfree := linkFree_of_empty (by simp [htop]) hmade.empty
  rw [copyTree_eq hm hs₁] at h
  have hgrow := copyEntries_grows (copyLevels_grows (pathLimit - 1)) source hmade.leads hfree
    fun x (hx : x ∈ fs₁.children loc) => isOrdinary_of_mem_children hx
  rw [h] at hgrow
  exact ⟨hgrow, fun hb => duplicate_of_copyEntries (copyLevels_grows _) (copyLevels_duplicates _)
    hs₁ (stat?_of_leads hmade.leads hmade.check) hmade.empty hb h⟩

end TemplatePress.FileSystem
