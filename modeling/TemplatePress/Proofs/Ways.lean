import TemplatePress.Proofs.Changes

/-!
# Ways to a directory

When a directory is made together with those missing above it, and when that is refused. This file
fixes, for paths without `..` on whose way no link stands:

* `descend`: what a look-up meets on its way down;
* `wayCheck`: what refuses a directory at the end of a way. Directories that are missing count as
  made, so the check says the same before and after they are made (`wayCheck_congr`);
* `Makes`: a way is made from above, name by name (`makes_ofComponents`, `makes_join`);
* `removeIfPresent_way`: removing what stands at the end of a way is refused as the check says, or
  the way `Clears`, so that making a directory there is;
* `makeDirectories_nowhere`: where look-ups start at no directory, none is made.
-/

namespace TemplatePress

namespace FileSystem

open TemplatePress.Path (Step Component)

/-! ## 1. Paths above that are not refused -/

theorem checkPath_eq_ok {p : Path} : checkPath p = .ok () ↔
    0 ∉ p.bytes ∧ p.bytes ≠ [] ∧ p.bytes.length < pathLimit := by
  unfold checkPath Path.isEmpty
  split
  · rename_i h
    simp [List.contains_iff_mem.1 h]
  · rename_i h
    have hnul : 0 ∉ p.bytes := fun hm => h (List.contains_iff_mem.2 hm)
    split
    · rename_i hempty
      simp [List.isEmpty_iff.1 hempty]
    · rename_i hne
      split <;> simp_all

/-- **What is above a path that is not refused is not refused.** -/
theorem checkPath_ofComponents {p : Path} (h : checkPath p = .ok ()) {cs : List Component}
    (hcs : cs <+: p.components) (hne : cs ≠ []) : checkPath (Path.ofComponents cs) = .ok () := by
  obtain ⟨hnul, -, hlen⟩ := checkPath_eq_ok.1 h
  obtain ⟨hshort, hbytes⟩ := Path.ofComponents_of_prefix hcs
  refine checkPath_eq_ok.2 ⟨fun hz => ?_, fun hnil => hne ?_, by omega⟩
  · rcases hbytes 0 hz with hsep | hz
    · cases hsep
    · exact hnul hz
  · rw [← Path.components_ofComponents ((Path.readable_components p).of_front hcs)]
    simp [Path.components, Path.isAbsolute, Path.parts, hnil, Path.split, Path.inner]

theorem checkPath_of_join {p : Path} {n : Name} (hn : Name.isOrdinary n = true)
    (hne : p.isEmpty = false) (h : checkPath (p.join ⟨n⟩) = .ok ()) : checkPath p = .ok () := by
  obtain ⟨hnul, -, hlen⟩ := checkPath_eq_ok.1 h
  have hlt := Path.length_lt_join_name p hn
  refine checkPath_eq_ok.2 ⟨fun hz => hnul (Path.mem_bytes_join p hn hz), fun hnil => ?_, by omega⟩
  simp [Path.isEmpty, hnil] at hne

/-! ## 2. Going down a way -/

/-- What a walk down names meets, of which the last is not looked up. -/
def descend (fs : FileSystem) (slash : Bool) : Location → List Name → Name → Except Errno Spot
  | dir, [], n => if nameLimit < n.length then .error .nameTooLong else .ok ⟨dir, .enter n, slash⟩
  | dir, m :: rest, n =>
    if nameLimit < m.length then .error .nameTooLong
    else
      match fs.at? (dir ++ [m]) with
      | none => .error .notFound
      | some .directory => descend fs slash (dir ++ [m]) rest n
      | some _ => .error .notDirectory

section Descend

variable {fs : FileSystem} {slash : Bool} {n : Name}

/-- **A walk without `..` and links goes down its names.** -/
theorem walkSteps_descend {expand : Walk} {steps : List Step} {dir : Location}
    (hup : Step.up ∉ steps) (hu : Unlinked fs dir (stepNames steps)) :
    fs.walkSteps false expand dir (steps ++ [.enter n]) slash =
      fs.descend slash dir (stepNames steps) n := by
  induction steps generalizing dir with
  | nil =>
    show fs.walkSteps false expand dir [.enter n] slash = fs.descend slash dir [] n
    unfold descend
    split
    · rename_i hlong
      exact walkSteps_last_error hlong
    · exact walkSteps_last (by omega) fun hf => by cases hf
  | cons step steps ih =>
    rw [List.mem_cons, not_or] at hup
    have hne : steps ++ [Step.enter n] ≠ [] := by simp
    cases step with
    | stay =>
      rw [List.cons_append, walkSteps_stay hne]
      exact ih hup.2 hu
    | up => exact absurd rfl hup.1
    | enter m =>
      have hnames : stepNames (.enter m :: steps) = m :: stepNames steps := rfl
      rw [hnames] at hu ⊢
      unfold descend
      split
      · rename_i hlong
        simp [walkSteps, hlong]
      · rename_i hshort
        have hlen : m.length ≤ nameLimit := by omega
        cases hat : fs.at? (dir ++ [m]) with
        | none => simp [walkSteps, hshort, hat]
        | some e =>
          cases e with
          | directory =>
            rw [List.cons_append, walkSteps_enter_directory hne hlen hat]
            exact ih hup.2 (Unlinked.tail hu)
          | file _ _ => simp [walkSteps, hshort, hat]
          | link target => exact absurd hat (hu.head target)

theorem descend_eq_ok {dir : Location} {names : List Name} {s : Spot}
    (h : fs.descend slash dir names n = .ok s) (hdir : fs.isDirectory dir = true) :
    fs.isDirectory (dir ++ names) = true ∧ ∀ m ∈ names ++ [n], m.length ≤ nameLimit := by
  induction names generalizing dir with
  | nil =>
    unfold descend at h
    split at h
    · cases h
    · refine ⟨by simpa using hdir, fun m hm => ?_⟩
      rw [List.nil_append, List.mem_singleton] at hm
      rw [hm]
      omega
  | cons k rest ih =>
    unfold descend at h
    split at h
    · cases h
    · split at h
      · cases h
      · rename_i hk _ hat
        obtain ⟨hdir', hshort⟩ := ih h (isDirectory_iff.2 hat)
        refine ⟨by simpa using hdir', fun m hm => ?_⟩
        rcases List.mem_cons.1 hm with rfl | hm
        · omega
        · exact hshort m hm
      · cases h

/-- Nothing but directories stands on the way, as far as anything does. -/
def Clear (fs : FileSystem) (dir : Location) (names : List Name) : Prop :=
  ∀ ns, ns <+: names → ns ≠ [] → fs.at? (dir ++ ns) = none ∨ fs.at? (dir ++ ns) = some .directory

theorem Clear.tail {dir : Location} {m : Name} {rest : List Name}
    (h : Clear fs dir (m :: rest)) : Clear fs (dir ++ [m]) rest := by
  intro ns hns hne
  rw [List.append_assoc]
  exact h (m :: ns) (by simpa using hns) (by simp)

theorem Clear.cons {dir : Location} {m : Name} {rest : List Name}
    (hat : fs.at? (dir ++ [m]) = none ∨ fs.at? (dir ++ [m]) = some .directory)
    (h : Clear fs (dir ++ [m]) rest) : Clear fs dir (m :: rest) := by
  intro ns hns hne
  obtain ⟨k, more, rfl⟩ := List.exists_cons_of_ne_nil hne
  obtain ⟨rfl, hmore⟩ := List.cons_prefix_cons.1 hns
  by_cases hnil : more = []
  · rwa [hnil]
  · rw [List.append_cons]
    exact h more hmore hnil

theorem Clear.unlinked {dir : Location} {names : List Name} (h : Clear fs dir names) :
    Unlinked fs dir names := by
  intro ns hns hne target hat
  rcases h ns hns hne with hnone | hdir
  · rw [hat] at hnone
    cases hnone
  · rw [hat] at hdir
    cases hdir

theorem clear_of_none {dir : Location} (hdir : fs.at? dir ≠ some .directory) (names : List Name) :
    Clear fs dir names :=
  fun _ _ hne => Or.inl (at?_append_eq_none hdir hne)

/-- What refuses a directory at the end of a way, where directories that are missing on the way are
    made: a name over its limit, or what is no directory. -/
def wayCheck (fs : FileSystem) : Location → List Name → Name → Except Errno Unit
  | _, [], n => if nameLimit < n.length then .error .nameTooLong else .ok ()
  | dir, m :: rest, n =>
    if nameLimit < m.length then .error .nameTooLong
    else
      match fs.at? (dir ++ [m]) with
      | none => wayCheck fs (dir ++ [m]) rest n
      | some .directory => wayCheck fs (dir ++ [m]) rest n
      | some _ => .error .notDirectory

theorem wayCheck_of_clear {dir : Location} {names : List Name} (h : Clear fs dir names) :
    fs.wayCheck dir names n =
      if ∀ m ∈ names ++ [n], m.length ≤ nameLimit then .ok () else .error .nameTooLong := by
  induction names generalizing dir with
  | nil =>
    unfold wayCheck
    by_cases hn : nameLimit < n.length
    · rw [if_pos hn, if_neg (by simpa using hn)]
    · rw [if_neg hn, if_pos (by simpa using hn)]
  | cons m rest ih =>
    unfold wayCheck
    by_cases hm : nameLimit < m.length
    · rw [if_pos hm, if_neg (fun hall => by have := hall m (by simp); omega)]
    · have hrest : fs.wayCheck (dir ++ [m]) rest n =
          if ∀ k ∈ m :: rest ++ [n], k.length ≤ nameLimit then .ok () else .error .nameTooLong := by
        have hm' : m.length ≤ nameLimit := by omega
        simp only [ih h.tail, List.cons_append, List.forall_mem_cons, hm', true_and]
      rw [if_neg hm]
      rcases h [m] (by simp) (by simp) with hat | hat <;> rw [hat] <;> exact hrest

/-- **What a walk meets, and what refuses a directory at its end:** a walk that finds something
    missing finds nothing else in its way. -/
theorem descend_wayCheck (fs : FileSystem) (slash : Bool) (dir : Location) (names : List Name)
    (n : Name) :
    (∃ s, fs.descend slash dir names n = .ok s ∧ fs.wayCheck dir names n = .ok ()) ∨
      (∃ e, fs.descend slash dir names n = .error e ∧ e ≠ .notFound ∧
        fs.wayCheck dir names n = .error e) ∨
      fs.descend slash dir names n = .error .notFound ∧ Clear fs dir names := by
  induction names generalizing dir with
  | nil =>
    unfold descend wayCheck
    split
    · exact Or.inr (Or.inl ⟨_, rfl, by decide, rfl⟩)
    · exact Or.inl ⟨_, rfl, rfl⟩
  | cons m rest ih =>
    unfold descend wayCheck
    split
    · exact Or.inr (Or.inl ⟨_, rfl, by decide, rfl⟩)
    · match hat : fs.at? (dir ++ [m]) with
      | none =>
        exact Or.inr (Or.inr ⟨rfl, (clear_of_none (by simp [hat]) rest).cons (Or.inl hat)⟩)
      | some .directory =>
        exact (ih _).imp_right fun h => h.imp_right fun ⟨he, hc⟩ => ⟨he, hc.cons (Or.inr hat)⟩
      | some (.file _ _) => exact Or.inr (Or.inl ⟨_, rfl, by decide, rfl⟩)
      | some (.link _) => exact Or.inr (Or.inl ⟨_, rfl, by decide, rfl⟩)

/-- Behind directories that stand, a name over the limit is in the way. -/
def Blocked (fs : FileSystem) (dir : Location) (names : List Name) : Prop :=
  ∃ front m, front ++ [m] <+: names ∧ nameLimit < m.length ∧ fs.isDirectory (dir ++ front) = true

theorem Blocked.mono {dir : Location} {names names' : List Name} (h : Blocked fs dir names)
    (hsub : names <+: names') : Blocked fs dir names' := by
  obtain ⟨front, m, hpre, hlong, hdir⟩ := h
  exact ⟨front, m, hpre.trans hsub, hlong, hdir⟩

/-- What is before a name of a way is on the way to the directory above. -/
theorem prefix_of_concat {front names : List Name} {m : Name}
    (h : front ++ [m] <+: names ++ [n]) : front <+: names := by
  rcases List.prefix_concat_iff.1 h with heq | h
  · rw [List.append_inj_left' heq rfl]
  · exact (List.prefix_append _ _).trans h

/-- Where the directory at the end of a way stands, a name over the limit in it or behind it is in
    the way. -/
theorem blocked_of_long {dir : Location} {names : List Name}
    (hdir : fs.isDirectory (dir ++ names) = true)
    (hlong : ¬ ∀ m ∈ names ++ [n], m.length ≤ nameLimit) : Blocked fs dir (names ++ [n]) := by
  obtain ⟨m, hm, hlong⟩ : ∃ m ∈ names ++ [n], ¬ m.length ≤ nameLimit := by
    simpa only [not_forall, exists_prop] using hlong
  obtain ⟨front, back, heq⟩ := List.append_of_mem hm
  have hpre : front ++ [m] <+: names ++ [n] := ⟨back, by simp [heq]⟩
  obtain ⟨more, rfl⟩ := prefix_of_concat hpre
  refine ⟨front, m, hpre, by omega, isDirectory_of_append more ?_⟩
  rwa [List.append_assoc]

/-- **A walk is refused for the name that is in its way.** -/
theorem descend_of_blocked {dir : Location} {names : List Name}
    (h : Blocked fs dir (names ++ [n])) : fs.descend slash dir names n = .error .nameTooLong := by
  obtain ⟨front, m, hpre, hlong, hdir⟩ := h
  induction names generalizing dir front with
  | nil =>
    obtain ⟨rfl, rfl⟩ : front = [] ∧ m = n := by
      have hlen := hpre.length_le
      cases front with
      | nil => simpa using hpre
      | cons k front => simp at hlen
    rw [descend, if_pos hlong]
  | cons k rest ih =>
    unfold descend
    split
    · rfl
    · rename_i hk
      cases front with
      | nil =>
        obtain rfl : m = k := by simpa using hpre
        exact absurd hlong hk
      | cons k' front =>
        obtain ⟨rfl, hrest⟩ := List.cons_prefix_cons.1 hpre
        rw [List.append_cons] at hdir
        rw [isDirectory_iff.1 (isDirectory_of_append front hdir)]
        exact ih front hrest hdir

theorem blocked_of_descend {dir : Location} {names : List Name} (hdir : fs.isDirectory dir = true)
    (h : fs.descend slash dir names n = .error .nameTooLong) : Blocked fs dir (names ++ [n]) := by
  induction names generalizing dir with
  | nil =>
    unfold descend at h
    split at h
    · rename_i hlong
      exact ⟨[], n, List.prefix_rfl, hlong, by rwa [List.append_nil]⟩
    · cases h
  | cons k rest ih =>
    unfold descend at h
    split at h
    · rename_i hlong
      exact ⟨[], k, by simp, hlong, by rwa [List.append_nil]⟩
    · split at h
      · cases h
      · rename_i hat
        obtain ⟨front, m, hpre, hlong, hfront⟩ := ih (isDirectory_iff.2 hat) h
        exact ⟨k :: front, m, by simpa using hpre, hlong, by rwa [List.append_cons]⟩
      · cases h

/-- **What refuses a directory does not depend on the directories that are made on its way.** -/
theorem wayCheck_congr {fs' : FileSystem} {dir : Location} {names : List Name}
    (h : ∀ ns, ns <+: names → ns ≠ [] → fs'.at? (dir ++ ns) = fs.at? (dir ++ ns) ∨
      fs.at? (dir ++ ns) = none ∧ fs'.at? (dir ++ ns) = some .directory) :
    fs'.wayCheck dir names n = fs.wayCheck dir names n := by
  induction names generalizing dir with
  | nil => rfl
  | cons m rest ih =>
    have hrest : fs'.wayCheck (dir ++ [m]) rest n = fs.wayCheck (dir ++ [m]) rest n := by
      refine ih fun ns hns _ => ?_
      rw [List.append_assoc]
      exact h (m :: ns) (by simpa using hns) (by simp)
    unfold wayCheck
    rcases h [m] (by simp) (by simp) with heq | ⟨hnone, hdir⟩
    · rw [heq, hrest]
    · rw [hnone, hdir, hrest]

end Descend

section Make

variable {fs : FileSystem} {p : Path} {n : Name}

theorem straight_of_clear (hup : p.NeverUp) (h : Clear fs (fs.start p) p.names) : fs.Straight p :=
  ⟨hup, h.unlinked⟩

/-- Where a way does not lead to its place, the look-up behind it tells what is missing or too
    long. -/
theorem spot_descend (hs : fs.Straight p) (hn : Name.isOrdinary n = true)
    (hc : checkPath (p.join ⟨n⟩) = .ok ()) :
    fs.spot false (p.join ⟨n⟩) =
      match fs.descend false (fs.start p) p.names n with
      | .ok s => .ok s
      | .error e => .error (.os e) := by
  have hw : fs.walk false linkLimit (fs.start (p.join ⟨n⟩)) (p.join ⟨n⟩).steps
      (p.join ⟨n⟩).endsInSeparator = fs.descend false (fs.start p) p.names n := by
    rw [walk_eq, start_join fs p hn, Path.steps_join_name p hn, Path.endsInSeparator_join_name p hn]
    exact walkSteps_descend hs.1 hs.unlinked
  cases hd : fs.descend false (fs.start p) p.names n with
  | ok s => exact spot_eq_ok.2 ⟨hc, hw.trans hd⟩
  | error e => exact spot_eq_error.2 (Or.inr ⟨hc, e, rfl, hw.trans hd⟩)

theorem leads_of_descend (hup : p.NeverUp) (hstart : fs.isDirectory (fs.start p) = true)
    {slash : Bool} {s : Spot} (h : fs.descend slash (fs.start p) p.names n = .ok s) :
    fs.Leads p (fs.place p) := by
  obtain ⟨hdir, hshort⟩ := descend_eq_ok h hstart
  exact leads_of_isDirectory hup (fun m hm => hshort m (List.mem_append_left _ hm)) hdir

theorem leadsToDirectory_of_leads {loc : Location} (h : fs.Leads p loc)
    (hc : checkPath p = .ok ()) : fs.leadsToDirectory p = true := by
  obtain ⟨s, hs, rfl, hdir⟩ := h
  refine leadsToDirectory_iff.2 ⟨s.location, stat?_eq_ok.2 ⟨s, spot_eq_ok.2 ⟨hc, hs⟩, rfl,
    isDirectory_iff.1 hdir, fun _ => rfl⟩⟩

theorem not_leadsToDirectory_of_long (hs : fs.Straight p)
    (hlong : ¬ ∀ m ∈ p.names, m.length ≤ nameLimit) : fs.leadsToDirectory p = false := by
  rw [← Bool.not_eq_true]
  intro h
  obtain ⟨loc, hstat⟩ := leadsToDirectory_iff.1 h
  exact hlong (place_of_leads hs (leads_of_stat? hstat)).2

/-- How the directories of a way are made that is clear: all, or some up to a name over its limit. -/
structure Makes (fs : FileSystem) (p : Path) (way : List Path) : Prop where
  short : (∀ m ∈ p.names, m.length ≤ nameLimit) →
    ∃ fs', makeFirst way fs = .ok () fs' ∧ fs'.isDirectory (fs.place p) = true
  long : (¬ ∀ m ∈ p.names, m.length ≤ nameLimit) →
    ∃ fs', makeFirst way fs = .error (.os .nameTooLong) fs' ∧ Blocked fs' (fs.start p) p.names

section Step

variable {above : List Path} (hup : p.NeverUp) (hn : Name.isOrdinary n = true)
  (hc : checkPath (p.join ⟨n⟩) = .ok ())

include hc in
theorem nameCheck_of_checkPath :
    nameCheck p n = if nameLimit < n.length then .error (.os .nameTooLong) else .ok () := by
  unfold nameCheck
  rw [hc]

include hn hc

/-- Where the directory above stands, one is made or its name is over the limit. -/
theorem makeDirectory_cases (hl : fs.Leads p (fs.place p))
    (hat : fs.at? (fs.place p ++ [n]) = none ∨ fs.at? (fs.place p ++ [n]) = some .directory) :
    (n.length ≤ nameLimit ∧ (fs.at? (fs.place p ++ [n]) = none ∧
        fs.makeDirectory (p.join ⟨n⟩) = .ok (fs.put (fs.place p) n .directory) ∨
      fs.at? (fs.place p ++ [n]) = some .directory ∧
        fs.makeDirectory (p.join ⟨n⟩) = .error (.os .alreadyExists) ∧
        fs.leadsToDirectory (p.join ⟨n⟩) = true)) ∨
      nameLimit < n.length ∧ fs.makeDirectory (p.join ⟨n⟩) = .error (.os .nameTooLong) ∧
        fs.leadsToDirectory (p.join ⟨n⟩) = false := by
  have hcheck := nameCheck_of_checkPath hc
  by_cases hlen : nameLimit < n.length
  · rw [if_pos hlen] at hcheck
    refine Or.inr ⟨hlen, makeDirectory_join_error hl hn hcheck, ?_⟩
    simp [leadsToDirectory, stat?_join_error hl hn hcheck]
  · rw [if_neg hlen] at hcheck
    refine Or.inl ⟨by omega, ?_⟩
    rcases hat with hat | hat
    · exact Or.inl ⟨hat, makeDirectory_join_none hl hn hcheck hat⟩
    · exact Or.inr ⟨hat, makeDirectory_join_some hl hn hcheck hat,
        leadsToDirectory_of_leads (hl.join hn (by omega) hat) hc⟩

omit hc in
theorem forall_names_join : (∀ m ∈ (p.join ⟨n⟩).names, m.length ≤ nameLimit) ↔
    (∀ m ∈ p.names, m.length ≤ nameLimit) ∧ n.length ≤ nameLimit := by
  rw [Path.names_join_name p hn, List.forall_mem_append, List.forall_mem_singleton]

omit hc in
/-- A name over the limit is in the way behind the directory above. -/
theorem blocked_join (hl : fs.Leads p (fs.place p)) (hlen : nameLimit < n.length) :
    Blocked fs (fs.start (p.join ⟨n⟩)) (p.join ⟨n⟩).names := by
  rw [start_join fs p hn, Path.names_join_name p hn]
  exact ⟨p.names, n, List.prefix_rfl, hlen, hl.isDirectory⟩

/-- Where the directory above stands, nothing above it is made. -/
theorem makes_of_leads (hl : fs.Leads p (fs.place p))
    (hshort : ∀ m ∈ p.names, m.length ≤ nameLimit)
    (hat : fs.at? (fs.place p ++ [n]) = none ∨ fs.at? (fs.place p ++ [n]) = some .directory) :
    Makes fs (p.join ⟨n⟩) (p.join ⟨n⟩ :: above) := by
  have hplace := place_join fs p hn
  have hempty := Path.isEmpty_join_name p hn
  have hall := forall_names_join (p := p) hn
  rcases makeDirectory_cases hn hc hl hat with ⟨hlen, ⟨hnone, hmk⟩ | ⟨hdir, hmk, hto⟩⟩ |
    ⟨hlen, hmk, hto⟩
  · have hadm := admits_join hl hn (Or.inl rfl : Entry.directory = .directory ∨ _)
    refine ⟨fun _ => ⟨_, makeFirst_of_ok hempty hmk, ?_⟩,
      fun hlong => absurd (hall.2 ⟨hshort, hlen⟩) hlong⟩
    rw [hplace, isDirectory_iff, at?_put hadm, if_pos rfl]
  · refine ⟨fun _ => ⟨fs, ?_, ?_⟩, fun hlong => absurd (hall.2 ⟨hshort, hlen⟩) hlong⟩
    · rw [makeFirst_of_error hempty hmk rfl, hto]
      rfl
    · rw [hplace, isDirectory_iff, hdir]
  · refine ⟨fun h => absurd (hall.1 h).2 (by omega), fun _ => ⟨fs, ?_, blocked_join hn hl hlen⟩⟩
    rw [makeFirst_of_error hempty hmk rfl, hto]
    rfl

include hup in
/-- Where the directory above is missing, it is made with what is above it, and then the name. -/
theorem Makes.of_missing (hl : ¬ fs.Leads p (fs.place p))
    (hmk : fs.makeDirectory (p.join ⟨n⟩) = .error (.os .notFound))
    (hadds : Adds (fs.place p) fs (Disk.left (makeFirst above fs))) (hm : Makes fs p above) :
    Makes fs (p.join ⟨n⟩) (p.join ⟨n⟩ :: above) := by
  have hall := forall_names_join (p := p) hn
  have hfirst := makeFirst_of_missing above (Path.isEmpty_join_name p hn) hmk rfl
  by_cases hshort : ∀ m ∈ p.names, m.length ≤ nameLimit
  · obtain ⟨fs₁, heq, hdir₁⟩ := hm.short hshort
    rw [heq] at hfirst
    rw [heq, Disk.left_ok] at hadds
    have hnone : fs.at? (fs.place p ++ [n]) = none :=
      at?_append_eq_none
        (fun hdir => hl (leads_of_isDirectory hup hshort (isDirectory_iff.2 hdir))) (by simp)
    have hl₁ : fs₁.Leads p (fs₁.place p) :=
      leads_of_isDirectory hup hshort (by rwa [hadds.place_eq])
    have hnone₁ : fs₁.at? (fs₁.place p ++ [n]) = none := by
      rw [hadds.place_eq, hadds.below (by simp), hnone]
    rcases makeDirectory_cases hn hc hl₁ (Or.inl hnone₁) with
      ⟨hlen, ⟨-, hmk₁⟩ | ⟨hdir, -⟩⟩ | ⟨hlen, hmk₁, hto⟩
    · have hadm := admits_join hl₁ hn (Or.inl rfl : Entry.directory = .directory ∨ _)
      simp only [hmk₁] at hfirst
      refine ⟨fun _ => ⟨_, hfirst, ?_⟩, fun hlong => absurd (hall.2 ⟨hshort, hlen⟩) hlong⟩
      rw [place_join fs p hn, ← hadds.place_eq, isDirectory_iff, at?_put hadm, if_pos rfl]
    · rw [hnone₁] at hdir
      cases hdir
    · simp only [hmk₁, hto] at hfirst
      have hblocked := blocked_join hn hl₁ hlen
      rw [start, hadds.home, ← start] at hblocked
      exact ⟨fun h => absurd (hall.1 h).2 (by omega), fun _ => ⟨fs₁, hfirst, hblocked⟩⟩
  · obtain ⟨fs₁, heq, hblocked⟩ := hm.long hshort
    rw [heq] at hfirst
    refine ⟨fun h => absurd (hall.1 h).1 hshort, fun _ => ⟨fs₁, hfirst, ?_⟩⟩
    rw [start_join fs p hn, Path.names_join_name p hn]
    exact hblocked.mono (List.prefix_append _ _)

include hup in
/-- **A way that is clear is made one name further.** -/
theorem Makes.join (hstart : fs.isDirectory (fs.start p) = true)
    (hclear : Clear fs (fs.start p) (p.names ++ [n]))
    (hadds : Adds (fs.place p) fs (Disk.left (makeFirst above fs))) (hm : Makes fs p above) :
    Makes fs (p.join ⟨n⟩) (p.join ⟨n⟩ :: above) := by
  have hclear' : Clear fs (fs.start p) p.names :=
    fun ns hns => hclear ns (hns.trans (List.prefix_append _ _))
  have hs := straight_of_clear hup hclear'
  have hat : fs.at? (fs.place p ++ [n]) = none ∨ fs.at? (fs.place p ++ [n]) = some .directory := by
    rw [place, List.append_assoc]
    exact hclear _ List.prefix_rfl (by simp)
  by_cases hl : fs.Leads p (fs.place p)
  · exact makes_of_leads hn hc hl (place_of_leads hs hl).2 hat
  · have hspot := spot_descend hs hn hc
    rcases descend_wayCheck fs false (fs.start p) p.names n with
      ⟨s, hd, -⟩ | ⟨e, hd, hne, hw⟩ | ⟨hd, -⟩ <;> rw [hd] at hspot
    · exact absurd (leads_of_descend hup hstart hd) hl
    · -- a name is over its limit, and the walk comes as far
      rw [wayCheck_of_clear hclear'] at hw
      split at hw <;> cases hw
      rename_i hlong
      rw [← Path.names_join_name p hn] at hlong
      have hmk : fs.makeDirectory (p.join ⟨n⟩) = .error (.os .nameTooLong) := by
        rw [makeDirectory, hspot]
      have hs' : fs.Straight (p.join ⟨n⟩) := hs.join hn fun target ht => by
        rcases hat with hat | hat <;> rw [hat] at ht <;> cases ht
      refine ⟨fun h => absurd h hlong, fun _ => ⟨fs, ?_, ?_⟩⟩
      · rw [makeFirst_of_error (Path.isEmpty_join_name p hn) hmk rfl,
          not_leadsToDirectory_of_long hs' hlong]
        rfl
      · rw [start_join fs p hn, Path.names_join_name p hn]
        exact blocked_of_descend hstart hd
    · exact Makes.of_missing hup hn hc hl (by rw [makeDirectory, hspot]) hadds hm

end Step

/-! ## 3. Making a way -/

/-- A path that leads down by no name is where its look-up starts, and need not be made. -/
theorem makes_of_steps (hc : checkPath p = .ok ()) (hsteps : p.steps = [] ∨ p.steps = [.stay])
    (hstart : fs.isDirectory (fs.start p) = true) (above : List Path) :
    Makes fs p (p :: above) := by
  have hnames : p.names = [] := by
    unfold Path.names
    rcases hsteps with h | h <;> rw [h] <;> rfl
  have hup : p.NeverUp := by
    unfold Path.NeverUp
    rcases hsteps with h | h <;> rw [h] <;> decide
  have hplace : fs.place p = fs.start p := by rw [place, hnames, List.append_nil]
  have hspot : fs.spot false p = .ok ⟨fs.start p, .stay, p.endsInSeparator⟩ := by
    refine spot_eq_ok.2 ⟨hc, ?_⟩
    rw [walk_eq]
    rcases hsteps with h | h <;> rw [h] <;> rfl
  have hmk : fs.makeDirectory p = .error (.os .alreadyExists) := by
    rw [makeDirectory, hspot]
  have hto : fs.leadsToDirectory p = true :=
    leadsToDirectory_of_leads
      (leads_of_isDirectory hup (by simp [hnames]) (by rwa [hplace])) hc
  have hempty : p.isEmpty = false := by
    obtain ⟨-, hne, -⟩ := checkPath_eq_ok.1 hc
    simpa [Path.isEmpty] using hne
  refine ⟨fun _ => ⟨fs, ?_, by rwa [hplace]⟩, fun hlong => absurd (by simp [hnames]) hlong⟩
  rw [makeFirst_of_error hempty hmk rfl, hto]
  rfl

theorem adds_ancestors (hs : fs.Straight p) (k : Nat) :
    Adds (fs.place p) fs (Disk.left (makeFirst (ancestorsFrom k p) fs)) :=
  makeFirst_adds fun _ hq => straight_of_mem_ancestorsFrom hs hq

/-- **A written path is made with all paths above it.** -/
theorem makes_ofComponents {cs : List Component} (hread : Path.Readable cs)
    (hup : (Path.ofComponents cs).NeverUp)
    (hstart : fs.isDirectory (fs.start (Path.ofComponents cs)) = true)
    (hclear : Clear fs (fs.start (Path.ofComponents cs)) (Path.ofComponents cs).names)
    (hcheck : ∀ ds, ds <+: cs → ds ≠ [] → checkPath (Path.ofComponents ds) = .ok ()) :
    Makes fs (Path.ofComponents cs) (ancestorsFrom cs.length (Path.ofComponents cs)) := by
  induction cs using List.reverseRecOn with
  | nil =>
    have hplace : fs.place (Path.ofComponents []) = fs.start (Path.ofComponents []) :=
      List.append_nil _
    exact ⟨fun _ => ⟨fs, rfl, by rwa [hplace]⟩, fun hlong => absurd (fun m hm => by cases hm) hlong⟩
  | append_singleton cs c ih =>
    have hc := hcheck _ List.prefix_rfl (by simp)
    obtain ⟨above, habove⟩ :=
      ancestorsFrom_eq_cons (cs ++ [c]).length (Path.ofComponents (cs ++ [c]))
    cases c with
    | root =>
      obtain rfl := Path.eq_nil_of_readable hread (Or.inl rfl)
      rw [habove]
      exact makes_of_steps hc (Or.inl rfl) hstart above
    | current =>
      obtain rfl := Path.eq_nil_of_readable hread (Or.inr rfl)
      rw [habove]
      exact makes_of_steps hc (Or.inr rfl) hstart above
    | parent =>
      refine absurd ?_ hup
      rw [Path.steps_ofComponents hread.1]
      simp [Component.steps]
    | normal n =>
      have hn : Name.isOrdinary n = true := hread.1 n (by simp)
      have hread' := hread.of_front (List.prefix_append cs _)
      rw [List.length_append, List.length_singleton, ancestorsFrom,
        Path.parent?_ofComponents hread (by simp)]
      rw [Path.ofComponents_concat hread] at hup hstart hclear hc ⊢
      rw [Path.neverUp_join_name _ hn] at hup
      rw [start_join fs _ hn] at hstart hclear
      rw [Path.names_join_name _ hn] at hclear
      have hclear' : Clear fs (fs.start (Path.ofComponents cs)) (Path.ofComponents cs).names :=
        fun ns hns => hclear ns (hns.trans (List.prefix_append _ _))
      exact Makes.join hup hn hc hstart hclear (adds_ancestors (straight_of_clear hup hclear') _)
        (ih hread' hup hstart hclear' fun ds hds => hcheck ds (hds.trans (List.prefix_append _ _)))

/-- **A directory behind a way that is clear is made**, or refused for a name over its limit. -/
theorem makes_join (hup : p.NeverUp) (hn : Name.isOrdinary n = true)
    (hc : checkPath (p.join ⟨n⟩) = .ok ()) (hstart : fs.isDirectory (fs.start p) = true)
    (hclear : Clear fs (fs.start p) (p.names ++ [n])) :
    Makes fs (p.join ⟨n⟩)
      (ancestorsFrom (p.join ⟨n⟩).components.length (p.join ⟨n⟩)) := by
  obtain ⟨hnames, hup', habs⟩ := Path.steps_of_components p
  have hstart' : fs.start (Path.ofComponents p.components) = fs.start p := by
    rw [start, start, habs]
  have hplace : fs.place (Path.ofComponents p.components) = fs.place p := by
    rw [place, place, hstart', hnames]
  have hclear' : Clear fs (fs.start p) p.names :=
    fun ns hns => hclear ns (hns.trans (List.prefix_append _ _))
  have hm := makes_ofComponents (Path.readable_components p) (hup'.2 hup) (by rwa [hstart'])
    (by rwa [hstart', hnames]) fun ds hds hne => checkPath_ofComponents hc (by
      rw [Path.components_join_name p hn]
      exact hds.trans (List.prefix_append _ _)) hne
  have hs : fs.Straight (Path.ofComponents p.components) :=
    straight_of_clear (hup'.2 hup) (by rwa [hstart', hnames])
  have hadds := adds_ancestors hs p.components.length
  rw [hplace] at hadds
  rw [Path.components_join_name p hn, List.length_append, List.length_singleton, ancestorsFrom,
    Path.parent?_join_name p hn]
  refine Makes.join hup hn hc hstart hclear hadds ⟨fun hshort => ?_, fun hlong => ?_⟩
  · rw [← hplace]
    exact hm.short (by rwa [hnames])
  · have hblocked := hm.long (by rwa [hnames])
    rwa [hstart', hnames] at hblocked

/-- **A directory that cannot be made leaves its place as it was.** -/
theorem makeDirectories_refused (hs : fs.Straight p) (hn : Name.isOrdinary n = true) {e : IoError}
    {fs' : FileSystem} (h : makeDirectories (p.join ⟨n⟩) fs = .error e fs') :
    Adds (fs.place p) fs fs' := by
  obtain ⟨hnames, hup, habs⟩ := Path.steps_of_components p
  have hstart : fs.start (Path.ofComponents p.components) = fs.start p := by
    rw [start, start, habs]
  have hs' : fs.Straight (Path.ofComponents p.components) := by
    refine ⟨hup.2 hs.1, ?_⟩
    rw [hnames, hstart]
    exact hs.2
  have habove := adds_ancestors hs' p.components.length
  rw [place, hnames, hstart, ← place] at habove
  rw [makeDirectories, Path.components_join_name p hn, List.length_append, List.length_singleton,
    ancestorsFrom, Path.parent?_join_name p hn] at h
  unfold makeFirst at h
  rw [if_neg (by rw [Path.isEmpty_join_name p hn]; simp)] at h
  split at h
  · cases h
  · split at h
    · split at h
      · rename_i heq
        cases h
        rwa [heq] at habove
      · rename_i heq
        rw [heq, Disk.left_ok] at habove
        split at h
        · cases h
        · split at h <;> cases h
          exact habove
    · split at h <;> cases h
      exact Adds.refl _ _

theorem Clear.concat {dir : Location} {names : List Name} (h : Clear fs dir names)
    (hat : fs.at? (dir ++ names ++ [n]) = none) : Clear fs dir (names ++ [n]) := by
  intro ns hns hne
  rcases List.prefix_concat_iff.1 hns with rfl | hns
  · rw [← List.append_assoc]
    exact Or.inl hat
  · exact h ns hns hne

theorem clear_of_isDirectory (hdir : fs.isDirectory (fs.place p) = true) :
    Clear fs (fs.start p) p.names := by
  rintro ns ⟨more, hmore⟩ -
  refine Or.inr (isDirectory_iff.1 (isDirectory_of_append more ?_))
  rwa [List.append_assoc, hmore]

/-- What the check of a way says of an action that is refused as it says, or not at all. -/
def Follows {α : Type} (check : Except Errno Unit) (x : EStateM.Result IoError FileSystem α) :
    Prop :=
  match check with
  | .ok () => ∃ a fs', x = .ok a fs'
  | .error e => ∃ fs', x = .error (.os e) fs'

theorem Follows.outcome {check : Except Errno Unit} {x : EStateM.Result IoError FileSystem Unit}
    (h : Follows check x) : Disk.outcome x = check.mapError .os := by
  cases check with
  | ok u =>
    obtain ⟨_, fs', rfl⟩ := h
    rfl
  | error e =>
    obtain ⟨fs', rfl⟩ := h
    rfl

/-- A way that is made from above is refused exactly for its names. -/
theorem Makes.follows {q : Path} (h : Makes fs q (ancestorsFrom q.components.length q)) :
    Follows (if ∀ m ∈ q.names, m.length ≤ nameLimit then .ok () else .error .nameTooLong)
      (makeDirectories q fs) := by
  split
  · rename_i hshort
    obtain ⟨fs', heq, -⟩ := h.short hshort
    exact ⟨(), fs', heq⟩
  · rename_i hlong
    obtain ⟨fs', heq, -⟩ := h.long hlong
    exact ⟨fs', heq⟩

theorem Makes.blocked {q : Path} (h : Makes fs q (ancestorsFrom q.components.length q)) {e : IoError}
    {fs₁ : FileSystem} (hm : makeDirectories q fs = .error e fs₁) :
    Blocked fs₁ (fs.start q) q.names := by
  rw [makeDirectories] at hm
  by_cases hshort : ∀ m ∈ q.names, m.length ≤ nameLimit
  · obtain ⟨fs', heq, -⟩ := h.short hshort
    rw [heq] at hm
    cases hm
  · obtain ⟨fs', heq, hblocked⟩ := h.long hshort
    rw [heq] at hm
    cases hm
    exact hblocked

/-- What stands at the end of a way can be removed, and then making a directory there is refused as
    the check of the way says: for a name, once directories stand as far as to it. -/
structure Clears (fs : FileSystem) (p : Path) (n : Name) : Prop where
  removed : removeIfPresent (p.join ⟨n⟩) fs = .ok () (fs.prune (fs.place p ++ [n]))
  short : (∀ m ∈ p.names ++ [n], m.length ≤ nameLimit) →
    fs.wayCheck (fs.start p) p.names n = .ok ()
  follows : Follows (fs.wayCheck (fs.start p) p.names n)
    (makeDirectories (p.join ⟨n⟩) (fs.prune (fs.place p ++ [n])))
  blocked : ∀ e fs₁, makeDirectories (p.join ⟨n⟩) (fs.prune (fs.place p ++ [n])) = .error e fs₁ →
    Blocked fs₁ (fs.start p) (p.names ++ [n])

/-- Where the directory above stands, a directory is made if its name is within the limit. -/
theorem clears_of_leads (hs : fs.Straight p) (hl : fs.Leads p (fs.place p))
    (hn : Name.isOrdinary n = true) (hcheck : nameCheck p n = .ok ())
    (hlen : n.length ≤ nameLimit) : Clears fs p n := by
  have hall : ∀ m ∈ p.names ++ [n], m.length ≤ nameLimit := by
    rw [List.forall_mem_append, List.forall_mem_singleton]
    exact ⟨(place_of_leads hs hl).2, hlen⟩
  have hway := wayCheck_of_clear (n := n) (clear_of_isDirectory hl.isDirectory)
  rw [if_pos hall] at hway
  have hst := steady_of_straight hs hl n
  have hmade := makeDirectories_join_none (hst _ (sameOutside_prune fs _)) hn hcheck
    (at?_prune_self fs _ (by simp))
  refine ⟨removeIfPresent_join hst hn hcheck, fun _ => hway, ?_, fun e fs₁ hm => ?_⟩
  · rw [hway]
    exact ⟨(), _, hmade⟩
  · rw [hmade] at hm
    cases hm

/-- Where directories are missing above, there is nothing to remove, and they are made as well. -/
theorem clears_of_clear (hs : fs.Straight p) (hn : Name.isOrdinary n = true)
    (hc : checkPath (p.join ⟨n⟩) = .ok ()) (hstart : fs.isDirectory (fs.start p) = true)
    (hspot : fs.spot false (p.join ⟨n⟩) = .error (.os .notFound))
    (hclear : Clear fs (fs.start p) p.names) : Clears fs p n := by
  have hnone : fs.at? (fs.place p ++ [n]) = none := by
    refine at?_append_eq_none (fun hdir => ?_) (by simp)
    have := isNotFound_of_spot hs hn (isDirectory_iff.2 hdir) hspot
    cases this
  have hmakes := makes_join hs.1 hn hc hstart (hclear.concat hnone)
  have hnames := Path.names_join_name p hn
  refine ⟨?_, fun hshort => ?_, ?_, fun e fs₁ hm => ?_⟩
  · rw [prune_eq_self hnone]
    simp only [removeIfPresent, lstat?, Path.endsInSeparator_join_name p hn, hspot]
    rfl
  · rw [wayCheck_of_clear hclear, if_pos hshort]
  · rw [prune_eq_self hnone, wayCheck_of_clear hclear, ← hnames]
    exact hmakes.follows
  · rw [prune_eq_self hnone] at hm
    rw [← hnames, ← start_join fs p hn]
    exact hmakes.blocked hm

/-- **Removing what stands at the end of a way and making a directory there** is refused as the
    check of the way says, by the one or by the other; by removing, if all names are within the
    limit. -/
theorem removeIfPresent_way (hs : fs.Straight p) (hn : Name.isOrdinary n = true)
    (hc : checkPath (p.join ⟨n⟩) = .ok ()) (hstart : fs.isDirectory (fs.start p) = true) :
    (∃ e, removeIfPresent (p.join ⟨n⟩) fs = .error (.os e) fs ∧
        fs.wayCheck (fs.start p) p.names n = .error e) ∨ Clears fs p n := by
  have hcheck := nameCheck_of_checkPath hc
  by_cases hl : fs.Leads p (fs.place p)
  · by_cases hlen : nameLimit < n.length
    · have hway := wayCheck_of_clear (n := n) (clear_of_isDirectory hl.isDirectory)
      rw [if_pos hlen] at hcheck
      rw [if_neg fun h => absurd (h n (by simp)) (by omega)] at hway
      exact Or.inl ⟨_, removeIfPresent_join_error hl hn hcheck, hway⟩
    · rw [if_neg hlen] at hcheck
      exact Or.inr (clears_of_leads hs hl hn hcheck (by omega))
  · have hspot := spot_descend hs hn hc
    rcases descend_wayCheck fs false (fs.start p) p.names n with
      ⟨s, hd, -⟩ | ⟨e, hd, hne, hw⟩ | ⟨hd, hclear⟩ <;> rw [hd] at hspot
    · exact absurd (leads_of_descend hs.1 hstart hd) hl
    · have hfound : (IoError.os e).isNotFound = false := by
        simpa [IoError.isNotFound] using hne
      refine Or.inl ⟨e, ?_, hw⟩
      simp only [removeIfPresent, lstat?, Path.endsInSeparator_join_name p hn, hspot, hfound]
      rfl
    · exact Or.inr (clears_of_clear hs hn hc hstart hspot hclear)

/-! ## 4. Where look-ups start nowhere -/

/-- A walk down names ends in the directory where it starts, or below. -/
theorem prefix_of_walkSteps {follow slash slash' : Bool} {expand : Walk} {steps : List Step}
    {dir d : Location} {m : Name} (hup : Step.up ∉ steps) (hu : Unlinked fs dir (stepNames steps))
    (h : fs.walkSteps follow expand dir steps slash = .ok ⟨d, .enter m, slash'⟩) : dir <+: d := by
  induction steps generalizing dir with
  | nil => cases h
  | cons step steps ih =>
    rw [List.mem_cons, not_or] at hup
    by_cases hnil : steps = []
    · subst hnil
      cases step with
      | stay => cases h
      | up => exact absurd rfl hup.1
      | enter k =>
        obtain ⟨-, ⟨-, heq⟩ | ⟨target, -, hat, -⟩⟩ := walkSteps_last_ok h
        · cases heq
          exact List.prefix_rfl
        · exact absurd hat (hu.head target)
    · cases step with
      | stay =>
        rw [walkSteps_stay hnil] at h
        exact ih hup.2 hu h
      | up => exact absurd rfl hup.1
      | enter k =>
        obtain ⟨-, ⟨-, hs⟩ | ⟨target, hat, -⟩⟩ := walkSteps_enter_ok hnil h
        · exact (List.prefix_append _ _).trans (ih hup.2 (Unlinked.tail hu) hs)
        · exact absurd hat (hu.head target)

/-- Where the look-up starts at no directory, none is made. -/
theorem makeDirectory_nowhere (hs : fs.Straight p) (hstart : ¬ fs.isDirectory (fs.start p) = true)
    (fs' : FileSystem) : fs.makeDirectory p ≠ .ok fs' := by
  intro h
  obtain ⟨d, m, slash, hspot, -, hadm, -⟩ := makeDirectory_eq_ok h
  obtain ⟨-, hw⟩ := spot_eq_ok.1 hspot
  rw [walk_eq] at hw
  obtain ⟨more, rfl⟩ := prefix_of_walkSteps hs.1 hs.unlinked hw
  simp only [admits, Bool.and_eq_true] at hadm
  exact hstart (isDirectory_of_append more hadm.1.2)

theorem makeFirst_nowhere {qs : List Path}
    (h : ∀ q ∈ qs, ∀ fs', fs.makeDirectory q ≠ .ok fs') : Disk.left (makeFirst qs fs) = fs := by
  have hkept : fs = Disk.left (makeFirst qs fs) := by
    refine makeFirst_left (fun q hq fs₁ fs₂ heq hmade => ?_) rfl
    subst heq
    exact absurd hmade (h q hq fs₂)
  exact hkept.symm

theorem makeDirectories_nowhere (hs : fs.Straight p) (hn : Name.isOrdinary n = true)
    (hstart : ¬ fs.isDirectory (fs.start p) = true) :
    ∃ e, makeDirectories (p.join ⟨n⟩) fs = .error e fs := by
  have hplace : ¬ fs.at? (fs.place p) = some .directory := fun hat =>
    hstart (isDirectory_of_append p.names (isDirectory_iff.2 hat))
  have hnone : fs.at? (fs.place p ++ [n]) = none := at?_append_eq_none hplace (by simp)
  have hs' : fs.Straight (p.join ⟨n⟩) := hs.join hn (by simp [hnone])
  have hleft : Disk.left (makeDirectories (p.join ⟨n⟩) fs) = fs := by
    refine makeFirst_nowhere fun q hq => makeDirectory_nowhere
      (straight_of_mem_ancestorsFrom hs' hq).1 ?_
    obtain ⟨-, -, habs⟩ := names_of_mem_ancestorsFrom hq
    rwa [start, habs, ← start, start_join fs p hn]
  cases hm : makeDirectories (p.join ⟨n⟩) fs with
  | error e fs' =>
    rw [hm, Disk.left_error] at hleft
    exact ⟨e, by rw [hleft]⟩
  | ok _ fs' =>
    obtain ⟨-, -, hdir⟩ := (makeDirectories_straight hs hn (by simp [hnone])).2 fs' hm
    rw [hm, Disk.left_ok] at hleft
    rw [hleft, hnone] at hdir
    cases hdir

end Make

end FileSystem

end TemplatePress
