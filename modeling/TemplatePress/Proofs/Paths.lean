import Mathlib.Data.List.Infix
import TemplatePress.FileSystem.Basic

/-!
# Joined paths

How the two readings of a path, its components and the steps of a look-up, follow a path through
`join` and through `parent?`. This file fixes:

* the parts of a path around a separator (`split_append_separator`), hence the steps of a joined
  path (`steps_join`) and its components (`components_join`);
* `Path.under`, a path with names put behind it, and that different names make different paths
  (`under_injective`);
* `Path.names`, the names that a path leads down by, and `NeverUp`, that no part of it leads up;
* the path above: its names are a beginning of the names (`names_of_parent?`);
* every path above: it reads as a beginning of the components (`components_ofComponents`) and is no
  longer than the path (`ofComponents_of_prefix`).
-/

namespace TemplatePress

/-! ## 1. Ordinary names -/

theorem Name.isOrdinary_iff {n : Name} : Name.isOrdinary n = true ↔
    n ≠ [] ∧ n ≠ Path.here ∧ n ≠ Path.above ∧ Path.separator ∉ n := by
  simp [Name.isOrdinary, and_assoc]

namespace Path

/-! ## 2. Parts -/

theorem split_ne_nil (bs : Bytes) : split bs ≠ [] := by
  cases bs with
  | nil => simp [split]
  | cons b rest =>
    unfold split
    split
    · simp
    · split <;> simp

/-- **A separator parts what is before it from what is behind it.** -/
theorem split_append_separator (a b : Bytes) :
    split (a ++ separator :: b) = split a ++ split b := by
  induction a with
  | nil => simp [split]
  | cons x a ih =>
    by_cases hx : x = separator
    · simp [split, hx, ih]
    · simp only [List.cons_append, split, hx, if_false, ih]
      cases hs : split a with
      | nil => exact absurd hs (split_ne_nil a)
      | cons part parts => rfl

theorem split_eq_singleton {n : Bytes} (h : separator ∉ n) : split n = [n] := by
  induction n with
  | nil => rfl
  | cons b n ih =>
    rw [List.mem_cons, not_or] at h
    have hb : b ≠ separator := fun e => h.1 e.symm
    simp [split, hb, ih h.2]

theorem separator_notMem_of_mem_split {bs part : Bytes} (h : part ∈ split bs) :
    separator ∉ part := by
  induction bs generalizing part with
  | nil =>
    rw [split, List.mem_singleton] at h
    subst h
    exact List.not_mem_nil
  | cons b bs ih =>
    by_cases hb : b = separator
    · simp only [split, hb, if_true, List.mem_cons] at h
      rcases h with rfl | h
      · exact List.not_mem_nil
      · exact ih h
    · simp only [split, hb, if_false] at h
      cases hs : split bs with
      | nil => exact absurd hs (split_ne_nil bs)
      | cons first parts =>
        rw [hs] at h ih
        rcases List.mem_cons.1 h with rfl | h
        · rw [List.mem_cons, not_or]
          exact ⟨fun e => hb e.symm, ih List.mem_cons_self⟩
        · exact ih (List.mem_cons_of_mem _ h)

/-- A part of a path is not empty and holds no separator. -/
theorem mem_parts {p : Path} {part : Bytes} (h : part ∈ p.parts) :
    part ≠ [] ∧ separator ∉ part := by
  rw [parts, List.mem_filter] at h
  refine ⟨?_, separator_notMem_of_mem_split h.1⟩
  rintro rfl
  simp at h

theorem isOrdinary_of_mem_parts {p : Path} {part : Bytes} (h : part ∈ p.parts)
    (hhere : part ≠ here) (habove : part ≠ above) : Name.isOrdinary part = true :=
  Name.isOrdinary_iff.2 ⟨(mem_parts h).1, hhere, habove, (mem_parts h).2⟩

theorem exists_append_separator {bs : Bytes} (h : bs.getLast? = some separator) :
    ∃ front, bs = front ++ [separator] :=
  List.getLast?_eq_some_iff.1 h

theorem parts_append_of_endsInSeparator {p : Path} (h : p.endsInSeparator = true) (b : Bytes) :
    (⟨p.bytes ++ b⟩ : Path).parts = p.parts ++ (⟨b⟩ : Path).parts := by
  obtain ⟨front, hfront⟩ := exists_append_separator (by simpa [endsInSeparator] using h)
  have hback : split p.bytes = split front ++ [[]] := by
    rw [hfront, split_append_separator]
    rfl
  have hall : split (p.bytes ++ b) = split front ++ split b := by
    rw [hfront, List.append_assoc, List.singleton_append, split_append_separator]
  simp [parts, hback, hall]

/-- **The parts of a joined path are those of its two sides.** -/
theorem parts_join (p : Path) {q : Path} (hq : q.isAbsolute = false) :
    (p.join q).parts = p.parts ++ q.parts := by
  simp only [join, hq, Bool.false_eq_true, if_false]
  split
  case isTrue h =>
    rcases Bool.or_eq_true_iff.1 h with h | h
    · have hp : p.bytes = [] := by simpa [isEmpty] using h
      simp [parts, hp, split]
    · exact parts_append_of_endsInSeparator h q.bytes
  case isFalse => simp [parts, split_append_separator]

theorem steps_join (p : Path) {q : Path} (hq : q.isAbsolute = false) :
    (p.join q).steps = p.steps ++ q.steps := by
  simp [steps, parts_join p hq]

theorem isAbsolute_join (p : Path) {q : Path} (hq : q.isAbsolute = false) :
    (p.join q).isAbsolute = p.isAbsolute := by
  simp only [join, hq, Bool.false_eq_true, if_false]
  cases hp : p.bytes with
  | nil => simp_all [isEmpty, isAbsolute]
  | cons b rest => split <;> simp [isAbsolute, hp]

/-! ## 3. A name behind a path -/

section Name

variable {n : Name}

theorem isAbsolute_name (hn : Name.isOrdinary n = true) : (⟨n⟩ : Path).isAbsolute = false := by
  obtain ⟨hne, -, -, hsep⟩ := Name.isOrdinary_iff.1 hn
  cases n with
  | nil => exact absurd rfl hne
  | cons b n =>
    rw [List.mem_cons, not_or] at hsep
    have hb : b ≠ separator := fun e => hsep.1 e.symm
    simp [isAbsolute, hb]

theorem steps_name (hn : Name.isOrdinary n = true) : (⟨n⟩ : Path).steps = [.enter n] := by
  obtain ⟨hne, hhere, habove, hsep⟩ := Name.isOrdinary_iff.1 hn
  simp [steps, parts, split_eq_singleton hsep, hne, Step.ofPart, hhere, habove]

theorem steps_join_name (p : Path) (hn : Name.isOrdinary n = true) :
    (p.join ⟨n⟩).steps = p.steps ++ [.enter n] := by
  rw [steps_join p (isAbsolute_name hn), steps_name hn]

theorem endsInSeparator_join_name (p : Path) (hn : Name.isOrdinary n = true) :
    (p.join ⟨n⟩).endsInSeparator = false := by
  obtain ⟨hne, -, -, hsep⟩ := Name.isOrdinary_iff.1 hn
  obtain ⟨front, last, rfl⟩ := List.eq_nil_or_concat' n |>.resolve_left hne
  have hlast : last ≠ separator := fun e => hsep (by simp [e])
  have hend : ∀ bs : Bytes, (⟨bs ++ (front ++ [last])⟩ : Path).endsInSeparator = false := by
    intro bs
    simp [endsInSeparator, ← List.append_assoc, hlast]
  simp only [join, isAbsolute_name hn, Bool.false_eq_true, if_false]
  split
  · exact hend p.bytes
  · have h := hend (p.bytes ++ [separator])
    rwa [List.append_assoc] at h

/-- **A joined path is longer than the path it is joined to.** -/
theorem length_lt_join_name (p : Path) (hn : Name.isOrdinary n = true) :
    p.bytes.length < (p.join ⟨n⟩).bytes.length := by
  have hpos : 0 < n.length := List.length_pos_iff.2 (Name.isOrdinary_iff.1 hn).1
  simp only [join, isAbsolute_name hn, Bool.false_eq_true, if_false]
  split <;> simp only [List.length_append, List.length_cons] <;> omega

theorem mem_bytes_join (p : Path) (hn : Name.isOrdinary n = true) {b : UInt8} (h : b ∈ p.bytes) :
    b ∈ (p.join ⟨n⟩).bytes := by
  simp only [join, isAbsolute_name hn, Bool.false_eq_true, if_false]
  split <;> exact List.mem_append_left _ h

theorem isEmpty_join_name (p : Path) (hn : Name.isOrdinary n = true) :
    (p.join ⟨n⟩).isEmpty = false := by
  have h := length_lt_join_name p hn
  cases hb : (p.join ⟨n⟩).bytes with
  | nil => rw [hb] at h; simp at h
  | cons b rest => simp [isEmpty, hb]

end Name

/-! ## 4. Names behind a path -/

/-- A path with names put behind it, one after the other. -/
def under (p : Path) (ns : List Name) : Path :=
  ns.foldl (fun q n => q.join ⟨n⟩) p

@[simp] theorem under_nil (p : Path) : p.under [] = p := rfl

theorem under_cons (p : Path) (n : Name) (ns : List Name) :
    p.under (n :: ns) = (p.join ⟨n⟩).under ns := rfl

@[simp] theorem under_concat (p : Path) (ns : List Name) (n : Name) :
    p.under (ns ++ [n]) = (p.under ns).join ⟨n⟩ := by
  simp [under]

theorem steps_under (p : Path) {ns : List Name} (h : ∀ n ∈ ns, Name.isOrdinary n = true) :
    (p.under ns).steps = p.steps ++ ns.map Step.enter := by
  induction ns using List.reverseRecOn with
  | nil => simp
  | append_singleton ns n ih =>
    have hn : Name.isOrdinary n = true := h n (by simp)
    rw [under_concat, steps_join_name _ hn, ih fun m hm => h m (by simp [hm])]
    simp

/-- **Different names make different paths.** -/
theorem under_injective (p : Path) {ns ms : List Name} (hns : ∀ n ∈ ns, Name.isOrdinary n = true)
    (hms : ∀ m ∈ ms, Name.isOrdinary m = true) (h : p.under ns = p.under ms) : ns = ms := by
  have hsteps : p.steps ++ ns.map Step.enter = p.steps ++ ms.map Step.enter := by
    rw [← steps_under p hns, ← steps_under p hms, h]
  exact List.map_injective_iff.2 (fun _ _ e => Step.enter.inj e) (List.append_cancel_left hsteps)

/-! ## 5. The names that a path leads down by -/

/-- The name that a step enters. -/
def Step.name? : Step → Option Name
  | .enter n => some n
  | _ => none

/-- The names that a path leads down by, `.` parts left out. -/
def names (p : Path) : List Name :=
  p.steps.filterMap Step.name?

/-- No part of the path is `..`. -/
def NeverUp (p : Path) : Prop :=
  Step.up ∉ p.steps

instance (p : Path) : Decidable p.NeverUp :=
  inferInstanceAs (Decidable (Step.up ∉ p.steps))

theorem names_join (p : Path) {q : Path} (hq : q.isAbsolute = false) :
    (p.join q).names = p.names ++ q.names := by
  rw [names, steps_join p hq, List.filterMap_append]
  rfl

section Join

variable {n : Name} (p : Path) (hn : Name.isOrdinary n = true)

include hn

theorem names_join_name : (p.join ⟨n⟩).names = p.names ++ [n] := by
  rw [names_join p (isAbsolute_name hn), names, names, steps_name hn]
  rfl

theorem neverUp_join_name : (p.join ⟨n⟩).NeverUp ↔ p.NeverUp := by
  rw [NeverUp, steps_join_name p hn]
  simp [NeverUp]

end Join

/-! ## 6. The path above -/

/-- The steps that a component asks for. -/
def Component.steps : Component → List Step
  | .root => []
  | .current => [.stay]
  | .parent => [.up]
  | .normal n => [.enter n]

/-- Components whose names are ordinary. -/
def Written (cs : List Component) : Prop :=
  ∀ n, Component.normal n ∈ cs → Name.isOrdinary n = true

theorem steps_bytes {c : Component} (h : Written [c]) : (⟨c.bytes⟩ : Path).steps = c.steps := by
  cases c with
  | root => rfl
  | current => rfl
  | parent => rfl
  | normal n => exact steps_name (h n (by simp))

theorem ofComponents_cons_cons (c d : Component) (cs : List Component) :
    ofComponents (c :: d :: cs) = ⟨c.bytes ++ separator :: (ofComponents (d :: cs)).bytes⟩ := by
  cases c <;> rfl

theorem ofComponents_singleton {c : Component} (h : c ≠ .root) : ofComponents [c] = ⟨c.bytes⟩ := by
  cases c <;> first | rfl | exact absurd rfl h

/-- **A written row of components reads as the steps of each.** -/
theorem steps_ofComponents {cs : List Component} (h : Written cs) :
    (ofComponents cs).steps = cs.flatMap Component.steps := by
  induction cs with
  | nil => rfl
  | cons c cs ih =>
    have hc : Written [c] := fun n hn => h n (by simp only [List.mem_singleton] at hn; simp [hn])
    cases cs with
    | nil =>
      by_cases hroot : c = .root
      · subst hroot
        rfl
      · rw [ofComponents_singleton hroot, steps_bytes hc]
        simp
    | cons d cs =>
      have hrest := ih fun n hn => h n (List.mem_cons_of_mem _ hn)
      rw [ofComponents_cons_cons, List.flatMap_cons, ← hrest, ← steps_bytes hc]
      simp [steps, parts, split_append_separator]

theorem isAbsolute_ofComponents {cs : List Component} (h : Written cs) :
    (ofComponents cs).isAbsolute = decide (cs.head? = some .root) := by
  have hname : ∀ {n : Name} (more : Bytes), Name.isOrdinary n = true →
      (⟨n ++ more⟩ : Path).isAbsolute = false := by
    intro n more hn
    obtain ⟨b, rest, rfl⟩ := List.exists_cons_of_ne_nil (Name.isOrdinary_iff.1 hn).1
    simpa [isAbsolute] using isAbsolute_name hn
  match cs with
  | [] => rfl
  | [.root] => rfl
  | [.current] => rfl
  | [.parent] => rfl
  | [.normal n] => simpa [ofComponents, Component.bytes] using isAbsolute_name (h n (by simp))
  | .root :: _ :: _ => rfl
  | .current :: _ :: _ => rfl
  | .parent :: _ :: _ => rfl
  | .normal n :: _ :: _ => simpa [ofComponents, Component.bytes] using hname _ (h n (by simp))

theorem mem_inner {ps : List Bytes} {n : Name} (h : Component.normal n ∈ inner ps) :
    n ∈ ps ∧ n ≠ here ∧ n ≠ above := by
  simp only [inner, List.mem_map, List.mem_filter, decide_eq_true_eq] at h
  obtain ⟨part, ⟨hmem, hhere⟩, hpart⟩ := h
  unfold Component.ofPart at hpart
  split at hpart
  · cases hpart
  · rename_i habove
    cases hpart
    exact ⟨hmem, hhere, habove⟩

theorem normal_mem_components {p : Path} {n : Name} (h : Component.normal n ∈ p.components) :
    n ∈ p.parts ∧ n ≠ here ∧ n ≠ above := by
  unfold components at h
  split at h
  · exact mem_inner (by simpa using h)
  · split at h
    · exact mem_inner (by simpa using h)
    · exact mem_inner h

theorem written_components (p : Path) : Written p.components := by
  intro n hn
  obtain ⟨hmem, hhere, habove⟩ := normal_mem_components hn
  exact isOrdinary_of_mem_parts hmem hhere habove

theorem inner_cons (part : Bytes) (ps : List Bytes) :
    inner (part :: ps) =
      if part = here then inner ps else Component.ofPart part :: inner ps := by
  by_cases h : part = here <;> simp [inner, h]

theorem steps_ofPart {part : Bytes} (h : part ≠ here) :
    (Component.ofPart part).steps = [Step.ofPart part] := by
  unfold Component.ofPart Step.ofPart
  rw [if_neg h]
  split <;> rfl

/-- What the `.` parts do not count for is the same in the components and in the steps. -/
theorem filterMap_inner {α : Type} (f : Step → Option α) (hf : f .stay = none) (ps : List Bytes) :
    ((inner ps).flatMap Component.steps).filterMap f = (ps.map Step.ofPart).filterMap f := by
  induction ps with
  | nil => rfl
  | cons part ps ih =>
    rw [inner_cons, List.map_cons, List.filterMap_cons]
    by_cases h : part = here
    · rw [if_pos h, ih, h, show Step.ofPart here = .stay from rfl, hf]
    · rw [if_neg h, List.flatMap_cons, steps_ofPart h, List.singleton_append,
        List.filterMap_cons, ih]

theorem filterMap_components {α : Type} (f : Step → Option α) (hf : f .stay = none) (p : Path) :
    (p.components.flatMap Component.steps).filterMap f = p.steps.filterMap f := by
  rw [steps, ← filterMap_inner f hf]
  unfold components
  split
  · rfl
  · split
    · simp [Component.steps, hf]
    · rfl

theorem isAbsolute_eq_head (p : Path) :
    p.isAbsolute = decide (p.components.head? = some .root) := by
  unfold components
  split
  case isTrue h => simp [h]
  case isFalse h =>
    have hno : ∀ cs : List Bytes, (inner cs).head? ≠ some .root := by
      intro cs e
      obtain ⟨part, -, hpart⟩ := List.mem_map.1 (List.mem_of_mem_head? (Option.mem_def.2 e))
      unfold Component.ofPart at hpart
      split at hpart <;> cases hpart
    split <;> simp_all

theorem up_mem_components (p : Path) :
    Step.up ∈ p.components.flatMap Component.steps ↔ Step.up ∈ p.steps := by
  have h := filterMap_components (fun s => if s = .up then some s else none) (by simp) p
  have hmem (l : List Step) :
      Step.up ∈ l ↔ Step.up ∈ l.filterMap fun s => if s = .up then some s else none := by
    simp [List.mem_filterMap]
  rw [hmem, h, ← hmem]

theorem mem_names_of_components {p : Path} {n : Name} (h : Component.normal n ∈ p.components) :
    n ∈ p.names := by
  rw [names, ← filterMap_components Step.name? rfl p]
  exact List.mem_filterMap.2
    ⟨.enter n, List.mem_flatMap.2 ⟨_, h, by simp [Component.steps]⟩, rfl⟩

theorem parent?_eq_some {p q : Path} (h : p.parent? = some q) :
    q = ofComponents p.components.dropLast ∧ p.components ≠ [] ∧ p.components ≠ [.root] := by
  unfold parent? at h
  split at h
  · cases h
  · cases h
  · rename_i c rest hroot hc
    rw [hc]
    refine ⟨(Option.some.inj h).symm, by simp, ?_⟩
    intro e
    cases e
    exact hroot rfl rfl

/-- **The path above starts where the path starts and leads down by a beginning of its names.** -/
theorem names_of_parent? {p q : Path} (h : p.parent? = some q) :
    q.names <+: p.names ∧ (p.NeverUp → q.NeverUp) ∧ q.isAbsolute = p.isAbsolute := by
  obtain ⟨rfl, hne, hroot⟩ := parent?_eq_some h
  have hw : Written p.components.dropLast := fun n hn =>
    written_components p n (List.mem_of_mem_dropLast hn)
  obtain ⟨back, hback⟩ := List.dropLast_prefix p.components
  refine ⟨?_, ?_, ?_⟩
  · rw [names, names, steps_ofComponents hw, ← filterMap_components Step.name? rfl p]
    conv_rhs => rw [← hback, List.flatMap_append, List.filterMap_append]
    exact List.prefix_append _ _
  · intro hup hmem
    rw [steps_ofComponents hw] at hmem
    apply hup
    rw [← up_mem_components, ← hback, List.flatMap_append]
    exact List.mem_append_left _ hmem
  · rw [isAbsolute_ofComponents hw, isAbsolute_eq_head]
    match hc : p.components with
    | [] => exact absurd hc hne
    | [c] =>
      have : c ≠ .root := fun e => hroot (by rw [hc, e])
      simp [this]
    | c :: d :: rest => rfl

/-! ## 7. Every path above -/

/-- The part that a component is written as, if it is. -/
def Component.part? : Component → Option Bytes
  | .root => none
  | c => some c.bytes

/-- Ordinary names, and a root or a `.` at the beginning only. -/
def Readable (cs : List Component) : Prop :=
  Written cs ∧ ∀ c ∈ cs.tail, c ≠ .root ∧ c ≠ .current

theorem Readable.of_front {cs ds : List Component} (h : Readable ds) (hp : cs <+: ds) :
    Readable cs := by
  obtain ⟨more, rfl⟩ := hp
  refine ⟨fun n hn => h.1 n (List.mem_append_left _ hn), fun c hc => h.2 c ?_⟩
  cases cs with
  | nil => cases hc
  | cons d cs => exact List.mem_append_left _ hc

/-- A root or a `.` is the first component. -/
theorem eq_nil_of_readable {cs : List Component} {c : Component} (h : Readable (cs ++ [c]))
    (hc : c = .root ∨ c = .current) : cs = [] := by
  cases cs with
  | nil => rfl
  | cons d cs =>
    obtain ⟨hroot, hcurrent⟩ := h.2 c (by simp)
    rcases hc with hc | hc
    · exact absurd hc hroot
    · exact absurd hc hcurrent

theorem parts_bytes {c : Component} (h : Written [c]) :
    (⟨c.bytes⟩ : Path).parts = c.part?.toList := by
  cases c with
  | root => rfl
  | current => rfl
  | parent => rfl
  | normal n =>
    obtain ⟨hne, -, -, hsep⟩ := Name.isOrdinary_iff.1 (h n (by simp))
    simp [parts, Component.bytes, Component.part?, split_eq_singleton hsep, hne]

theorem parts_ofComponents {cs : List Component} (h : Written cs) :
    (ofComponents cs).parts = cs.filterMap Component.part? := by
  induction cs with
  | nil => rfl
  | cons c cs ih =>
    have hc : Written [c] := fun n hn => h n (by simp only [List.mem_singleton] at hn; simp [hn])
    have hcons : (c :: cs).filterMap Component.part? =
        c.part?.toList ++ cs.filterMap Component.part? := by
      cases hp : c.part? <;> simp [hp]
    cases cs with
    | nil =>
      by_cases hroot : c = .root
      · subst hroot
        rfl
      · rw [ofComponents_singleton hroot, parts_bytes hc, hcons]
        simp
    | cons d cs =>
      have hrest := ih fun n hn => h n (List.mem_cons_of_mem _ hn)
      rw [ofComponents_cons_cons, hcons, ← hrest, ← parts_bytes hc]
      simp [parts, split_append_separator]

theorem inner_filterMap_part? {cs : List Component} (h : Written cs)
    (hin : ∀ c ∈ cs, c ≠ .root ∧ c ≠ .current) : inner (cs.filterMap Component.part?) = cs := by
  induction cs with
  | nil => rfl
  | cons c cs ih =>
    have hrest := ih (fun n hn => h n (List.mem_cons_of_mem _ hn))
      fun d hd => hin d (List.mem_cons_of_mem _ hd)
    cases c with
    | root => exact absurd rfl (hin _ List.mem_cons_self).1
    | current => exact absurd rfl (hin _ List.mem_cons_self).2
    | parent =>
      simp only [List.filterMap_cons, Component.part?, Component.bytes]
      rw [inner_cons, if_neg (by decide), hrest]
      rfl
    | normal n =>
      obtain ⟨-, hhere, habove, -⟩ := Name.isOrdinary_iff.1 (h n List.mem_cons_self)
      simp only [List.filterMap_cons, Component.part?, Component.bytes]
      rw [inner_cons, if_neg hhere, hrest, Component.ofPart, if_neg habove]

/-- **A written row of components reads as these components.** -/
theorem components_ofComponents {cs : List Component} (h : Readable cs) :
    (ofComponents cs).components = cs := by
  obtain ⟨hw, hin⟩ := h
  unfold components
  rw [isAbsolute_ofComponents hw, parts_ofComponents hw]
  cases cs with
  | nil => rfl
  | cons c cs =>
    have hw' : Written cs := fun n hn => hw n (List.mem_cons_of_mem _ hn)
    have hrest := inner_filterMap_part? hw' hin
    cases c with
    | root =>
      simp only [List.filterMap_cons, Component.part?]
      simp [hrest]
    | current => simp [Component.part?, Component.bytes, inner_cons, hrest]
    | parent =>
      simp [Component.part?, Component.bytes, inner_cons, hrest,
        Component.ofPart, show above ≠ here by decide]
    | normal n =>
      obtain ⟨-, hhere, habove, -⟩ := Name.isOrdinary_iff.1 (hw n List.mem_cons_self)
      simp [Component.part?, Component.bytes, inner_cons, hrest,
        Component.ofPart, hhere, habove]

theorem mem_inner_ne {ps : List Bytes} {c : Component} (h : c ∈ inner ps) :
    c ≠ .root ∧ c ≠ .current := by
  obtain ⟨part, -, rfl⟩ := List.mem_map.1 h
  unfold Component.ofPart
  split <;> simp

theorem readable_components (p : Path) : Readable p.components := by
  refine ⟨written_components p, fun c hc => ?_⟩
  unfold components at hc
  split at hc
  · exact mem_inner_ne hc
  · split at hc
    · exact mem_inner_ne hc
    · exact mem_inner_ne (List.mem_of_mem_tail hc)

theorem inner_append (ps qs : List Bytes) : inner (ps ++ qs) = inner ps ++ inner qs := by
  simp [inner]

/-- **A path that begins neither at the root nor with `.` reads the same behind any other.** -/
theorem components_join (p : Path) {q : Path} (hroot : q.components.head? ≠ some .root)
    (hcurrent : q.components.head? ≠ some .current) :
    (p.join q).components = p.components ++ q.components := by
  have habsolute : q.isAbsolute = false := by simp [isAbsolute_eq_head, hroot]
  have hhere : q.parts.head? ≠ some here := fun h =>
    hcurrent (by simp [components, habsolute, h])
  have hback : q.components = inner q.parts := by simp [components, habsolute, hhere]
  rw [hback]
  unfold components
  rw [isAbsolute_join p habsolute, parts_join p habsolute, inner_append]
  -- where `p` has no part, the first part of `q` is the first of all, but it is no `.`
  cases hp : p.parts with
  | nil => split <;> simp [hhere, inner]
  | cons part rest =>
    split
    · rfl
    · simp only [List.cons_append, List.head?_cons]
      by_cases hpart : some part = some here <;> simp [hpart]

theorem components_name {n : Name} (hn : Name.isOrdinary n = true) :
    (⟨n⟩ : Path).components = [.normal n] := by
  obtain ⟨hne, hhere, habove, hsep⟩ := Name.isOrdinary_iff.1 hn
  have hparts : (⟨n⟩ : Path).parts = [n] := by simp [parts, split_eq_singleton hsep, hne]
  simp [components, isAbsolute_name hn, hparts, hhere, inner, Component.ofPart, habove]

theorem components_join_name (p : Path) {n : Name} (hn : Name.isOrdinary n = true) :
    (p.join ⟨n⟩).components = p.components ++ [.normal n] := by
  have hname := components_name hn
  rw [components_join p (by simp [hname]) (by simp [hname]), hname]

theorem fileName_join_name (p : Path) {n : Name} (hn : Name.isOrdinary n = true) :
    (p.join ⟨n⟩).fileName = some n := by
  rw [fileName, components_join_name p hn, List.getLast?_concat]

/-- A path ends in the last of the names behind it. -/
theorem exists_fileName_under (p : Path) {ns : List Name} (h : ∀ n ∈ ns, Name.isOrdinary n = true)
    (hne : ns ≠ []) : ∃ n ∈ ns, (p.under ns).fileName = some n := by
  rcases List.eq_nil_or_concat' ns with rfl | ⟨more, n, rfl⟩
  · exact absurd rfl hne
  · refine ⟨n, by simp, ?_⟩
    rw [under_concat]
    exact fileName_join_name _ (h n (by simp))

theorem parent?_of_components {p : Path} {cs : List Component} {c : Component}
    (h : p.components = cs ++ [c]) (hroot : c ≠ .root) : p.parent? = some (ofComponents cs) := by
  unfold parent?
  rw [h]
  split
  · rename_i heq
    simp at heq
  · rename_i heq
    cases cs with
    | nil => exact absurd (List.singleton_inj.1 heq) hroot
    | cons d cs => simp at heq
  · rename_i d rest _ heq
    rw [← heq, List.dropLast_concat]

theorem parent?_ofComponents {cs : List Component} {c : Component} (h : Readable (cs ++ [c]))
    (hroot : c ≠ .root) : (ofComponents (cs ++ [c])).parent? = some (ofComponents cs) :=
  parent?_of_components (components_ofComponents h) hroot

theorem endsInSeparator_bytes {c : Component} (h : Written [c]) (hroot : c ≠ .root) (bs : Bytes) :
    c.bytes ≠ [] ∧ (⟨bs ++ c.bytes⟩ : Path).endsInSeparator = false := by
  have hne : ∀ n : Bytes, n ≠ [] → separator ∉ n →
      n ≠ [] ∧ (⟨bs ++ n⟩ : Path).endsInSeparator = false := by
    intro n hn hsep
    refine ⟨hn, ?_⟩
    obtain ⟨front, last, rfl⟩ := List.eq_nil_or_concat' n |>.resolve_left hn
    have hlast : last ≠ separator := fun e => hsep (by simp [e])
    simp [endsInSeparator, ← List.append_assoc, hlast]
  cases c with
  | root => exact absurd rfl hroot
  | current => exact hne here (by decide) (by decide)
  | parent => exact hne above (by decide) (by decide)
  | normal n =>
    obtain ⟨hn, -, -, hsep⟩ := Name.isOrdinary_iff.1 (h n (by simp))
    exact hne n hn hsep

/-- Only the root alone is written with a separator at the end. -/
theorem endsInSeparator_ofComponents {cs : List Component} {c : Component}
    (h : Written (cs ++ [c])) (hroot : c ≠ .root) (bs : Bytes) :
    (⟨bs ++ (ofComponents (cs ++ [c])).bytes⟩ : Path).endsInSeparator = false := by
  induction cs generalizing bs with
  | nil =>
    rw [List.nil_append, ofComponents_singleton hroot]
    exact (endsInSeparator_bytes h hroot bs).2
  | cons d cs ih =>
    obtain ⟨e, rest, hrest⟩ : ∃ e rest, cs ++ [c] = e :: rest :=
      List.exists_cons_of_ne_nil (by simp)
    have hmore := ih (fun n hn => h n (List.mem_cons_of_mem _ hn)) (bs ++ d.bytes ++ [separator])
    rw [List.cons_append, hrest, ofComponents_cons_cons, ← hrest]
    simpa using hmore

theorem join_name {p : Path} {n : Name} (hn : Name.isOrdinary n = true)
    (hp : p.bytes ≠ []) (hsep : p.endsInSeparator = false) :
    p.join ⟨n⟩ = ⟨p.bytes ++ separator :: n⟩ := by
  simp [join, isAbsolute_name hn, isEmpty, hp, hsep]

theorem bytes_ofComponents_concat {cs : List Component} {c : Component} (hc : c ≠ .root)
    (n : Name) : (ofComponents (cs ++ [c] ++ [.normal n])).bytes =
      (ofComponents (cs ++ [c])).bytes ++ separator :: n := by
  induction cs with
  | nil =>
    rw [List.nil_append, List.singleton_append, ofComponents_cons_cons, ofComponents_singleton hc]
    rfl
  | cons d cs ih =>
    obtain ⟨e, rest, hrest⟩ : ∃ e rest, cs ++ [c] = e :: rest :=
      List.exists_cons_of_ne_nil (by simp)
    rw [hrest] at ih
    rw [List.cons_append, hrest, List.cons_append, List.cons_append, ofComponents_cons_cons,
      ofComponents_cons_cons, ← List.cons_append, ih, List.append_assoc, List.cons_append]

/-- **A name more is a name behind the path.** -/
theorem ofComponents_concat {cs : List Component} {n : Name}
    (h : Readable (cs ++ [.normal n])) :
    ofComponents (cs ++ [.normal n]) = (ofComponents cs).join ⟨n⟩ := by
  have hn : Name.isOrdinary n = true := h.1 n (by simp)
  rcases List.eq_nil_or_concat' cs with rfl | ⟨front, c, rfl⟩
  · simp [ofComponents, Component.bytes, join, isAbsolute_name hn, isEmpty]
  · by_cases hroot : c = .root
    · -- only the first component is the root
      obtain rfl : front = [] := by
        cases front with
        | nil => rfl
        | cons d front => exact absurd hroot (h.2 c (by simp)).1
      subst hroot
      simp [ofComponents, Component.bytes, join, isAbsolute_name hn, endsInSeparator]
    · have hw : Written (front ++ [c]) := fun m hm => h.1 m (List.mem_append_left _ hm)
      have hne : (ofComponents (front ++ [c])).bytes ≠ [] := fun hnil => by
        have hcs := components_ofComponents (h.of_front (List.prefix_append _ _))
        rw [show ofComponents (front ++ [c]) = ⟨[]⟩ from congrArg Path.mk hnil] at hcs
        exact absurd hcs.symm (by simp [components, isAbsolute, parts, split, inner])
      rw [join_name hn hne (endsInSeparator_ofComponents hw hroot []),
        ← bytes_ofComponents_concat hroot]

theorem parent?_join_name (p : Path) {n : Name} (hn : Name.isOrdinary n = true) :
    (p.join ⟨n⟩).parent? = some (ofComponents p.components) :=
  parent?_of_components (components_join_name p hn) (by simp)

/-- The path above a name reads as the path that the name is behind. -/
theorem steps_of_components (p : Path) :
    (ofComponents p.components).names = p.names ∧
      ((ofComponents p.components).NeverUp ↔ p.NeverUp) ∧
      (ofComponents p.components).isAbsolute = p.isAbsolute := by
  have hw := written_components p
  refine ⟨?_, ?_, ?_⟩
  · rw [names, names, steps_ofComponents hw, filterMap_components Step.name? rfl p]
  · rw [NeverUp, NeverUp, steps_ofComponents hw, up_mem_components]
  · rw [isAbsolute_ofComponents hw, isAbsolute_eq_head]

/-! ## 8. The length of a path above -/

/-- How long parts are, each with a separator. -/
def spread : List Bytes → Nat
  | [] => 0
  | part :: rest => part.length + 1 + spread rest

theorem spread_split (bs : Bytes) : spread (split bs) = bs.length + 1 := by
  induction bs with
  | nil => rfl
  | cons b rest ih =>
    unfold split
    split
    · simp only [spread, List.length_nil, List.length_cons] at ih ⊢
      omega
    · cases hs : split rest with
      | nil => exact absurd hs (split_ne_nil rest)
      | cons part parts =>
        rw [hs] at ih
        simp only [spread, List.length_cons] at ih ⊢
        omega

theorem spread_sublist {ps qs : List Bytes} (h : ps.Sublist qs) : spread ps ≤ spread qs := by
  induction h with
  | slnil => exact Nat.le_refl _
  | cons _ _ ih =>
    rw [spread]
    omega
  | cons_cons _ _ ih =>
    rw [spread, spread]
    omega

theorem map_bytes_inner (ps : List Bytes) :
    (inner ps).map Component.bytes = ps.filter (· ≠ here) := by
  rw [inner, List.map_map]
  refine (List.map_congr_left fun part _ => ?_).trans (List.map_id _)
  simp only [Function.comp_apply, Component.ofPart]
  split
  · rename_i h
    exact h.symm
  · rfl

/-- **Components are written in the path, in their order.** -/
theorem map_bytes_components (p : Path) :
    (p.components.map Component.bytes).Sublist (split p.bytes) := by
  have hparts : (p.parts.filter (· ≠ here)).Sublist p.parts := List.filter_sublist
  have hsplit : p.parts.Sublist (split p.bytes) := List.filter_sublist
  unfold components
  split
  · rename_i habs
    obtain ⟨rest, hrest⟩ : ∃ rest, p.bytes = separator :: rest :=
      List.head?_eq_some_iff.1 (by simpa [isAbsolute] using habs)
    have hbehind : p.parts.Sublist (split rest) := by
      simp only [parts, hrest, split, if_true, List.filter_cons]
      exact List.filter_sublist
    rw [List.map_cons, map_bytes_inner, hrest, split, if_pos rfl]
    exact (hparts.trans hbehind).cons_cons []
  · split
    · rename_i hhead
      obtain ⟨rest, hrest⟩ := List.head?_eq_some_iff.1 hhead
      rw [List.map_cons, map_bytes_inner]
      refine List.Sublist.trans ?_ hsplit
      rw [hrest, List.filter_cons, if_neg (by simp)]
      exact List.filter_sublist.cons_cons here
    · rw [map_bytes_inner]
      exact hparts.trans hsplit

/-- Written components are shorter than their parts with a separator each, unless the root stands
    alone. -/
theorem length_ofComponents {cs : List Component} (hne : cs ≠ []) (halone : cs ≠ [.root])
    (hroot : Component.root ∉ cs.tail) :
    (ofComponents cs).bytes.length < spread (cs.map Component.bytes) := by
  induction cs with
  | nil => exact absurd rfl hne
  | cons c cs ih =>
    cases cs with
    | nil =>
      rw [ofComponents_singleton fun hc => halone (by rw [hc])]
      simp [spread]
    | cons d cs =>
      rw [List.tail_cons, List.mem_cons, not_or] at hroot
      have := ih (List.cons_ne_nil d cs)
        (fun heq => hroot.1 (List.cons.inj heq).1.symm) hroot.2
      rw [ofComponents_cons_cons]
      simp only [spread, List.map_cons, List.length_append, List.length_cons] at this ⊢
      omega

theorem mem_bytes_of_mem_split {bs part : Bytes} {b : UInt8} (h : part ∈ split bs)
    (hb : b ∈ part) : b ∈ bs := by
  induction bs generalizing part with
  | nil =>
    rw [split, List.mem_singleton] at h
    rw [h] at hb
    cases hb
  | cons x bs ih =>
    unfold split at h
    split at h
    · rcases List.mem_cons.1 h with rfl | h
      · cases hb
      · exact List.mem_cons_of_mem _ (ih h hb)
    · cases hs : split bs with
      | nil => exact absurd hs (split_ne_nil bs)
      | cons first parts =>
        rw [hs] at h ih
        rcases List.mem_cons.1 h with rfl | h
        · rcases List.mem_cons.1 hb with rfl | hb
          · exact List.mem_cons_self
          · exact List.mem_cons_of_mem _ (ih List.mem_cons_self hb)
        · exact List.mem_cons_of_mem _ (ih (List.mem_cons_of_mem _ h) hb)

theorem mem_ofComponents {cs : List Component} {b : UInt8} (h : b ∈ (ofComponents cs).bytes) :
    b = separator ∨ ∃ c ∈ cs, b ∈ c.bytes := by
  induction cs with
  | nil => cases h
  | cons c cs ih =>
    cases cs with
    | nil =>
      by_cases hroot : c = .root
      · subst hroot
        exact Or.inl (List.mem_singleton.1 h)
      · rw [ofComponents_singleton hroot] at h
        exact Or.inr ⟨c, List.mem_cons_self, h⟩
    | cons d cs =>
      rw [ofComponents_cons_cons, List.mem_append, List.mem_cons] at h
      rcases h with h | h | h
      · exact Or.inr ⟨c, List.mem_cons_self, h⟩
      · exact Or.inl h
      · exact (ih h).imp_right fun ⟨x, hx, hb⟩ => ⟨x, List.mem_cons_of_mem _ hx, hb⟩

/-- **A path above is no longer than the path**, and holds no other bytes but separators. -/
theorem ofComponents_of_prefix {p : Path} {cs : List Component} (h : cs <+: p.components) :
    (ofComponents cs).bytes.length ≤ p.bytes.length ∧
      ∀ b ∈ (ofComponents cs).bytes, b = separator ∨ b ∈ p.bytes := by
  have hsub : (cs.map Component.bytes).Sublist (split p.bytes) :=
    (h.sublist.map _).trans (map_bytes_components p)
  refine ⟨?_, fun b hb => ?_⟩
  · by_cases hne : cs = []
    · subst hne
      exact Nat.zero_le _
    by_cases halone : cs = [.root]
    · subst halone
      obtain ⟨rest, hrest⟩ := h
      have habs : p.isAbsolute = true := by
        rw [isAbsolute_eq_head, ← hrest]
        rfl
      have hbytes : p.bytes ≠ [] := fun hnil => by simp [isAbsolute, hnil] at habs
      exact List.length_pos_iff.2 hbytes
    · have hroot : Component.root ∉ cs.tail := fun hmem =>
        (((readable_components p).of_front h).2 _ hmem).1 rfl
      have hshort := length_ofComponents hne halone hroot
      have hspread := spread_sublist hsub
      rw [spread_split] at hspread
      omega
  · refine (mem_ofComponents hb).imp_right fun ⟨c, hc, hbc⟩ => ?_
    exact mem_bytes_of_mem_split (hsub.subset (List.mem_map_of_mem hc)) hbc

end Path

end TemplatePress
