import Mathlib.Data.List.Forall2
import TemplatePress.Proofs.Numerals
import TemplatePress.Proofs.Packages
import TemplatePress.Yaml.Decode

/-!
# What nodes are read as

Values are read from nodes by combinations of a few readings. This file says for each of them, of
nodes without references and tags, exactly which values it gives. It fixes:

* `Decode.Gives`: a reading succeeds with exactly the values that have a property;
* `Scalar.IsUnsigned`, `Scalar.IsInteger`: the texts of whole numbers and their values, and
  `Scalar.unsigned?_eq_some_iff`: they are read as such;
* `Kind`: a kind of value, told by the nodes that stand for it: which value a node stands for, which
  nodes stand for one at all, and which stand for the same;
* `Kind.Decodes`: a reading that gives the values of a kind; there is one lemma for each reading
  (`scalar_decodes`, `optional_decodes`, `sequence_decodes`).
-/

namespace TemplatePress.Yaml

/-! ## 1. Nodes -/

namespace Node

/-- All of the node was read, and there are no references and no tags in it. -/
inductive Bare : Node → Prop
  | scalar (mark : Mark) (text : String) (style : ScalarStyle) : Bare (.scalar mark none text style)
  | sequence (mark : Mark) {items : List Node} (hitems : ∀ n ∈ items, Bare n) :
    Bare (.sequence mark items)
  | mapping (mark : Mark) {entries : List (Node × Node)} (hkeys : ∀ e ∈ entries, Bare e.1)
    (hvalues : ∀ e ∈ entries, Bare e.2) : Bare (.mapping mark entries)

@[simp] theorem bare_scalar (mark : Mark) (text : String) (style : ScalarStyle) :
    (scalar mark none text style).Bare :=
  .scalar mark text style

@[simp] theorem bare_mapping_iff {mark : Mark} {entries : List (Node × Node)} :
    (mapping mark entries).Bare ↔ (∀ e ∈ entries, e.1.Bare) ∧ ∀ e ∈ entries, e.2.Bare := by
  refine ⟨fun h => ?_, fun ⟨hkeys, hvalues⟩ => .mapping mark hkeys hvalues⟩
  cases h with
  | mapping _ hkeys hvalues => exact ⟨hkeys, hvalues⟩

theorem areWhole_of_forall {items : List Node} (h : ∀ n ∈ items, n.isWhole = true) :
    areWhole items = true := by
  induction items with
  | nil => rfl
  | cons n items ih =>
    obtain ⟨hn, hitems⟩ := List.forall_mem_cons.1 h
    simp only [areWhole, hn, ih hitems, Bool.and_self]

theorem entriesAreWhole_of_forall {entries : List (Node × Node)}
    (hkeys : ∀ e ∈ entries, e.1.isWhole = true) (hvalues : ∀ e ∈ entries, e.2.isWhole = true) :
    entriesAreWhole entries = true := by
  induction entries with
  | nil => rfl
  | cons e entries ih =>
    obtain ⟨hkey, hkeys⟩ := List.forall_mem_cons.1 hkeys
    obtain ⟨hvalue, hvalues⟩ := List.forall_mem_cons.1 hvalues
    simp only [entriesAreWhole, hkey, hvalue, ih hkeys hvalues, Bool.and_self]

theorem Bare.isWhole {n : Node} (h : n.Bare) : n.isWhole = true := by
  induction h with
  | scalar mark text style => rfl
  | sequence mark _ ih => exact areWhole_of_forall ih
  | mapping mark _ _ ihkeys ihvalues => exact entriesAreWhole_of_forall ihkeys ihvalues

/-- An empty plain scalar, which is a collection without members where one is wanted. -/
def IsNothing (n : Node) : Prop :=
  ∃ mark, n = .scalar mark none "" .plain

theorem not_isNothing_sequence {mark : Mark} {items : List Node} :
    ¬ (sequence mark items).IsNothing := by
  rintro ⟨_, ⟨⟩⟩

theorem not_isNothing_mapping {mark : Mark} {entries : List (Node × Node)} :
    ¬ (mapping mark entries).IsNothing := by
  rintro ⟨_, ⟨⟩⟩

/-- Two scalars that are written the same way. -/
def SameScalar (n n' : Node) : Prop :=
  ∃ mark mark' tag text style, n = .scalar mark tag text style ∧ n' = .scalar mark' tag text style

end Node

/-! ## 2. Results of readings -/

namespace Decode

variable {α β : Type} {d : Document}

theorem located_eq_ok {mark : Mark} {route : Route} {act : Decode α} {a : α} {k k' : Nat} :
    located mark route act k = .ok a k' ↔ act k = .ok a k' := by
  unfold located
  cases act k <;> simp

theorem not_fail_eq_ok {e : DecodeError} {a : α} {k k' : Nat} :
    ¬ (fail e : Decode α) k = .ok a k' :=
  nofun

theorem not_wrongType_eq_ok {wanted : String} {n : Node} {a : α} {k k' : Nat} :
    ¬ (wrongType d wanted n : Decode α) k = .ok a k' := by
  cases n with
  | scalar mark tag text style =>
    rw [wrongType]
    cases Scalar.meaning tag text style <;> exact not_fail_eq_ok
  | _ => exact not_fail_eq_ok

/-- However many references were followed before, the reading succeeds with exactly the values that
    have the property. -/
def Gives (act : Decode α) (P : α → Prop) : Prop :=
  ∀ k a, (∃ k', act k = .ok a k') ↔ P a

theorem Gives.congr {act : Decode α} {P Q : α → Prop} (h : Gives act P) (hPQ : ∀ a, P a ↔ Q a) :
    Gives act Q :=
  fun k a => (h k a).trans (hPQ a)

theorem gives_pure (a : α) : Gives (pure a : Decode α) fun b => b = a := by
  intro k b
  constructor
  · rintro ⟨k', hk'⟩
    cases hk'
    rfl
  · rintro rfl
    exact ⟨k, rfl⟩

theorem gives_fail (e : DecodeError) : Gives (fail e : Decode α) fun _ => False :=
  fun _ _ => iff_of_false (fun ⟨_, h⟩ => not_fail_eq_ok h) id

theorem gives_wrongType (d : Document) (wanted : String) (n : Node) :
    Gives (wrongType d wanted n : Decode α) fun _ => False :=
  fun _ _ => iff_of_false (fun ⟨_, h⟩ => not_wrongType_eq_ok h) id

theorem Gives.located {act : Decode α} {P : α → Prop} (h : Gives act P) (mark : Mark)
    (route : Route) : Gives (located mark route act) P :=
  fun k a => (exists_congr fun _ => located_eq_ok).trans (h k a)

theorem Gives.bind {act : Decode α} {next : α → Decode β} {P : α → Prop} {Q : α → β → Prop}
    (h : Gives act P) (hnext : ∀ a, P a → Gives (next a) (Q a)) :
    Gives (act >>= next) fun b => ∃ a, P a ∧ Q a b := by
  intro k b
  constructor
  · rintro ⟨k', hk'⟩
    obtain ⟨a, k₁, ha, hb⟩ := bind_eq_ok.1 hk'
    have hP := (h k a).1 ⟨k₁, ha⟩
    exact ⟨a, hP, (hnext a hP k₁ b).1 ⟨k', hb⟩⟩
  · rintro ⟨a, hP, hQ⟩
    obtain ⟨k₁, ha⟩ := (h k a).2 hP
    obtain ⟨k', hb⟩ := (hnext a hP k₁ b).2 hQ
    exact ⟨k', bind_eq_ok.2 ⟨a, k₁, ha, hb⟩⟩

theorem Gives.map {act : Decode α} {P : α → Prop} (h : Gives act P) (f : α → β) :
    Gives (f <$> act) fun b => ∃ a, P a ∧ b = f a :=
  h.bind fun a _ => gives_pure (f a)

end Decode

/-! ## 3. Whole numbers -/

namespace Scalar

open Number (Spells digit? readDigits)

/-- The digits of a number: of base ten, where no zero leads others, or behind the mark of their
    base. -/
def IsNumber (cs : List Char) (n : Nat) : Prop :=
  Spells 10 cs n ∧ (cs = ['0'] ∨ cs.head? ≠ some '0') ∨
    ∃ digits, cs = '0' :: 'x' :: digits ∧ Spells 16 digits n ∨
      cs = '0' :: 'o' :: digits ∧ Spells 8 digits n ∨ cs = '0' :: 'b' :: digits ∧ Spells 2 digits n

/-- The digits of a number, behind a plus sign or none. -/
def IsUnsigned (cs : List Char) (n : Nat) : Prop :=
  ∃ digits, (cs = digits ∨ cs = '+' :: digits) ∧ IsNumber digits n

/-- The digits of a number, behind a sign or none. -/
def IsInteger (cs : List Char) (z : Int) : Prop :=
  (∃ n : Nat, IsUnsigned cs n ∧ z = n) ∨
    ∃ digits, ∃ n : Nat, cs = '-' :: digits ∧ IsNumber digits n ∧ z = -n

theorem toOption_readDigits {base limit n : Nat} {cs : List Char} :
    (readDigits base limit cs).toOption = some n ↔ Spells base cs n ∧ n ≤ limit := by
  rw [← Number.readDigits_eq_ok_iff]
  cases readDigits base limit cs <;> simp [Except.toOption]

theorem isZeroPadded_iff {cs : List Char} {n : Nat} (h : Spells 10 cs n) :
    isZeroPadded cs = true ↔ ¬ (cs = ['0'] ∨ cs.head? ≠ some '0') := by
  obtain ⟨hne, hdigits, -⟩ := Number.spells_ten_iff.1 h
  cases cs with
  | nil => exact absurd rfl hne
  | cons c rest =>
    obtain ⟨hc, hrest⟩ := List.forall_mem_cons.1 hdigits
    have hsign : withoutSign (c :: rest) = c :: rest := by
      unfold withoutSign
      split
      · rename_i hplus
        exact absurd ((List.cons.inj hplus).1 ▸ hc) (by decide)
      · rename_i hminus
        exact absurd ((List.cons.inj hminus).1 ▸ hc) (by decide)
      · rfl
    rw [isZeroPadded, hsign]
    by_cases hzero : c = '0'
    · subst hzero
      cases rest with
      | nil => simp
      | cons d rest => simpa using hrest
    · simp [hzero]

theorem isNumber_marked {c : Char} {rest : List Char} {n : Nat} (hc : c.isDigit = false) :
    IsNumber ('0' :: c :: rest) n ↔ c = 'x' ∧ Spells 16 rest n ∨ c = 'o' ∧ Spells 8 rest n ∨
      c = 'b' ∧ Spells 2 rest n := by
  have hten : ¬ Spells 10 ('0' :: c :: rest) n := fun h => by
    have := (Number.spells_ten_iff.1 h).2.1 c (by simp)
    rw [hc] at this
    cases this
  simp only [IsNumber, hten, false_and, false_or, List.cons.injEq, true_and]
  constructor
  · rintro ⟨digits, ⟨⟨hc, rfl⟩, h⟩ | ⟨⟨hc, rfl⟩, h⟩ | ⟨⟨hc, rfl⟩, h⟩⟩
    · exact .inl ⟨hc, h⟩
    · exact .inr (.inl ⟨hc, h⟩)
    · exact .inr (.inr ⟨hc, h⟩)
  · rintro (⟨hc, h⟩ | ⟨hc, h⟩ | ⟨hc, h⟩)
    · exact ⟨rest, .inl ⟨⟨hc, rfl⟩, h⟩⟩
    · exact ⟨rest, .inr (.inl ⟨⟨hc, rfl⟩, h⟩)⟩
    · exact ⟨rest, .inr (.inr ⟨⟨hc, rfl⟩, h⟩)⟩

theorem based?_eq_some_iff {limit n : Nat} {cs : List Char} :
    based? limit cs = some n ↔ IsNumber cs n ∧ n ≤ limit := by
  unfold based?
  split
  · rw [toOption_readDigits, isNumber_marked (by decide)]
    simp
  · rw [toOption_readDigits, isNumber_marked (by decide)]
    simp
  · rw [toOption_readDigits, isNumber_marked (by decide)]
    simp
  · rename_i hx ho hb
    have hnumber : IsNumber cs n ↔ Spells 10 cs n ∧ (cs = ['0'] ∨ cs.head? ≠ some '0') := by
      refine or_iff_left ?_
      rintro ⟨digits, ⟨rfl, -⟩ | ⟨rfl, -⟩ | ⟨rfl, -⟩⟩
      · exact hx digits rfl
      · exact ho digits rfl
      · exact hb digits rfl
    rw [hnumber]
    by_cases hpadded : isZeroPadded cs = true
    · rw [if_pos hpadded]
      exact iff_of_false nofun fun h => (isZeroPadded_iff h.1.1).1 hpadded h.1.2
    · rw [if_neg hpadded, toOption_readDigits]
      refine and_congr_left fun _ => ⟨fun h => ⟨h, ?_⟩, fun h => h.1⟩
      exact not_not.1 fun hnot => hpadded ((isZeroPadded_iff h).2 hnot)

theorem IsNumber.head {cs : List Char} {n : Nat} (h : IsNumber cs n) :
    ∃ c rest, cs = c :: rest ∧ c.isDigit = true := by
  rcases h with ⟨h, -⟩ | ⟨digits, ⟨rfl, -⟩ | ⟨rfl, -⟩ | ⟨rfl, -⟩⟩
  · obtain ⟨hne, hdigits, -⟩ := Number.spells_ten_iff.1 h
    obtain ⟨c, rest, rfl⟩ := List.exists_cons_of_ne_nil hne
    exact ⟨c, rest, rfl, hdigits c List.mem_cons_self⟩
  all_goals exact ⟨'0', _, rfl, by decide⟩

/-- A sign is no digit. -/
theorem not_isNumber_of_head {c : Char} (hc : c.isDigit = false) {rest : List Char} {n : Nat} :
    ¬ IsNumber (c :: rest) n := by
  intro h
  obtain ⟨_, _, ⟨⟩, hdigit⟩ := h.head
  cases hc.symm.trans hdigit

/-- No word for nothing is a number. -/
theorem IsInteger.not_isNull {text : String} {z : Int} (h : IsInteger text.toList z) :
    text ∉ ["", "~", "null", "Null", "NULL"] := by
  have hhead : ∃ c rest, text.toList = c :: rest ∧ (c = '+' ∨ c = '-' ∨ c.isDigit = true) := by
    rcases h with ⟨n, ⟨digits, hdigits | hdigits, hnumber⟩, -⟩ | ⟨digits, n, hdigits, -, -⟩
    · obtain ⟨c, rest, hrest, hc⟩ := hnumber.head
      exact ⟨c, rest, hdigits.trans hrest, .inr (.inr hc)⟩
    · exact ⟨'+', digits, hdigits, .inl rfl⟩
    · exact ⟨'-', digits, hdigits, .inr (.inl rfl)⟩
  obtain ⟨c, rest, hrest, hc⟩ := hhead
  intro hmem
  simp only [List.mem_cons, List.not_mem_nil, or_false] at hmem
  rcases hmem with rfl | rfl | rfl | rfl | rfl
  · cases hrest
  all_goals
    obtain ⟨rfl, -⟩ := List.cons.inj hrest
    revert hc
    decide

/-- **A whole number without a minus sign is read as its value**, up to the limit. -/
theorem unsigned?_eq_some_iff {limit n : Nat} {cs : List Char} :
    unsigned? limit cs = some n ↔ IsUnsigned cs n ∧ n ≤ limit := by
  unfold unsigned?
  split
  · rename_i rest
    rw [based?_eq_some_iff]
    refine and_congr_left fun _ => ⟨fun h => ⟨rest, .inr rfl, h⟩, ?_⟩
    rintro ⟨digits, rfl | hdigits, h⟩
    · exact absurd h (not_isNumber_of_head (by decide))
    · exact (List.cons.inj hdigits).2 ▸ h
  · rename_i hplus
    rw [based?_eq_some_iff]
    refine and_congr_left fun _ => ⟨fun h => ⟨cs, .inl rfl, h⟩, ?_⟩
    rintro ⟨digits, rfl | rfl, h⟩
    · exact h
    · exact absurd rfl (hplus digits)

theorem IsUnsigned.unique {cs : List Char} {n m : Nat} (h : IsUnsigned cs n)
    (h' : IsUnsigned cs m) : n = m := by
  have hn := unsigned?_eq_some_iff.2 ⟨h, Nat.le_max_left n m⟩
  have hm := unsigned?_eq_some_iff.2 ⟨h', Nat.le_max_right n m⟩
  exact Option.some.inj (hn.symm.trans hm)

/-- A number that is read without a minus sign is the whole number of the text. -/
theorem IsUnsigned.eq_of_isInteger {cs : List Char} {n : Nat} {z : Int} (h : IsUnsigned cs n)
    (hz : IsInteger cs z) : z = n := by
  rcases hz with ⟨m, hm, rfl⟩ | ⟨digits, m, rfl, -, -⟩
  · rw [hm.unique h]
  · obtain ⟨digits', hdigits | hdigits, hnumber⟩ := h
    · exact absurd (hdigits ▸ hnumber) (not_isNumber_of_head (by decide))
    · cases hdigits

end Scalar

/-! ## 4. Kinds of values -/

/-- A kind of value. -/
structure Kind (α : Type) where
  /-- The node stands for the value. -/
  Reads : Node → α → Prop
  /-- The node stands for some value. -/
  Accepts : Node → Prop
  /-- The nodes say the same, perhaps at different places or in a different order. -/
  Alike : Node → Node → Prop
  accepts_iff : ∀ {n : Node}, Accepts n ↔ ∃ a, Reads n a
  alike_self : ∀ {n : Node}, Accepts n → Alike n n
  reads_alike : ∀ {n n' : Node} {a : α}, Alike n n' → (Reads n a ↔ Reads n' a)

namespace Kind

variable {α : Type}

/-- Values that scalars stand for. `means` says for which one a text in a style stands. -/
def scalar (means : String → ScalarStyle → α → Prop) : Kind α where
  Reads n a := ∃ mark text style, n = .scalar mark none text style ∧ means text style a
  Accepts n := ∃ mark text style, n = .scalar mark none text style ∧ ∃ a, means text style a
  Alike := Node.SameScalar
  accepts_iff {n} := by
    constructor
    · rintro ⟨mark, text, style, rfl, a, ha⟩
      exact ⟨a, mark, text, style, rfl, ha⟩
    · rintro ⟨a, mark, text, style, rfl, ha⟩
      exact ⟨mark, text, style, rfl, a, ha⟩
  alike_self := fun ⟨mark, text, style, hn, _⟩ => ⟨mark, mark, none, text, style, hn, hn⟩
  reads_alike {n n' a} := by
    rintro ⟨mark, mark', tag, text, style, rfl, rfl⟩
    constructor
    · rintro ⟨_, _, _, ⟨⟩, ha⟩
      exact ⟨mark', text, style, rfl, ha⟩
    · rintro ⟨_, _, _, ⟨⟩, ha⟩
      exact ⟨mark, text, style, rfl, ha⟩

/-- Any scalar is a text. -/
def MeansText (text : String) (_ : ScalarStyle) (s : String) : Prop :=
  s = text

/-- One of the words for a truth value, without quotes. -/
def MeansTruth (text : String) (style : ScalarStyle) (b : Bool) : Prop :=
  style = .plain ∧
    (b = true ∧ text ∈ ["true", "True", "TRUE"] ∨ b = false ∧ text ∈ ["false", "False", "FALSE"])

/-- A whole number that takes at most so many bits, without quotes and without a minus sign, also
    where that stands before a zero. -/
def MeansNumber (bits : Nat) (text : String) (style : ScalarStyle) (n : Nat) : Prop :=
  style = .plain ∧ Scalar.IsUnsigned text.toList n ∧ n < 2 ^ bits

/-- A value that is made of another one. -/
def MeansAs {β : Type} (f : α → β) (means : String → ScalarStyle → α → Prop) (text : String)
    (style : ScalarStyle) (b : β) : Prop :=
  ∃ a, means text style a ∧ b = f a

/-- A value, or a word for nothing, without quotes. -/
def MeansMaybe (means : String → ScalarStyle → α → Prop) (text : String) (style : ScalarStyle)
    (v : Option α) : Prop :=
  if style = .plain ∧ text ∈ ["", "~", "null", "Null", "NULL"] then v = none
  else MeansAs some means text style v

theorem exists_forall₂_iff {R : Node → α → Prop} {ns : List Node} :
    (∃ as, ns.Forall₂ R as) ↔ ∀ n ∈ ns, ∃ a, R n a := by
  induction ns with
  | nil => simp
  | cons n ns ih =>
    rw [List.forall_mem_cons, ← ih]
    constructor
    · rintro ⟨as, has⟩
      cases has with
      | cons ha has => exact ⟨⟨_, ha⟩, _, has⟩
    · rintro ⟨⟨a, ha⟩, as, has⟩
      exact ⟨a :: as, .cons ha has⟩

/-- Lists of values, which sequences stand for. -/
def list (K : Kind α) : Kind (List α) where
  Reads n as := ∃ mark ns, n = .sequence mark ns ∧ ns.Forall₂ K.Reads as
  Accepts n := ∃ mark ns, n = .sequence mark ns ∧ ∀ n ∈ ns, K.Accepts n
  Alike n n' := ∃ mark mark' ns ns', n = .sequence mark ns ∧ n' = .sequence mark' ns' ∧
    ns.Forall₂ K.Alike ns'
  accepts_iff {n} := by
    simp only [K.accepts_iff, ← exists_forall₂_iff]
    constructor
    · rintro ⟨mark, ns, rfl, as, has⟩
      exact ⟨as, mark, ns, rfl, has⟩
    · rintro ⟨as, mark, ns, rfl, has⟩
      exact ⟨mark, ns, rfl, as, has⟩
  alike_self := fun ⟨mark, ns, hn, hns⟩ =>
    ⟨mark, mark, ns, ns, hn, hn, List.forall₂_same.2 fun n hn => K.alike_self (hns n hn)⟩
  reads_alike {n n' as} := by
    rintro ⟨mark, mark', ns, ns', rfl, rfl, halike⟩
    have hitems : ns.Forall₂ K.Reads as ↔ ns'.Forall₂ K.Reads as := by
      induction halike generalizing as with
      | nil => rfl
      | cons hn _ ih => simp only [List.forall₂_cons_left_iff, K.reads_alike hn, ih]
    constructor
    · rintro ⟨_, _, ⟨⟩, has⟩
      exact ⟨mark', ns', rfl, hitems.1 has⟩
    · rintro ⟨_, _, ⟨⟩, has⟩
      exact ⟨mark, ns, rfl, hitems.2 has⟩

/-- A collection that has no members where an empty plain scalar stands. -/
def orNothing (K : Kind α) (absent : α) : Kind α where
  Reads n a := n.IsNothing ∧ a = absent ∨ ¬ n.IsNothing ∧ K.Reads n a
  Accepts n := n.IsNothing ∨ K.Accepts n
  Alike n n' := n.IsNothing ∧ n'.IsNothing ∨ ¬ n.IsNothing ∧ ¬ n'.IsNothing ∧ K.Alike n n'
  accepts_iff {n} := by
    by_cases hn : n.IsNothing <;> simp [hn, K.accepts_iff]
  alike_self {n} h := by
    by_cases hn : n.IsNothing
    · exact .inl ⟨hn, hn⟩
    · exact .inr ⟨hn, hn, K.alike_self (h.resolve_left hn)⟩
  reads_alike {n n' a} := by
    rintro (⟨hn, hn'⟩ | ⟨hn, hn', halike⟩)
    · simp only [hn, hn', true_and, not_true, false_and]
    · simp only [hn, hn', not_false_eq_true, true_and, false_and, K.reads_alike halike]

/-- The reading succeeds with exactly the values that bare nodes stand for. -/
def Decodes (K : Kind α) (read : Route → Node → Decode α) : Prop :=
  ∀ route n, n.Bare → Decode.Gives (read route n) (K.Reads n)

end Kind

/-! ## 5. Readings of scalars and sequences -/

namespace Decode

open Kind

variable {α : Type} {d : Document}

theorem not_reads_sequence {means : String → ScalarStyle → α → Prop} {mark : Mark}
    {items : List Node} {a : α} : ¬ (Kind.scalar means).Reads (.sequence mark items) a := by
  rintro ⟨_, _, _, ⟨⟩, -⟩

theorem not_reads_mapping {means : String → ScalarStyle → α → Prop} {mark : Mark}
    {entries : List (Node × Node)} {a : α} :
    ¬ (Kind.scalar means).Reads (.mapping mark entries) a := by
  rintro ⟨_, _, _, ⟨⟩, -⟩

theorem reads_scalar_iff {means : String → ScalarStyle → α → Prop} {mark : Mark} {text : String}
    {style : ScalarStyle} {a : α} :
    (Kind.scalar means).Reads (.scalar mark none text style) a ↔ means text style a := by
  constructor
  · rintro ⟨_, _, _, ⟨⟩, ha⟩
    exact ha
  · exact fun ha => ⟨mark, text, style, rfl, ha⟩

theorem scalar_decodes {means : String → ScalarStyle → α → Prop} {wanted : String}
    {read : Option Bytes → String → ScalarStyle → Option (Except Mismatch α)}
    (h : ∀ text style a, read none text style = some (.ok a) ↔ means text style a) :
    (Kind.scalar means).Decodes fun route => scalar d route wanted read := by
  intro route n hn
  change Gives (scalar d route wanted read n) _
  cases hn with
  | scalar mark text style =>
    simp only [scalar, resolve, pure_bind]
    refine Gives.congr (P := fun a => read none text style = some (.ok a)) (.located ?_ mark route)
      fun a => (h text style a).trans reads_scalar_iff.symm
    cases read none text style with
    | none => exact (gives_wrongType d wanted _).congr fun a => by simp
    | some found =>
      cases found with
      | error problem => exact (gives_fail _).congr fun a => by simp
      | ok b => exact (gives_pure b).congr fun a => by simp [eq_comm]
  | @sequence mark items _ =>
    exact ((gives_wrongType d wanted (.sequence mark items)).located mark route).congr fun a =>
      iff_of_false id not_reads_sequence
  | @mapping mark entries _ _ =>
    exact ((gives_wrongType d wanted (.mapping mark entries)).located mark route).congr fun a =>
      iff_of_false id not_reads_mapping

theorem text_decodes (wanted : String) : (Kind.scalar MeansText).Decodes (text wanted d) :=
  scalar_decodes fun text style s => by simp [MeansText, eq_comm]

/-- A value that another one is made of, and that is put somewhere. -/
theorem as_gives {β γ : Type} {means : String → ScalarStyle → α → Prop} {act : Decode α} {n : Node}
    (h : Gives act ((Kind.scalar means).Reads n)) (f : α → β) (put : β → γ) :
    Gives (act >>= fun a => pure (put (f a))) fun c =>
      ∃ b, (Kind.scalar (MeansAs f means)).Reads n b ∧ c = put b := by
  refine (h.bind fun a _ => gives_pure (put (f a))).congr fun c => ?_
  constructor
  · rintro ⟨a, ⟨mark, text, style, hn, ha⟩, hc⟩
    exact ⟨f a, ⟨mark, text, style, hn, a, ha, rfl⟩, hc⟩
  · rintro ⟨_, ⟨mark, text, style, hn, a, ha, rfl⟩, hc⟩
    exact ⟨a, ⟨mark, text, style, hn, ha⟩, hc⟩

theorem readsAs_none_iff {name : String} {style : ScalarStyle} :
    Scalar.readsAs name none style = true ↔ style = .plain := by
  cases style <;> simp [Scalar.readsAs]

theorem boolean?_eq_some_iff {s : String} {b : Bool} : Scalar.boolean? s = some b ↔
    b = true ∧ s ∈ ["true", "True", "TRUE"] ∨ b = false ∧ s ∈ ["false", "False", "FALSE"] := by
  simp only [Scalar.boolean?, Bool.or_eq_true, beq_iff_eq, List.mem_cons, List.not_mem_nil, or_false,
    or_assoc]
  split
  · rename_i htrue
    rcases htrue with rfl | rfl | rfl <;> simp
  · rename_i htrue
    split
    · rename_i hfalse
      simp [htrue, hfalse, eq_comm]
    · rename_i hfalse
      simp [htrue, hfalse]

theorem boolean_decodes : (Kind.scalar MeansTruth).Decodes (boolean d) := by
  refine scalar_decodes fun text style b => ?_
  rw [MeansTruth, ← boolean?_eq_some_iff]
  by_cases hstyle : style = .plain
  · rw [if_pos (readsAs_none_iff.2 hstyle)]
    simp [hstyle]
  · rw [if_neg fun h => hstyle (readsAs_none_iff.1 h)]
    exact iff_of_false nofun fun h => hstyle h.1

theorem unsigned_decodes {limit bits : Nat} (wanted : String) (hlimit : limit ≤ Number.max64)
    (hbits : ∀ n, n ≤ limit ↔ n < 2 ^ bits) :
    (Kind.scalar (MeansNumber bits)).Decodes (unsigned limit wanted d) := by
  refine scalar_decodes fun text style n => ?_
  rw [MeansNumber, ← hbits]
  by_cases hstyle : style = .plain
  · rw [if_pos (readsAs_none_iff.2 hstyle), Option.map_eq_some_iff]
    constructor
    · rintro ⟨m, hm, hok⟩
      obtain ⟨hm, -⟩ := Scalar.unsigned?_eq_some_iff.1 hm
      split at hok
      · rename_i hle
        cases hok
        exact ⟨hstyle, hm, hle⟩
      · cases hok
    · rintro ⟨-, hn, hle⟩
      exact ⟨n, Scalar.unsigned?_eq_some_iff.2 ⟨hn, hle.trans hlimit⟩, if_pos hle⟩
  · rw [if_neg fun h => hstyle (readsAs_none_iff.1 h)]
    exact iff_of_false nofun fun h => hstyle h.1

/-- A value that may be absent is read as itself unless the scalar is a word for nothing. -/
theorem optional_decodes {means : String → ScalarStyle → α → Prop} {read : Route → Node → Decode α}
    (h : (Kind.scalar means).Decodes read) :
    (Kind.scalar (MeansMaybe means)).Decodes fun route => optional (read route) d := by
  intro route n hn
  change Gives (optional (read route) d n) _
  have hvalue := (h route n hn).map some
  cases hn with
  | scalar mark text style =>
    have hword : (text.isEmpty || Scalar.isNull text) = true ↔
        text ∈ ["", "~", "null", "Null", "NULL"] := by
      simp only [Scalar.isNull, Bool.or_eq_true, String.isEmpty_iff, beq_iff_eq, List.mem_cons,
        List.not_mem_nil, or_false]
      tauto
    have hread : optional (read route) d (.scalar mark none text style) =
        if style = .plain ∧ text ∈ ["", "~", "null", "Null", "NULL"] then pure none
        else some <$> read route (.scalar mark none text style) := by
      simp only [← hword]
      cases style with
      | plain =>
        simp only [true_and]
        rfl
      | _ =>
        rw [if_neg fun h => nomatch h.1]
        rfl
    rw [hread]
    by_cases habsent : style = .plain ∧ text ∈ ["", "~", "null", "Null", "NULL"]
    · rw [if_pos habsent]
      refine (gives_pure none).congr fun v => ?_
      rw [reads_scalar_iff, MeansMaybe, if_pos habsent]
    · rw [if_neg habsent]
      refine hvalue.congr fun v => ?_
      rw [reads_scalar_iff, MeansMaybe, if_neg habsent]
      simp only [reads_scalar_iff, MeansAs]
  | sequence mark hitems =>
    exact hvalue.congr fun v =>
      iff_of_false (fun ⟨a, ha, _⟩ => not_reads_sequence ha) not_reads_sequence
  | mapping mark hkeys hvalues =>
    exact hvalue.congr fun v =>
      iff_of_false (fun ⟨a, ha, _⟩ => not_reads_mapping ha) not_reads_mapping

theorem items_gives {K : Kind α} {read : Route → Node → Decode α} (h : K.Decodes read)
    {ns : List Node} (hns : ∀ n ∈ ns, n.Bare) (route : Route) (index : Nat) :
    Gives (items read route index ns) (ns.Forall₂ K.Reads) := by
  induction ns generalizing index with
  | nil => exact (gives_pure []).congr fun as => by simp
  | cons n ns ih =>
    obtain ⟨hn, hns⟩ := List.forall_mem_cons.1 hns
    refine ((h _ n hn).bind fun a _ => (ih hns (index + 1)).bind fun as _ =>
      gives_pure (a :: as)).congr fun as => ?_
    rw [List.forall₂_cons_left_iff]
    constructor
    · rintro ⟨a, ha, as, has, rfl⟩
      exact ⟨a, as, ha, has, rfl⟩
    · rintro ⟨a, as, ha, has, rfl⟩
      exact ⟨a, ha, as, has, rfl⟩

theorem isNothing_scalar_iff {mark : Mark} {text : String} {style : ScalarStyle} :
    (Node.scalar mark none text style).IsNothing ↔ isEmptyPlain text style = true := by
  rw [isEmptyPlain, Bool.and_eq_true, String.isEmpty_iff, decide_eq_true_iff]
  constructor
  · rintro ⟨_, ⟨⟩⟩
    exact ⟨rfl, rfl⟩
  · rintro ⟨rfl, rfl⟩
    exact ⟨mark, rfl⟩

theorem sequence_decodes {K : Kind α} {read : Route → Node → Decode α} (h : K.Decodes read) :
    (K.list.orNothing []).Decodes (sequence read d) := by
  intro route n hn
  cases hn with
  | scalar mark text style =>
    by_cases hempty : isEmptyPlain text style = true
    · have hread : sequence read d route (.scalar mark none text style) = pure [] := by
        change (if isEmptyPlain text style then _ else _) = _
        rw [if_pos hempty]
      rw [hread]
      refine (gives_pure []).congr fun as => ?_
      simp [orNothing, isNothing_scalar_iff.2 hempty]
    · have hread : sequence read d route (.scalar mark none text style) =
          located mark route (wrongType d "a sequence" (.scalar mark none text style)) := by
        change (if isEmptyPlain text style then _ else _) = _
        rw [if_neg hempty]
      rw [hread]
      refine ((gives_wrongType d _ _).located mark route).congr fun as => iff_of_false id ?_
      rintro (⟨hnothing, -⟩ | ⟨-, _, _, ⟨⟩, -⟩)
      exact hempty (isNothing_scalar_iff.1 hnothing)
  | sequence mark hitems =>
    refine ((items_gives h hitems route 0).located mark route).congr fun as => ?_
    constructor
    · exact fun has => .inr ⟨Node.not_isNothing_sequence, mark, _, rfl, has⟩
    · rintro (⟨⟨_, ⟨⟩⟩, -⟩ | ⟨-, _, _, ⟨⟩, has⟩)
      exact has
  | @mapping mark entries _ _ =>
    refine ((gives_wrongType d "a sequence" (.mapping mark entries)).located mark route).congr
      fun as => iff_of_false id ?_
    rintro (⟨⟨_, ⟨⟩⟩, -⟩ | ⟨-, _, _, ⟨⟩, -⟩)

end Decode

end TemplatePress.Yaml
