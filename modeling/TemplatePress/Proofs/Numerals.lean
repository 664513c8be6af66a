import Mathlib.Data.List.Forall2
import Mathlib.Data.Nat.Digits.Defs
import TemplatePress.Number.Digits

/-!
# What digits mean

Numbers are read digit by digit, and the reading stops at the first digit that takes the value over
a limit. What is read is the value of all the digits. This file fixes:

* `Spells`: characters are the digits of a number in a base, and `spells_ten_iff` says so of base
  ten in terms of characters alone;
* `readDigits_eq_ok_iff`: a reading succeeds exactly if the characters are the digits of a number
  within the limit, and gives this number;
* `readUnsigned_eq_ok_iff`: the same where a plus sign may precede the digits.
-/

namespace TemplatePress.Number

/-! ## 1. Digits in a row -/

/-- The characters are digits, each with its value. -/
def AreDigits (base : Nat) (cs : List Char) (ds : List Nat) : Prop :=
  cs.Forall₂ (fun c d => digit? base c = some d) ds

/-- The number that further digits make of `n`. -/
def onto (base n : Nat) (ds : List Nat) : Nat :=
  ds.foldl (fun v d => v * base + d) n

theorem lt_of_digit? {base d : Nat} {c : Char} (h : digit? base c = some d) : d < base := by
  obtain ⟨hlt, hd⟩ := Option.ite_none_right_eq_some.1 h
  exact Option.some.inj hd ▸ hlt

theorem le_onto {base n : Nat} (hbase : 0 < base) (ds : List Nat) : n ≤ onto base n ds := by
  induction ds generalizing n with
  | nil => exact Nat.le_refl n
  | cons d ds ih =>
    calc n ≤ n * base := Nat.le_mul_of_pos_right n hbase
      _ ≤ n * base + d := Nat.le_add_right _ _
      _ ≤ onto base n (d :: ds) := ih

theorem onto_zero (base : Nat) (ds : List Nat) : onto base 0 ds = Nat.ofDigits base ds.reverse := by
  rw [Nat.ofDigits_eq_foldr, List.foldr_reverse, onto]
  congr 1
  funext v d
  rw [Nat.cast_id, Nat.mul_comm, Nat.add_comm]

/-- **Reading on after digits within the limit.** The limit need only be compared with the number
    that comes out in the end, as digits never make a number smaller. -/
theorem readOnto_eq_ok_iff {base limit n m : Nat} {cs : List Char} (hn : n ≤ limit) :
    readOnto base limit n cs = .ok m ↔
      (∃ ds, AreDigits base cs ds ∧ m = onto base n ds) ∧ m ≤ limit := by
  induction cs generalizing n with
  | nil =>
    constructor
    · rintro ⟨⟩
      exact ⟨⟨[], .nil, rfl⟩, hn⟩
    · rintro ⟨⟨_, ⟨⟩, rfl⟩, -⟩
      rfl
  | cons c cs ih =>
    unfold readOnto
    cases hd : digit? base c with
    | none =>
      refine iff_of_false nofun ?_
      rintro ⟨⟨_, hds, -⟩, -⟩
      cases hds with
      | cons hc _ => cases hd.symm.trans hc
    | some d =>
      have hcons : (∃ ds, AreDigits base (c :: cs) ds ∧ m = onto base n ds) ↔
          ∃ ds, AreDigits base cs ds ∧ m = onto base (n * base + d) ds := by
        constructor
        · rintro ⟨_, hds, rfl⟩
          cases hds with
          | cons hc hds =>
            cases hd.symm.trans hc
            exact ⟨_, hds, rfl⟩
        · rintro ⟨ds, hds, rfl⟩
          exact ⟨d :: ds, .cons hd hds, rfl⟩
      rw [hcons]
      by_cases hlimit : n * base + d ≤ limit
      · simp only [if_pos hlimit]
        exact ih hlimit
      · simp only [if_neg hlimit]
        refine iff_of_false nofun ?_
        rintro ⟨⟨ds, -, rfl⟩, hle⟩
        exact hlimit ((le_onto (Nat.zero_lt_of_lt (lt_of_digit? hd)) ds).trans hle)

/-! ## 2. Numbers -/

/-- The characters are the digits of the number, of which there is one at least. -/
def Spells (base : Nat) (cs : List Char) (n : Nat) : Prop :=
  cs ≠ [] ∧ ∃ ds, AreDigits base cs ds ∧ n = Nat.ofDigits base ds.reverse

theorem Spells.unique {base n m : Nat} {cs : List Char} (h : Spells base cs n)
    (h' : Spells base cs m) : n = m := by
  obtain ⟨-, ds, hds, rfl⟩ := h
  obtain ⟨-, ds', hds', rfl⟩ := h'
  have hunique : Relator.RightUnique (fun c d => digit? base c = some d) :=
    fun _ _ _ h h' => Option.some.inj (h.symm.trans h')
  rw [List.right_unique_forall₂' hunique hds hds']

/-- **A reading gives the number that is spelled**, if it is within the limit. -/
theorem readDigits_eq_ok_iff {base limit n : Nat} {cs : List Char} :
    readDigits base limit cs = .ok n ↔ Spells base cs n ∧ n ≤ limit := by
  cases cs with
  | nil => exact iff_of_false nofun fun h => h.1.1 rfl
  | cons c cs =>
    rw [readDigits, readOnto_eq_ok_iff (Nat.zero_le limit)]
    simp only [onto_zero, Spells, ne_eq, List.cons_ne_nil, not_false_eq_true, true_and]

theorem digit?_ten_eq_some_iff {c : Char} {d : Nat} :
    digit? 10 c = some d ↔ c.isDigit = true ∧ d = c.toNat - '0'.toNat := by
  have hzero : '0'.toNat = 48 := rfl
  have hdigit : (c.isDigit = true) ↔ ('0' ≤ c ∧ c ≤ '9') := by
    simp [Char.isDigit, Char.le_def]
  have hbound (h : '0' ≤ c ∧ c ≤ '9') : c.toNat ≤ 57 := by
    exact (show c.toNat ≤ '9'.toNat from h.2)
  rw [hdigit, digit?]
  by_cases h : '0' ≤ c ∧ c ≤ '9'
  · have := hbound h
    have hlt : c.toNat - '0'.toNat < 10 := by omega
    simp only [if_pos h, if_pos hlt]
    exact ⟨fun hd => ⟨h, (Option.some.inj hd).symm⟩, fun hd => congrArg some hd.2.symm⟩
  · refine iff_of_false (fun hd => ?_) fun h' => h h'.1
    have hlt := lt_of_digit? hd
    obtain ⟨-, hd⟩ := Option.ite_none_right_eq_some.1 hd
    simp only [if_neg h] at hd
    split_ifs at hd <;> simp only [Option.some.injEq] at hd <;> omega

/-- **The digits of base ten**, read as the characters that they are. -/
theorem spells_ten_iff {cs : List Char} {n : Nat} : Spells 10 cs n ↔
    cs ≠ [] ∧ (∀ c ∈ cs, c.isDigit = true) ∧
      n = Nat.ofDigits 10 (cs.map fun c => c.toNat - '0'.toNat).reverse := by
  have hdigits (ds : List Nat) : AreDigits 10 cs ds ↔
      (∀ c ∈ cs, c.isDigit = true) ∧ ds = cs.map fun c => c.toNat - '0'.toNat := by
    induction cs generalizing ds with
    | nil => simp [AreDigits]
    | cons c cs ih =>
      simp only [AreDigits, List.forall₂_cons_left_iff] at ih ⊢
      constructor
      · rintro ⟨d, ds, hd, hds, rfl⟩
        obtain ⟨hc, rfl⟩ := digit?_ten_eq_some_iff.1 hd
        obtain ⟨hcs, rfl⟩ := (ih ds).1 hds
        exact ⟨List.forall_mem_cons.2 ⟨hc, hcs⟩, rfl⟩
      · rintro ⟨hcs, rfl⟩
        obtain ⟨hc, hcs⟩ := List.forall_mem_cons.1 hcs
        exact ⟨_, _, digit?_ten_eq_some_iff.2 ⟨hc, rfl⟩, (ih _).2 ⟨hcs, rfl⟩, rfl⟩
  simp only [Spells, hdigits]
  constructor
  · rintro ⟨hne, ds, ⟨hall, rfl⟩, rfl⟩
    exact ⟨hne, hall, rfl⟩
  · rintro ⟨hne, hall, rfl⟩
    exact ⟨hne, _, ⟨hall, rfl⟩, rfl⟩

theorem le_max32_iff {n : Nat} : n ≤ max32 ↔ n < 2 ^ 32 :=
  Nat.le_sub_one_iff_lt (Nat.pow_pos Nat.zero_lt_two)

theorem le_max64_iff {n : Nat} : n ≤ max64 ↔ n < 2 ^ 64 :=
  Nat.le_sub_one_iff_lt (Nat.pow_pos Nat.zero_lt_two)

theorem digit?_plus (base : Nat) : digit? base '+' = none := by
  have hlow : ¬ '0' ≤ '+' := by decide
  have hsmall : ¬ 'a' ≤ '+' := by decide
  have hcapital : ¬ 'A' ≤ '+' := by decide
  simp [digit?, hlow, hsmall, hcapital]

theorem not_spells_of_digit? {base n : Nat} {c : Char} {cs : List Char}
    (h : digit? base c = none) : ¬ Spells base (c :: cs) n := by
  rintro ⟨-, _, hds, -⟩
  cases hds with
  | cons hc _ => cases h.symm.trans hc

/-- **The same behind a plus sign**, which may be missing. -/
theorem readUnsigned_eq_ok_iff {base limit n : Nat} {cs : List Char} :
    readUnsigned base limit cs = .ok n ↔
      ∃ digits, (cs = digits ∨ cs = '+' :: digits) ∧ Spells base digits n ∧ n ≤ limit := by
  unfold readUnsigned
  split
  · refine iff_of_false nofun ?_
    rintro ⟨digits, hcs | hcs, hspells, -⟩
    · exact not_spells_of_digit? (digit?_plus base) (hcs ▸ hspells)
    · exact hspells.1 (List.cons.inj hcs).2.symm
  · rename_i rest _
    rw [readDigits_eq_ok_iff]
    constructor
    · exact fun h => ⟨rest, .inr rfl, h⟩
    · rintro ⟨digits, hcs | hcs, h⟩
      · exact absurd (hcs ▸ h.1) (not_spells_of_digit? (digit?_plus base))
      · exact (List.cons.inj hcs).2 ▸ h
  · rename_i hplus
    rw [readDigits_eq_ok_iff]
    constructor
    · exact fun h => ⟨cs, .inl rfl, h⟩
    · rintro ⟨digits, rfl | rfl, h⟩
      · exact h
      · exact absurd rfl (hplus digits)

end TemplatePress.Number
