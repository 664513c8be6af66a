import Mathlib.Data.List.Nodup
import Mathlib.Data.List.Pairwise
import TemplatePress.Proofs.Readings

/-!
# Records in a document

A record is read from the entries of a mapping, one after another. This file fixes:

* `Decode.record_preserves`: what holds of the start and is kept by the reading of each field holds
  of what a record gives;
* `Schema`: the settings of a record, each with a name, a kind of values and a place;
* `Schema.Describes`: the record that entries describe; `Schema.exists_describes_iff` says when there
  is one, and `Schema.Rearranged.describes_iff` that the order of entries and entries with other
  names are of no account;
* `Schema.record_gives`: a record is read as exactly what its entries describe, if each field is read
  as its kind of value.
-/

namespace TemplatePress.Yaml

namespace Decode

variable {α σ : Type} {d : Document} {known : List String}
  {set : String → Route → Node → σ → Decode σ}

/-! ## 1. What every field keeps -/

/-- What the reading of each known field keeps is kept by all entries, by induction on them. -/
theorem entries_preserves {I : σ → Prop}
    (hset : ∀ name ∈ known, ∀ route n s s' k k', set name route n s k = .ok s' k' → I s → I s')
    {route : Route} {es : List (Node × Node)} {given : List String} {s s' : σ} {k k' : Nat}
    (h : entries d known set route given es s k = .ok s' k') (hs : I s) : I s' := by
  induction es generalizing given s k with
  | nil =>
    cases h
    exact hs
  | cons e es ih =>
    obtain ⟨name, k₁, -, h⟩ := bind_eq_ok.1 h
    by_cases hknown : known.contains name = true
    · rw [if_pos hknown] at h
      by_cases hgiven : given.contains name = true
      · rw [if_pos hgiven] at h
        obtain ⟨_, _, hfail, -⟩ := bind_eq_ok.1 h
        exact absurd hfail not_fail_eq_ok
      · rw [if_neg hgiven] at h
        obtain ⟨s₁, k₂, hs₁, h⟩ := bind_eq_ok.1 h
        exact ih h (hset name (List.contains_iff_mem.1 hknown) _ _ _ _ _ _ hs₁ hs)
    · rw [if_neg hknown] at h
      obtain ⟨-, k₂, -, h⟩ := bind_eq_ok.1 h
      exact ih h hs

theorem record_preserves {I : σ → Prop}
    (hset : ∀ name ∈ known, ∀ route n s s' k k', set name route n s k = .ok s' k' → I s → I s')
    {wanted : String} {start : σ} {route : Route} {n : Node} {s : σ} {k k' : Nat}
    (h : record wanted known set start pure d route n k = .ok s k') (hstart : I start) : I s := by
  obtain ⟨n, k₁, -, h⟩ := bind_eq_ok.1 h
  cases n with
  | mapping mark es =>
    obtain ⟨s', k₂, hs, h⟩ := bind_eq_ok.1 (located_eq_ok.1 h)
    cases h
    exact entries_preserves hset hs hstart
  | scalar mark tag text style =>
    simp only at h
    split at h
    · cases located_eq_ok.1 h
      exact hstart
    · exact absurd (located_eq_ok.1 h) not_wrongType_eq_ok
  | sequence mark ns => exact absurd (located_eq_ok.1 h) not_wrongType_eq_ok
  | _ => exact absurd h not_wrongType_eq_ok

/-- What holds of the value of a text without a document and of every value that is read holds of
    what a text gives. -/
theorem ofText_preserves {I : α → Prop} {read : Document → Route → Node → Decode α} {absent : α}
    {text : String} {a : α} (h : ofText read absent text = .ok a) (habsent : I absent)
    (hread : ∀ d n k k', read d .root n k = .ok a k' → I a) : I a := by
  unfold ofText at h
  simp only at h
  split at h
  · cases h
    exact habsent
  · split at h
    · cases h
    · rename_i hok
      split at h
      · cases h
      · split at h
        · cases h
        · cases h
          exact hread _ _ _ _ hok

/-- A text with one document that was read to its end has the value of its node. -/
theorem ofText_eq_ok_iff {read : Document → Route → Node → Decode α} {absent : α} {text : String}
    {root : Node} (hroot : (Document.ofText text).root = some root)
    (hfailure : (Document.ofText text).failure = none)
    (hfollowed : (Document.ofText text).isFollowed = false) {a : α} :
    ofText read absent text = .ok a ↔
      ∃ k', read (Document.ofText text) .root root 0 = .ok a k' := by
  unfold ofText
  generalize Document.ofText text = d at *
  simp only [hroot, hfailure, hfollowed]
  cases read d .root root 0 <;> simp

/-- A text without a document has the value of one. -/
theorem ofText_of_none {read : Document → Route → Node → Decode α} {absent : α} {text : String}
    (h : (Document.ofText text).root = none) : ofText read absent text = .ok absent := by
  unfold ofText
  generalize Document.ofText text = d at h
  simp only [h]

end Decode

/-! ## 2. Settings of a record -/

/-- A setting of a record: its name in a document, the kind of its values, and where its value stands
    in the record. -/
structure Slot (σ : Type) where
  name : String
  Value : Type
  kind : Kind Value
  get : σ → Value
  put : Value → σ → σ
  get_put : ∀ v s, get (put v s) = v

namespace Slot

variable {σ : Type}

/-- Two settings with different names and different places. -/
structure Apart (a b : Slot σ) : Prop where
  name : a.name ≠ b.name
  left : ∀ v s, a.get (b.put v s) = a.get s
  right : ∀ v s, b.get (a.put v s) = b.get s

theorem apart_iff {a b : Slot σ} : Apart a b ↔ a.name ≠ b.name ∧
    (∀ v s, a.get (b.put v s) = a.get s) ∧ ∀ v s, b.get (a.put v s) = b.get s :=
  ⟨fun h => ⟨h.name, h.left, h.right⟩, fun ⟨hname, hleft, hright⟩ => ⟨hname, hleft, hright⟩⟩

theorem Apart.symm {a b : Slot σ} (h : Apart a b) : Apart b a :=
  ⟨h.name.symm, h.right, h.left⟩

instance : Std.Symm (@Apart σ) :=
  ⟨fun _ _ h => h.symm⟩

/-- The setting of `s` is the value that is given for its name, or that of `start` where none is
    given. -/
def Settles (slot : Slot σ) (start : σ) (given : List (String × Node)) (s : σ) : Prop :=
  (∃ n, (slot.name, n) ∈ given ∧ slot.kind.Reads n (slot.get s)) ∨
    slot.name ∉ given.map Prod.fst ∧ slot.get s = slot.get start

end Slot

/-- The settings of a record, of which no two share a name or a place, and which are all of it. -/
structure Schema (σ : Type) where
  slots : List (Slot σ)
  apart : slots.Pairwise Slot.Apart
  ext : ∀ s s', (∀ slot ∈ slots, slot.get s = slot.get s') → s = s'

/-- The name that a key is. -/
def Node.name? : Node → Option String
  | .scalar _ _ text _ => some text
  | _ => none

namespace Schema

variable {σ : Type}

/-- The names of the settings. -/
def names (S : Schema σ) : List String :=
  S.slots.map Slot.name

/-- The entries whose keys name a setting, in order. -/
def given (S : Schema σ) (es : List (Node × Node)) : List (String × Node) :=
  es.filterMap fun e => (e.1.name?.filter S.names.contains).map fun name => (name, e.2)

/-- The record has what the entries say: each setting that is given, once, has its value, and the
    others are as at the start. Entries with other names say nothing. -/
structure Describes (S : Schema σ) (start : σ) (es : List (Node × Node)) (s : σ) : Prop where
  keys : ∀ e ∈ es, e.1.name?.isSome = true
  once : ((S.given es).map Prod.fst).Nodup
  settings : ∀ slot ∈ S.slots, slot.Settles start (S.given es) s

/-- No setting is given twice, and each that is given has a value of its kind. -/
structure Fits (S : Schema σ) (es : List (Node × Node)) : Prop where
  keys : ∀ e ∈ es, e.1.name?.isSome = true
  once : ((S.given es).map Prod.fst).Nodup
  typed : ∀ slot ∈ S.slots, ∀ n, (slot.name, n) ∈ S.given es → slot.kind.Accepts n

/-- The entries `es'` give the same settings as `es`, perhaps in another order. What stands among
    either of them with other names is of no account. -/
structure Rearranged (S : Schema σ) (es es' : List (Node × Node)) : Prop where
  keys : ∀ e ∈ es, e.1.name?.isSome = true
  keys' : ∀ e ∈ es', e.1.name?.isSome = true
  order : ∃ row, (S.given es).Perm row ∧ row.Forall₂ (fun e e' => e.1 = e'.1 ∧
    ∀ slot ∈ S.slots, slot.name = e.1 → slot.kind.Alike e.2 e'.2) (S.given es')

variable {S : Schema σ} {start : σ} {es es' : List (Node × Node)}

/-! ## 3. Records that entries describe -/

/-- A value can be put at the place of each setting in turn, by induction on the settings. -/
theorem exists_settles (start : σ) {given : List (String × Node)} {slots : List (Slot σ)}
    (hapart : slots.Pairwise Slot.Apart)
    (htyped : ∀ slot ∈ slots, ∀ n, (slot.name, n) ∈ given → slot.kind.Accepts n) :
    ∃ s, (∀ slot ∈ slots, slot.Settles start given s) ∧
      ∀ other : Slot σ, (∀ slot ∈ slots, slot.Apart other) → other.get s = other.get start := by
  induction slots with
  | nil => exact ⟨start, List.forall_mem_nil _, fun _ _ => rfl⟩
  | cons slot slots ih =>
    obtain ⟨hfirst, hapart⟩ := List.pairwise_cons.1 hapart
    obtain ⟨hslot, htyped⟩ := List.forall_mem_cons.1 htyped
    obtain ⟨s, hsettles, hothers⟩ := ih hapart htyped
    by_cases hgiven : slot.name ∈ given.map Prod.fst
    · obtain ⟨⟨_, n⟩, hn, rfl⟩ := List.mem_map.1 hgiven
      obtain ⟨v, hv⟩ := slot.kind.accepts_iff.1 (hslot n hn)
      refine ⟨slot.put v s, List.forall_mem_cons.2 ⟨?_, fun slot' hslot' => ?_⟩, ?_⟩
      · exact .inl ⟨n, hn, (slot.get_put v s).symm ▸ hv⟩
      · rw [Slot.Settles, (hfirst slot' hslot').right v s]
        exact hsettles slot' hslot'
      · intro other hother
        obtain ⟨hslot, hslots⟩ := List.forall_mem_cons.1 hother
        rw [hslot.right v s, hothers other hslots]
    · refine ⟨s, List.forall_mem_cons.2 ⟨.inr ⟨hgiven, ?_⟩, hsettles⟩, fun other hother => ?_⟩
      · exact hothers slot fun slot' hslot' => (hfirst slot' hslot').symm
      · exact hothers other (List.forall_mem_cons.1 hother).2

/-- What is given for a name is given once. -/
theorem eq_of_given {given : List (String × Node)} (h : (given.map Prod.fst).Nodup) {name : String}
    {n n' : Node} (hn : (name, n) ∈ given) (hn' : (name, n') ∈ given) : n = n' :=
  (Prod.mk.inj (List.inj_on_of_nodup_map h hn hn' rfl)).2

/-- **Entries describe a record exactly if they fit.** -/
theorem exists_describes_iff (start : σ) : (∃ s, S.Describes start es s) ↔ S.Fits es := by
  constructor
  · rintro ⟨s, h⟩
    refine ⟨h.keys, h.once, fun slot hslot n hn => ?_⟩
    rcases h.settings slot hslot with ⟨n', hn', hreads⟩ | ⟨hnot, -⟩
    · exact slot.kind.accepts_iff.2 ⟨_, eq_of_given h.once hn' hn ▸ hreads⟩
    · exact absurd (List.mem_map_of_mem hn) hnot
  · intro h
    obtain ⟨s, hs, -⟩ := exists_settles start S.apart h.typed
    exact ⟨s, h.keys, h.once, hs⟩

/-! ## 4. The order of entries -/

theorem exists_mem_of_forall₂ {α β : Type} {R : α → β → Prop} {as : List α} {bs : List β}
    (h : as.Forall₂ R bs) {a : α} (ha : a ∈ as) : ∃ b ∈ bs, R a b := by
  induction h with
  | nil => cases ha
  | cons hR _ ih =>
    rcases List.mem_cons.1 ha with rfl | ha
    · exact ⟨_, List.mem_cons_self, hR⟩
    · obtain ⟨b, hb, hR⟩ := ih ha
      exact ⟨b, List.mem_cons_of_mem _ hb, hR⟩

theorem Rearranged.perm (h : S.Rearranged es es') :
    ((S.given es).map Prod.fst).Perm ((S.given es').map Prod.fst) := by
  obtain ⟨row, hperm, hrow⟩ := h.order
  have hnames : row.map Prod.fst = (S.given es').map Prod.fst := by
    rw [← List.forall₂_eq_eq_eq, List.forall₂_map_left_iff, List.forall₂_map_right_iff]
    exact hrow.imp fun _ _ h => h.1
  exact hnames ▸ hperm.map Prod.fst

theorem Rearranged.settles_iff (h : S.Rearranged es es') {slot : Slot σ} (hslot : slot ∈ S.slots)
    {s : σ} : slot.Settles start (S.given es) s ↔ slot.Settles start (S.given es') s := by
  obtain ⟨row, hperm, hrow⟩ := h.order
  refine or_congr ⟨?_, ?_⟩ (and_congr_left fun _ => not_congr h.perm.mem_iff)
  · rintro ⟨n, hn, hreads⟩
    obtain ⟨⟨name, n'⟩, hn', rfl, halike⟩ := exists_mem_of_forall₂ hrow (hperm.mem_iff.1 hn)
    exact ⟨n', hn', (slot.kind.reads_alike (halike slot hslot rfl)).1 hreads⟩
  · rintro ⟨n', hn', hreads⟩
    obtain ⟨⟨name, n⟩, hn, hname, halike⟩ := exists_mem_of_forall₂ hrow.flip hn'
    obtain rfl : name = slot.name := hname
    exact ⟨n, hperm.mem_iff.2 hn, (slot.kind.reads_alike (halike slot hslot rfl)).2 hreads⟩

/-- **Entries that are rearranged describe the same records.** -/
theorem Rearranged.describes_iff (h : S.Rearranged es es') {s : σ} :
    S.Describes start es s ↔ S.Describes start es' s := by
  constructor
  · rintro ⟨-, honce, hsettings⟩
    exact ⟨h.keys', h.perm.nodup_iff.1 honce, fun slot hslot =>
      (h.settles_iff hslot).1 (hsettings slot hslot)⟩
  · rintro ⟨-, honce, hsettings⟩
    exact ⟨h.keys, h.perm.nodup_iff.2 honce, fun slot hslot =>
      (h.settles_iff hslot).2 (hsettings slot hslot)⟩

/-- Fitting entries are rearranged by an order of them and by entries with other names. -/
theorem Fits.rearranged_of_given (h : S.Fits es) (hkeys : ∀ e ∈ es', e.1.name?.isSome = true)
    (hgiven : (S.given es).Perm (S.given es')) : S.Rearranged es es' := by
  refine ⟨h.keys, hkeys, S.given es', hgiven, ?_⟩
  refine List.forall₂_same.2 fun e he => ⟨rfl, fun slot hslot hname => ?_⟩
  have hmem : (slot.name, e.2) ∈ S.given es := hname ▸ hgiven.mem_iff.2 he
  exact slot.kind.alike_self (h.typed slot hslot e.2 hmem)

theorem Fits.rearranged_of_perm (h : S.Fits es) (hperm : es.Perm es') : S.Rearranged es es' :=
  h.rearranged_of_given (fun e he => h.keys e (hperm.mem_iff.2 he)) (hperm.filterMap _)

/-- Records that mappings stand for; settings that are not given are as at the start. -/
def kind (S : Schema σ) (start : σ) : Kind σ where
  Reads n s := ∃ mark es, n = .mapping mark es ∧ S.Describes start es s
  Accepts n := ∃ mark es, n = .mapping mark es ∧ S.Fits es
  Alike n n' := ∃ mark mark' es es', n = .mapping mark es ∧ n' = .mapping mark' es' ∧
    S.Rearranged es es'
  accepts_iff {n} := by
    constructor
    · rintro ⟨mark, es, rfl, h⟩
      obtain ⟨s, hs⟩ := (exists_describes_iff start).2 h
      exact ⟨s, mark, es, rfl, hs⟩
    · rintro ⟨s, mark, es, rfl, hs⟩
      exact ⟨mark, es, rfl, (exists_describes_iff start).1 ⟨s, hs⟩⟩
  alike_self := fun ⟨mark, es, hn, h⟩ =>
    ⟨mark, mark, es, es, hn, hn, h.rearranged_of_perm (List.Perm.refl es)⟩
  reads_alike {n n' s} := by
    rintro ⟨mark, mark', es, es', rfl, rfl, h⟩
    constructor
    · rintro ⟨_, _, ⟨⟩, hs⟩
      exact ⟨mark', es', rfl, h.describes_iff.1 hs⟩
    · rintro ⟨_, _, ⟨⟩, hs⟩
      exact ⟨mark, es, rfl, h.describes_iff.2 hs⟩

/-! ## 5. The reading of records -/

/-- The reading of a known field puts a value of its kind at its place. -/
def Reader (S : Schema σ) (set : String → Route → Node → σ → Decode σ) : Prop :=
  ∀ slot ∈ S.slots, ∀ route n s, n.Bare → Decode.Gives (set slot.name route n s) fun s' =>
    ∃ v, slot.kind.Reads n v ∧ s' = slot.put v s

theorem given_cons_known {name : String} {key value : Node} (hname : key.name? = some name)
    (hknown : name ∈ S.names) : S.given ((key, value) :: es) = (name, value) :: S.given es := by
  have hcontains : S.names.contains name = true := List.contains_iff_mem.2 hknown
  rw [given, List.filterMap_cons]
  simp only [hname, Option.filter_some, hcontains, if_true, Option.map_some]
  rfl

theorem given_cons_unknown {name : String} {key value : Node} (hname : key.name? = some name)
    (hknown : name ∉ S.names) : S.given ((key, value) :: es) = S.given es := by
  have hcontains : S.names.contains name = false := by
    rw [← Bool.not_eq_true, List.contains_iff_mem]
    exact hknown
  rw [given, List.filterMap_cons]
  simp only [hname, Option.filter_some, hcontains, Bool.false_eq_true, if_false, Option.map_none]
  rfl

/-- A setting that no entry gives is as it was before. -/
theorem settles_of_notMem {slot : Slot σ} {given : List (String × Node)}
    (h : slot.name ∉ given.map Prod.fst) {s s' : σ} :
    slot.Settles s given s' ↔ slot.get s' = slot.get s := by
  refine ⟨?_, fun hget => .inr ⟨h, hget⟩⟩
  rintro (⟨n, hn, -⟩ | ⟨-, hget⟩)
  · exact absurd (List.mem_map_of_mem hn) h
  · exact hget

/-- A setting that the first entry gives, and no other one, has the value of that entry. -/
theorem settles_cons_self {slot : Slot σ} {n : Node} {given : List (String × Node)}
    (h : slot.name ∉ given.map Prod.fst) {s s' : σ} :
    slot.Settles s ((slot.name, n) :: given) s' ↔ slot.kind.Reads n (slot.get s') := by
  constructor
  · rintro (⟨n', hn', hreads⟩ | ⟨hnot, -⟩)
    · rcases List.mem_cons.1 hn' with hsame | hn'
      · exact (Prod.mk.inj hsame).2 ▸ hreads
      · exact absurd (List.mem_map_of_mem hn') h
    · exact absurd List.mem_cons_self hnot
  · exact fun hreads => .inl ⟨n, List.mem_cons_self, hreads⟩

/-- A setting that the first entry does not give is what the other entries make of it. -/
theorem settles_cons_of_ne {slot : Slot σ} {name : String} (hne : slot.name ≠ name) {n : Node}
    {given : List (String × Node)} {s s' : σ} :
    slot.Settles s ((name, n) :: given) s' ↔ slot.Settles s given s' := by
  simp only [Slot.Settles, List.mem_cons, Prod.mk.injEq, hne, false_and, false_or, List.map_cons]

/-- Entries say the same of a setting from two starts that agree on it. -/
theorem settles_congr {slot : Slot σ} {given : List (String × Node)} {s₁ s s' : σ}
    (h : slot.get s₁ = slot.get s) : slot.Settles s₁ given s' ↔ slot.Settles s given s' := by
  rw [Slot.Settles, Slot.Settles, h]

/-- **What the first entry gives and the others make of it** is what all of them make of the start,
    if no other gives the same setting. -/
theorem settles_put_iff {first : Slot σ} (hfirst : first ∈ S.slots) {n : Node}
    {given : List (String × Node)} (h : first.name ∉ given.map Prod.fst) {s s' : σ} :
    (∃ v, first.kind.Reads n v ∧ ∀ slot ∈ S.slots, slot.Settles (first.put v s) given s') ↔
      ∀ slot ∈ S.slots, slot.Settles s ((first.name, n) :: given) s' := by
  have hother {slot : Slot σ} (hslot : slot ∈ S.slots) (hne : slot ≠ first) (v : first.Value) :
      slot.Settles (first.put v s) given s' ↔ slot.Settles s ((first.name, n) :: given) s' := by
    have hapart := S.apart.forall hslot hfirst hne
    rw [settles_cons_of_ne hapart.name, settles_congr (hapart.left v s)]
  constructor
  · rintro ⟨v, hv, hsettles⟩ slot hslot
    by_cases hsame : slot = first
    · subst hsame
      rw [settles_cons_self h, (settles_of_notMem h).1 (hsettles slot hslot), slot.get_put]
      exact hv
    · exact (hother hslot hsame v).1 (hsettles slot hslot)
  · intro hsettles
    refine ⟨first.get s', (settles_cons_self h).1 (hsettles first hfirst), fun slot hslot => ?_⟩
    by_cases hsame : slot = first
    · subst hsame
      rw [settles_of_notMem h, slot.get_put]
    · exact (hother hslot hsame _).2 (hsettles slot hslot)

/-- An entry with the name of a setting gives it, if no other entry does. -/
theorem describes_cons_known {slot : Slot σ} (hslot : slot ∈ S.slots) {key value : Node}
    (hname : key.name? = some slot.name) {s s' : σ} : S.Describes s ((key, value) :: es) s' ↔
      slot.name ∉ (S.given es).map Prod.fst ∧
        ∃ v, slot.kind.Reads value v ∧ S.Describes (slot.put v s) es s' := by
  have hgiven : S.given ((key, value) :: es) = (slot.name, value) :: S.given es :=
    given_cons_known hname (List.mem_map_of_mem hslot)
  constructor
  · rintro ⟨hkeys, honce, hsettings⟩
    rw [hgiven] at honce hsettings
    obtain ⟨hnot, honce⟩ := List.nodup_cons.1 honce
    obtain ⟨v, hv, hsettings⟩ := (settles_put_iff hslot hnot).2 hsettings
    exact ⟨hnot, v, hv, (List.forall_mem_cons.1 hkeys).2, honce, hsettings⟩
  · rintro ⟨hnot, v, hv, hkeys, honce, hsettings⟩
    refine ⟨List.forall_mem_cons.2 ⟨hname ▸ rfl, hkeys⟩, ?_, ?_⟩ <;> rw [hgiven]
    · exact List.nodup_cons.2 ⟨hnot, honce⟩
    · exact (settles_put_iff hslot hnot).1 ⟨v, hv, hsettings⟩

/-- The entries from one with the name of a setting describe a record, and give nothing that was
    given before, exactly if the others do so from the setting on. -/
theorem describes_cons_new {slot : Slot σ} (hslot : slot ∈ S.slots) {key value : Node}
    (hname : key.name? = some slot.name) {seen : List String} (hseen : slot.name ∉ seen) {s s' : σ} :
    ((∀ name ∈ (S.given ((key, value) :: es)).map Prod.fst, name ∉ seen) ∧
        S.Describes s ((key, value) :: es) s') ↔
      ∃ v, slot.kind.Reads value v ∧
        (∀ name ∈ (S.given es).map Prod.fst, name ∉ slot.name :: seen) ∧
        S.Describes (slot.put v s) es s' := by
  rw [describes_cons_known hslot hname, given_cons_known hname (List.mem_map_of_mem hslot)]
  constructor
  · rintro ⟨hnew, hnot, v, hv, hrest⟩
    refine ⟨v, hv, fun name hmem hin => ?_, hrest⟩
    rcases List.mem_cons.1 hin with rfl | hin
    · exact hnot hmem
    · exact (List.forall_mem_cons.1 hnew).2 name hmem hin
  · rintro ⟨v, hv, hnew, hrest⟩
    refine ⟨List.forall_mem_cons.2 ⟨hseen, fun name hmem hin => ?_⟩, ?_, v, hv, hrest⟩
    · exact hnew name hmem (List.mem_cons_of_mem _ hin)
    · exact fun hmem => hnew slot.name hmem List.mem_cons_self

/-- An entry with another name says nothing. -/
theorem describes_cons_unknown {name : String} (hname : name ∉ S.names) {key value : Node}
    (hkey : key.name? = some name) {s s' : σ} :
    S.Describes s ((key, value) :: es) s' ↔ S.Describes s es s' := by
  have hgiven : S.given ((key, value) :: es) = S.given es := given_cons_unknown hkey hname
  constructor
  · rintro ⟨hkeys, honce, hsettings⟩
    rw [hgiven] at honce hsettings
    exact ⟨(List.forall_mem_cons.1 hkeys).2, honce, hsettings⟩
  · rintro ⟨hkeys, honce, hsettings⟩
    exact ⟨List.forall_mem_cons.2 ⟨hkey ▸ rfl, hkeys⟩, hgiven ▸ honce, hgiven ▸ hsettings⟩

variable {d : Document} {set : String → Route → Node → σ → Decode σ}

theorem reads_text_iff {key : Node} (hkey : key.Bare) {name : String} :
    (Kind.scalar Kind.MeansText).Reads key name ↔ key.name? = some name := by
  cases hkey with
  | scalar mark text style =>
    rw [Decode.reads_scalar_iff, Kind.MeansText, Node.name?, Option.some.injEq, eq_comm]
  | sequence mark _ => exact iff_of_false Decode.not_reads_sequence (Option.some_ne_none name).symm
  | mapping mark _ _ => exact iff_of_false Decode.not_reads_mapping (Option.some_ne_none name).symm

/-- **The entries of a mapping are read as what they describe**, by induction on them. `seen` are the
    names of the known entries before. -/
theorem entries_gives (hset : S.Reader set) (hkeys : ∀ e ∈ es, e.1.Bare)
    (hvalues : ∀ e ∈ es, e.2.Bare) (route : Route) (seen : List String) (s : σ) :
    Decode.Gives (Decode.entries d S.names set route seen es s) fun s' =>
      (∀ name ∈ (S.given es).map Prod.fst, name ∉ seen) ∧ S.Describes s es s' := by
  induction es generalizing seen s with
  | nil =>
    refine (Decode.gives_pure s).congr fun s' => ⟨?_, fun h => ?_⟩
    · rintro rfl
      exact ⟨List.forall_mem_nil _, List.forall_mem_nil _, List.nodup_nil,
        fun slot _ => .inr ⟨List.not_mem_nil, rfl⟩⟩
    · exact S.ext s' s fun slot hslot =>
        (settles_of_notMem List.not_mem_nil).1 (h.2.settings slot hslot)
  | cons e es ih =>
    obtain ⟨key, value⟩ := e
    obtain ⟨hkey, hkeys⟩ := List.forall_mem_cons.1 hkeys
    obtain ⟨hvalue, hvalues⟩ := List.forall_mem_cons.1 hvalues
    have hname := (Decode.text_decodes (d := d) "field identifier" route key hkey).congr
      fun name => reads_text_iff hkey
    -- what the entry says of the record as soon as the name of its key is known
    have hentry (name : String) (hname : key.name? = some name) :
        Decode.Gives (do
          if S.names.contains name then
            if seen.contains name then Decode.fail (.mismatch (.repeatedField name) none)
            let s' ← set name (Decode.valueRoute route key) value s
            Decode.entries d S.names set route (name :: seen) es s'
          else
            Decode.ignore d value
            Decode.entries d S.names set route seen es s) fun s' =>
          (∀ name ∈ (S.given ((key, value) :: es)).map Prod.fst, name ∉ seen) ∧
            S.Describes s ((key, value) :: es) s' := by
      by_cases hknown : name ∈ S.names
      · rw [if_pos (List.contains_iff_mem.2 hknown)]
        obtain ⟨slot, hslot, rfl⟩ := List.mem_map.1 hknown
        by_cases hseen : slot.name ∈ seen
        · rw [if_pos (List.contains_iff_mem.2 hseen)]
          refine ((Decode.gives_fail _).bind (Q := fun _ _ => False) fun _ h => h.elim).congr
            fun s' => iff_of_false (fun ⟨_, h, _⟩ => h) fun h => ?_
          rw [given_cons_known hname hknown] at h
          exact h.1 slot.name List.mem_cons_self hseen
        · rw [if_neg fun h => hseen (List.contains_iff_mem.1 h)]
          refine ((hset slot hslot _ value s hvalue).bind fun s₁ _ =>
            ih hkeys hvalues (slot.name :: seen) s₁).congr fun s' => ?_
          rw [describes_cons_new hslot hname hseen]
          constructor
          · rintro ⟨_, ⟨v, hv, rfl⟩, h⟩
            exact ⟨v, hv, h⟩
          · rintro ⟨v, hv, h⟩
            exact ⟨slot.put v s, ⟨v, hv, rfl⟩, h⟩
      · have hwhole : Decode.ignore d value = pure () := if_pos hvalue.isWhole
        rw [if_neg fun h => hknown (List.contains_iff_mem.1 h), hwhole,
          given_cons_unknown hname hknown]
        refine ((Decode.gives_pure ()).bind fun _ _ => ih hkeys hvalues seen s).congr fun s' => ?_
        rw [describes_cons_unknown hknown hname]
        exact ⟨fun ⟨_, _, h⟩ => h, fun h => ⟨(), rfl, h⟩⟩
    refine (hname.bind hentry).congr fun s' => ⟨fun ⟨_, _, h⟩ => h, fun h => ?_⟩
    obtain ⟨name, hname⟩ := Option.isSome_iff_exists.1 (h.2.keys _ List.mem_cons_self)
    exact ⟨name, hname, h⟩

/-- **A record is read as what its mapping describes.** `finish` makes a value of the settings. -/
theorem record_gives {α : Type} (hset : S.Reader set) {finish : σ → Decode α} {Q : σ → α → Prop}
    (hfinish : ∀ s, Decode.Gives (finish s) (Q s)) (wanted : String) (start : σ) (route : Route)
    {n : Node} (hn : n.Bare) :
    Decode.Gives (Decode.record wanted S.names set start finish d route n) fun a =>
      ∃ s, ((S.kind start).orNothing start).Reads n s ∧ Q s a := by
  cases hn with
  | scalar mark text style =>
    by_cases hempty : Decode.isEmptyPlain text style = true
    · have hread : Decode.record wanted S.names set start finish d route
          (.scalar mark none text style) = Decode.located mark route (finish start) := by
        change (if Decode.isEmptyPlain text style then _ else _) = _
        rw [if_pos hempty]
      rw [hread]
      refine ((hfinish start).located mark route).congr fun a => ?_
      simp [Kind.orNothing, Decode.isNothing_scalar_iff.2 hempty]
    · have hread : Decode.record wanted S.names set start finish d route
          (.scalar mark none text style) =
            Decode.located mark route (Decode.wrongType d wanted (.scalar mark none text style)) := by
        change (if Decode.isEmptyPlain text style then _ else _) = _
        rw [if_neg hempty]
      rw [hread]
      refine ((Decode.gives_wrongType d _ _).located mark route).congr
        fun a => iff_of_false id ?_
      rintro ⟨_, ⟨hnothing, -⟩ | ⟨-, _, _, ⟨⟩, -⟩, -⟩
      exact hempty (Decode.isNothing_scalar_iff.1 hnothing)
  | @sequence mark items _ =>
    refine ((Decode.gives_wrongType d wanted (.sequence mark items)).located mark route).congr
      fun a => iff_of_false id ?_
    rintro ⟨_, ⟨⟨_, ⟨⟩⟩, -⟩ | ⟨-, _, _, ⟨⟩, -⟩, -⟩
  | @mapping mark es hkeys hvalues =>
    refine (((entries_gives hset hkeys hvalues route [] start).bind
      fun s _ => hfinish s).located mark route).congr fun a => exists_congr fun s => ?_
    refine and_congr_left fun _ =>
      ⟨fun h => .inr ⟨Node.not_isNothing_mapping, mark, es, rfl, h.2⟩, ?_⟩
    rintro (⟨⟨_, ⟨⟩⟩, -⟩ | ⟨-, _, _, ⟨⟩, h⟩)
    exact ⟨fun _ _ => List.not_mem_nil, h⟩

/-- A record that is what was read of it. -/
theorem record_decodes (hset : S.Reader set) (wanted : String) (start : σ) :
    ((S.kind start).orNothing start).Decodes (Decode.record wanted S.names set start pure d) :=
  fun route n hn => (record_gives hset Decode.gives_pure wanted start route hn).congr fun s => by
    simp

end Schema

end TemplatePress.Yaml
