import Mathlib.Data.List.Basic
import Mathlib.Data.List.TakeWhile
import Mathlib.Data.Nat.Init
import Mathlib.Tactic.SplitIfs
import TemplatePress.Text.Utf8

/-!
# Texts and their bytes

A text is written as bytes, and bytes are read piece by piece. That the two undo one another is
shown character by character. This file fixes:

* `piece_encode`, `encode_of_piece`: the bytes of a character read as this character, and bytes that
  read as a character are those that it is written with;
* `pieces_bytes`: what a text writes has no broken run;
* `decode?_eq_some_iff`, `lossy_bytes`: bytes are a text exactly if the text writes them, and a text
  is shown as it is.
-/

namespace TemplatePress.Text.Utf8

/-! ## 1. One character -/

/-- The bytes that continue a character are taken as they stand. -/
theorem continued_append {lead b : UInt8} {more : Bytes} (hb : isSecond lead b = true)
    (hmore : ∀ x ∈ more, isContinuation x = true) (rest : Bytes) :
    continued lead (more.length + 1) (b :: more ++ rest) = b :: more := by
  have htake : (b :: more ++ rest).take (more.length + 1) = b :: more := by simp
  simp only [continued, htake, hb, if_true]
  rw [List.takeWhile_eq_self_iff.2 hmore]

/-- What continues a character was taken from the front of what follows. -/
theorem of_length_continued {lead : UInt8} {n : Nat} {rest : Bytes}
    (h : (continued lead (n + 1) rest).length = n + 1) :
    ∃ b more, rest.take (n + 1) = b :: more ∧ more.length = n ∧ isSecond lead b = true ∧
      (∀ x ∈ more, isContinuation x = true) ∧ continued lead (n + 1) rest = b :: more := by
  unfold continued at h
  cases htake : rest.take (n + 1) with
  | nil => simp [htake] at h
  | cons b more =>
    rw [htake] at h
    by_cases hb : isSecond lead b = true
    · simp only [hb, if_true, List.length_cons, Nat.add_right_cancel_iff] at h
      have hle : more.length ≤ n := by
        have := congrArg List.length htake
        simp only [List.length_take, List.length_cons] at this
        omega
      have hwhole : more.takeWhile isContinuation = more :=
        (List.takeWhile_prefix _).eq_of_length_le (by omega)
      exact ⟨b, more, rfl, by rw [← h, hwhole], hb, List.takeWhile_eq_self_iff.1 hwhole,
        by simp [continued, htake, hb, hwhole]⟩
    · simp [hb] at h

/-- The value that bytes give behind the bits of a lead byte. -/
def value (lead : UInt8) (more : Bytes) : Nat :=
  more.foldl (fun v b => v * 64 + (b.toNat - 0x80)) (leadBits lead more.length)

theorem isContinuation_iff {b : UInt8} :
    isContinuation b = true ↔ 0x80 ≤ b.toNat ∧ b.toNat ≤ 0xBF := by
  simp [isContinuation, UInt8.le_iff_toNat_le]

theorem isSecond_iff {lead b : UInt8} : isSecond lead b = true ↔
    (if lead.toNat = 0xE0 then 0xA0 else if lead.toNat = 0xF0 then 0x90 else 0x80) ≤ b.toNat ∧
      b.toNat ≤ (if lead.toNat = 0xED then 0x9F else if lead.toNat = 0xF4 then 0x8F else 0xBF) := by
  simp only [isSecond, isContinuation, ← UInt8.toNat_inj, UInt8.le_iff_toNat_le, UInt8.toNat_ofNat]
  split_ifs <;> simp_all

theorem followers?_eq_some_iff {lead : UInt8} {n : Nat} : followers? lead = some n ↔
    (lead.toNat < 0x80 ∧ n = 0) ∨ (0xC2 ≤ lead.toNat ∧ lead.toNat < 0xE0 ∧ n = 1) ∨
      (0xE0 ≤ lead.toNat ∧ lead.toNat < 0xF0 ∧ n = 2) ∨
      (0xF0 ≤ lead.toNat ∧ lead.toNat < 0xF5 ∧ n = 3) := by
  simp only [followers?, UInt8.lt_iff_toNat_lt, UInt8.toNat_ofNat]
  split_ifs <;> simp <;> omega

theorem piece_append {lead : UInt8} {more rest : Bytes} {c : Char}
    (hlead : followers? lead = some more.length)
    (hmore : continued lead more.length (more ++ rest) = more)
    (hvalue : value lead more = c.val.toNat) :
    piece lead (more ++ rest) = (.char c, more.length) := by
  have hc : Char.ofNat (value lead more) = c := by rw [hvalue]; exact Char.ofNat_toNat c
  simpa [piece, hlead, hmore, value] using hc

theorem value_one (lead : UInt8) : value lead [] = lead.toNat := rfl

theorem value_two (lead b : UInt8) :
    value lead [b] = (lead.toNat - 0xC0) * 64 + (b.toNat - 0x80) := rfl

theorem value_three (lead b b' : UInt8) : value lead [b, b'] =
    ((lead.toNat - 0xE0) * 64 + (b.toNat - 0x80)) * 64 + (b'.toNat - 0x80) := rfl

theorem value_four (lead b b' b'' : UInt8) : value lead [b, b', b''] =
    (((lead.toNat - 0xF0) * 64 + (b.toNat - 0x80)) * 64 + (b'.toNat - 0x80)) * 64 +
      (b''.toNat - 0x80) := rfl

/-- The values of two bytes, of three and of four follow one another. The second byte is limited
    where another lead byte would reach a value that fewer bytes give, or that is no character. -/
theorem value_two_bounds {lead b : UInt8} (hlead : 0xC2 ≤ lead.toNat ∧ lead.toNat < 0xE0)
    (hb : isSecond lead b = true) : 0x80 ≤ value lead [b] ∧ value lead [b] ≤ 0x7FF := by
  have hb := isSecond_iff.1 hb
  rw [value_two]
  split_ifs at hb <;> omega

theorem value_three_bounds {lead b b' : UInt8} (hlead : 0xE0 ≤ lead.toNat ∧ lead.toNat < 0xF0)
    (hb : isSecond lead b = true) (hb' : isContinuation b' = true) :
    0x800 ≤ value lead [b, b'] ∧ value lead [b, b'] ≤ 0xFFFF ∧
      (value lead [b, b']).isValidChar := by
  have hb := isSecond_iff.1 hb
  have hb' := isContinuation_iff.1 hb'
  rw [value_three, Nat.isValidChar]
  split_ifs at hb <;> omega

theorem value_four_bounds {lead b b' b'' : UInt8}
    (hlead : 0xF0 ≤ lead.toNat ∧ lead.toNat < 0xF5) (hb : isSecond lead b = true)
    (hb' : isContinuation b' = true) (hb'' : isContinuation b'' = true) :
    0xFFFF < value lead [b, b', b''] ∧ value lead [b, b', b''] < 0x110000 := by
  have hb := isSecond_iff.1 hb
  have hb' := isContinuation_iff.1 hb'
  have hb'' := isContinuation_iff.1 hb''
  rw [value_four]
  split_ifs at hb <;> omega

theorem isContinuation_of_isSecond {lead b : UInt8} (h : isSecond lead b = true) :
    0x80 ≤ b.toNat ∧ b.toNat ≤ 0xBF := by
  have h := isSecond_iff.1 h
  split_ifs at h <;> omega

/-- **The bytes of a character read back as it**, whatever follows. -/
theorem piece_encode (c : Char) : ∃ lead more, String.utf8EncodeChar c = lead :: more ∧
    ∀ rest, piece lead (more ++ rest) = (.char c, more.length) := by
  have hvalid : c.val.toNat < 0xD800 ∨ (0xDFFF < c.val.toNat ∧ c.val.toNat < 0x110000) := c.valid
  simp only [String.utf8EncodeChar]
  split_ifs with h₁ h₂ h₃
  · refine ⟨_, _, rfl, fun rest => piece_append (followers?_eq_some_iff.2 (.inl ⟨?_, rfl⟩))
      (by simp [continued]) ?_⟩
    · simp only [UInt8.toNat_ofNat']; omega
    · simp only [value_one, UInt8.toNat_ofNat']; omega
  · refine ⟨_, _, rfl, fun rest => piece_append (followers?_eq_some_iff.2 (.inr (.inl ⟨?_, ?_, rfl⟩)))
      (continued_append (isSecond_iff.2 ?_) (by simp) rest) ?_⟩
    · simp only [UInt8.toNat_ofNat']; omega
    · simp only [UInt8.toNat_ofNat']; omega
    · simp only [UInt8.toNat_ofNat']; split_ifs <;> omega
    · simp only [value_two, UInt8.toNat_ofNat']; omega
  · refine ⟨_, _, rfl, fun rest => piece_append
      (followers?_eq_some_iff.2 (.inr (.inr (.inl ⟨?_, ?_, rfl⟩))))
      (continued_append (isSecond_iff.2 ?_) (fun x hx => isContinuation_iff.2 ?_) rest) ?_⟩
    · simp only [UInt8.toNat_ofNat']; omega
    · simp only [UInt8.toNat_ofNat']; omega
    · simp only [UInt8.toNat_ofNat']; split_ifs <;> omega
    · rw [List.mem_singleton.1 hx, UInt8.toNat_ofNat']; omega
    · simp only [value_three, UInt8.toNat_ofNat']; omega
  · refine ⟨_, _, rfl, fun rest => piece_append
      (followers?_eq_some_iff.2 (.inr (.inr (.inr ⟨?_, ?_, rfl⟩))))
      (continued_append (isSecond_iff.2 ?_) (fun x hx => isContinuation_iff.2 ?_) rest) ?_⟩
    · simp only [UInt8.toNat_ofNat']; omega
    · simp only [UInt8.toNat_ofNat']; omega
    · simp only [UInt8.toNat_ofNat']; split_ifs <;> omega
    · rcases List.mem_pair.1 hx with rfl | rfl <;> rw [UInt8.toNat_ofNat'] <;> omega
    · simp only [value_four, UInt8.toNat_ofNat']; omega

/-- What `piece` gives as a character, it gives by its lead and what continues it. -/
theorem of_piece {lead : UInt8} {rest : Bytes} {c : Char} {n : Nat}
    (h : piece lead rest = (.char c, n)) : followers? lead = some n ∧
      (continued lead n rest).length = n ∧ c = Char.ofNat (value lead (continued lead n rest)) := by
  unfold piece at h
  split at h
  · simp at h
  · rename_i m hm
    simp only at h
    split at h
    · rename_i hlen
      simp only [Prod.mk.injEq, Piece.char.injEq] at h
      obtain ⟨rfl, rfl⟩ := h
      exact ⟨hm, hlen, by rw [value, hlen]⟩
    · simp at h

theorem toNat_ofNat {v : Nat} (h : v.isValidChar) : (Char.ofNat v).val.toNat = v := by
  rw [Char.ofNat, dif_pos h]
  rfl

theorem encode_ofNat {v : Nat} (h : v.isValidChar) : String.utf8EncodeChar (Char.ofNat v) =
    if v ≤ 0x7F then [UInt8.ofNat v]
    else if v ≤ 0x7FF then [UInt8.ofNat (v / 64 % 32 + 0xC0), UInt8.ofNat (v % 64 + 0x80)]
    else if v ≤ 0xFFFF then
      [UInt8.ofNat (v / 4096 % 16 + 0xE0), UInt8.ofNat (v / 64 % 64 + 0x80),
        UInt8.ofNat (v % 64 + 0x80)]
    else
      [UInt8.ofNat (v / 262144 % 8 + 0xF0), UInt8.ofNat (v / 4096 % 64 + 0x80),
        UInt8.ofNat (v / 64 % 64 + 0x80), UInt8.ofNat (v % 64 + 0x80)] := by
  simp only [String.utf8EncodeChar, toNat_ofNat h]

/-- **Bytes that read as a character are those that it is written with.** -/
theorem encode_of_piece {lead : UInt8} {rest : Bytes} {c : Char} {n : Nat}
    (h : piece lead rest = (.char c, n)) : String.utf8EncodeChar c = lead :: rest.take n := by
  obtain ⟨hlead, hlen, rfl⟩ := of_piece h
  rcases followers?_eq_some_iff.1 hlead with
    ⟨hl, rfl⟩ | ⟨hl, hl', rfl⟩ | ⟨hl, hl', rfl⟩ | ⟨hl, hl', rfl⟩
  · have hvalid : lead.toNat.isValidChar := .inl (by omega)
    rw [List.length_eq_zero_iff.1 hlen, value_one, encode_ofNat hvalid, if_pos (by omega),
      UInt8.ofNat_toNat, List.take_zero]
  · obtain ⟨b, more, htake, hmore, hb, hcont, heq⟩ := of_length_continued hlen
    obtain rfl := List.length_eq_zero_iff.1 hmore
    obtain ⟨hlow, hhigh⟩ := value_two_bounds ⟨hl, hl'⟩ hb
    have hb := isContinuation_of_isSecond hb
    rw [heq, htake, encode_ofNat (.inl (by omega)), if_neg (by omega), if_pos hhigh]
    simp only [List.cons.injEq, and_true, ← UInt8.toNat_inj, UInt8.toNat_ofNat', value_two]
    omega
  · obtain ⟨b, more, htake, hmore, hb, hcont, heq⟩ := of_length_continued hlen
    obtain ⟨b', rfl⟩ := List.length_eq_one_iff.1 hmore
    have hb' := hcont b' List.mem_cons_self
    obtain ⟨hlow, hhigh, hvalid⟩ := value_three_bounds ⟨hl, hl'⟩ hb hb'
    have hb := isContinuation_of_isSecond hb
    have hb' := isContinuation_iff.1 hb'
    rw [heq, htake, encode_ofNat hvalid, if_neg (by omega), if_neg (by omega), if_pos hhigh]
    simp only [List.cons.injEq, and_true, ← UInt8.toNat_inj, UInt8.toNat_ofNat', value_three]
    omega
  · obtain ⟨b, more, htake, hmore, hb, hcont, heq⟩ := of_length_continued hlen
    obtain ⟨b', b'', rfl⟩ := List.length_eq_two.1 hmore
    have hb' := hcont b' List.mem_cons_self
    have hb'' := hcont b'' (List.mem_cons_of_mem _ List.mem_cons_self)
    obtain ⟨hlow, hhigh⟩ := value_four_bounds ⟨hl, hl'⟩ hb hb' hb''
    have hb := isContinuation_of_isSecond hb
    have hb' := isContinuation_iff.1 hb'
    have hb'' := isContinuation_iff.1 hb''
    rw [heq, htake, encode_ofNat (.inr ⟨by omega, hhigh⟩), if_neg (by omega), if_neg (by omega),
      if_neg (by omega)]
    simp only [List.cons.injEq, and_true, ← UInt8.toNat_inj, UInt8.toNat_ofNat', value_four]
    omega

/-! ## 2. Texts -/

theorem piecesOnto_cons (seen : List Piece) (b : UInt8) (rest : Bytes) :
    piecesOnto seen (b :: rest) =
      piecesOnto ((piece b rest).1 :: seen) (rest.drop (piece b rest).2) := by
  rw [piecesOnto]

theorem length_drop_lt (b : UInt8) (rest : Bytes) (n : Nat) :
    (rest.drop n).length < (b :: rest).length := by
  rw [List.length_drop, List.length_cons]
  omega

theorem piecesOnto_eq (seen : List Piece) (bs : Bytes) :
    piecesOnto seen bs = seen.reverse ++ pieces bs := by
  induction hn : bs.length using Nat.strong_induction_on generalizing seen bs with
  | _ n ih =>
    subst hn
    cases bs with
    | nil => simp [pieces, piecesOnto]
    | cons b rest =>
      have hrest := fun seen => ih _ (length_drop_lt b rest (piece b rest).2) seen _ rfl
      rw [pieces, piecesOnto_cons, piecesOnto_cons, hrest, hrest]
      simp

theorem pieces_nil : pieces [] = [] := by
  rw [pieces, piecesOnto, List.reverse_nil]

theorem pieces_cons (b : UInt8) (rest : Bytes) :
    pieces (b :: rest) = (piece b rest).1 :: pieces (rest.drop (piece b rest).2) := by
  rw [pieces, piecesOnto_cons, piecesOnto_eq]
  rfl

theorem mapM_char?_eq_some_iff {ps : List Piece} {cs : List Char} :
    ps.mapM Piece.char? = some cs ↔ ps = cs.map .char := by
  constructor
  · intro h
    induction ps generalizing cs with
    | nil =>
      obtain rfl : [] = cs := by simpa using h
      rfl
    | cons p ps ih =>
      simp only [List.mapM_cons, Option.bind_eq_bind, Option.bind_eq_some_iff, Option.pure_def,
        Option.some.injEq] at h
      obtain ⟨c, hc, cs', hcs', rfl⟩ := h
      cases p with
      | broken _ => cases hc
      | char _ =>
        cases hc
        rw [ih hcs', List.map_cons]
  · rintro rfl
    induction cs with
    | nil => rfl
    | cons c cs ih => simp [ih, Piece.char?]

/-- **What a text writes reads, piece by piece, as its characters.** -/
theorem pieces_bytes (s : String) : pieces (bytes s) = s.toList.map .char := by
  unfold bytes
  induction s.toList with
  | nil => exact pieces_nil
  | cons c cs ih =>
    obtain ⟨lead, more, hc, hpiece⟩ := piece_encode c
    rw [List.flatMap_cons, hc, List.cons_append, pieces_cons, hpiece, List.drop_left, ih]
    rfl

theorem eq_bytes_of_pieces {bs : Bytes} {cs : List Char} (h : pieces bs = cs.map .char) :
    bs = cs.flatMap String.utf8EncodeChar := by
  induction hn : bs.length using Nat.strong_induction_on generalizing bs cs with
  | _ n ih =>
    subst hn
    cases bs with
    | nil =>
      obtain rfl : cs = [] := by simpa [pieces_nil] using h.symm
      rfl
    | cons b rest =>
      cases cs with
      | nil => simp [pieces_cons] at h
      | cons c cs =>
        rw [pieces_cons, List.map_cons, List.cons.injEq] at h
        have hc := encode_of_piece (Prod.ext h.1 rfl)
        have hrest := ih _ (length_drop_lt b rest (piece b rest).2) h.2 rfl
        rw [List.flatMap_cons, hc, ← hrest, List.cons_append, List.take_append_drop]

/-- **Bytes are a text exactly if the text writes them.** -/
theorem decode?_eq_some_iff {bs : Bytes} {s : String} : decode? bs = some s ↔ bs = bytes s := by
  constructor
  · intro h
    obtain ⟨cs, hcs, rfl⟩ := Option.map_eq_some_iff.1 h
    rw [bytes, String.toList_ofList]
    exact eq_bytes_of_pieces (mapM_char?_eq_some_iff.1 hcs)
  · rintro rfl
    rw [decode?, mapM_char?_eq_some_iff.2 (pieces_bytes s), Option.map_some, String.ofList_toList]

/-- **A text is shown as it is.** -/
theorem lossy_bytes (s : String) : lossy (bytes s) = s := by
  rw [lossy, pieces_bytes, List.map_map]
  exact (congrArg String.ofList (List.map_id _)).trans String.ofList_toList

end TemplatePress.Text.Utf8
