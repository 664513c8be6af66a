import TemplatePress.Text.Utf8

/-!
# Patterns

A pattern is a row of items: a byte that stands for itself, any byte, a byte out of a set, or any row
of bytes.
-/

namespace TemplatePress.Shell

/-- An item of a pattern. -/
inductive PatternItem where
  | exactly (b : UInt8)
  | anyByte
  | anyRow
  /-- A byte in, or outside of, some ranges. -/
  | oneOf (outside : Bool) (ranges : List (UInt8 × UInt8))
  deriving DecidableEq

/-- A row of items. -/
abbrev Pattern := List PatternItem

namespace Pattern

/-- Whether a byte is in one of the ranges. -/
def inRanges (ranges : List (UInt8 × UInt8)) (b : UInt8) : Bool :=
  ranges.any fun r => r.1 ≤ b && b ≤ r.2

/-- Whether bytes begin with one that passes a test, and go on as wanted. -/
def headThen (test : UInt8 → Bool) (next : Bytes → Bool) : Bytes → Bool
  | [] => false
  | b :: bs => test b && next bs

/-- Whether bytes end in a row that is as wanted. -/
def someEnd (wanted : Bytes → Bool) : Bytes → Bool
  | [] => wanted []
  | b :: bs => wanted (b :: bs) || someEnd wanted bs

/-- Whether bytes match a pattern. -/
def accepts : Pattern → Bytes → Bool
  | [], bs => bs.isEmpty
  | .exactly c :: rest, bs => headThen (· = c) (accepts rest) bs
  | .anyByte :: rest, bs => headThen (fun _ => true) (accepts rest) bs
  | .oneOf outside ranges :: rest, bs => headThen (inRanges ranges · != outside) (accepts rest) bs
  | .anyRow :: rest, bs => someEnd (accepts rest) bs

/-- The ranges up to a closing bracket, and what follows it. -/
def readRanges : List (UInt8 × Bool) →
    Option (List (UInt8 × UInt8) × List (UInt8 × Bool))
  | [] => none
  | (0x5D, false) :: rest => some ([], rest)
  | (a, _) :: (0x2D, false) :: (b, quoted) :: rest =>
    if b = 0x5D && !quoted then some ([(a, a), (0x2D, 0x2D)], rest)
    else (readRanges rest).map fun (rs, more) => ((a, b) :: rs, more)
  | (a, _) :: rest => (readRanges rest).map fun (rs, more) => ((a, a) :: rs, more)

theorem length_readRanges {bs : List (UInt8 × Bool)}
    {rs : List (UInt8 × UInt8)} {more : List (UInt8 × Bool)}
    (h : readRanges bs = some (rs, more)) : more.length < bs.length := by
  fun_induction readRanges bs generalizing rs more with
  | case1 => simp at h
  | case2 rest =>
    simp only [Option.some.injEq, Prod.mk.injEq] at h
    simp [← h.2]
  | case3 a _ b quoted rest _ =>
    simp only [Option.some.injEq, Prod.mk.injEq] at h
    simp only [List.length_cons, ← h.2]
    omega
  | case4 a _ b quoted rest _ _ ih =>
    obtain ⟨⟨rs', more'⟩, h', he⟩ := Option.map_eq_some_iff.1 h
    simp only [Prod.mk.injEq] at he
    have := ih h'
    simp only [List.length_cons, ← he.2]
    omega
  | case5 a _ rest _ _ ih =>
    obtain ⟨⟨rs', more'⟩, h', he⟩ := Option.map_eq_some_iff.1 h
    simp only [Prod.mk.injEq] at he
    have := ih h'
    simp only [List.length_cons, ← he.2]
    omega

/-- The ranges of a set; a closing bracket that comes first belongs to it. -/
def readSet : List (UInt8 × Bool) → Option (List (UInt8 × UInt8) × List (UInt8 × Bool))
  | (0x5D, false) :: rest => (readRanges rest).map fun (rs, more) => ((0x5D, 0x5D) :: rs, more)
  | bs => readRanges bs

theorem length_readSet {bs : List (UInt8 × Bool)}
    {rs : List (UInt8 × UInt8)} {more : List (UInt8 × Bool)}
    (h : readSet bs = some (rs, more)) : more.length < bs.length := by
  rw [readSet.eq_def] at h
  split at h
  · obtain ⟨⟨rs', more'⟩, h', he⟩ := Option.map_eq_some_iff.1 h
    simp only [Prod.mk.injEq] at he
    have := length_readRanges h'
    simp only [List.length_cons, ← he.2]
    omega
  · exact length_readRanges h

/-- Reads a pattern from bytes that know whether they are quoted. A quoted byte stands for itself. -/
def ofBytes (bs : List (UInt8 × Bool)) : Pattern :=
  match bs with
  | [] => []
  | (b, true) :: rest => .exactly b :: ofBytes rest
  | (0x2A, false) :: rest => .anyRow :: ofBytes rest
  | (0x3F, false) :: rest => .anyByte :: ofBytes rest
  | (0x5B, false) :: rest =>
    let outside := match rest with
      | (b, false) :: _ => b = 0x21 || b = 0x5E
      | _ => false
    match _h : readSet (rest.drop (if outside then 1 else 0)) with
    | some (ranges, more) => .oneOf outside ranges :: ofBytes more
    | none => .exactly 0x5B :: ofBytes rest
  | (b, false) :: rest => .exactly b :: ofBytes rest
  termination_by bs.length
  decreasing_by
    all_goals try (simp only [List.length_cons]; omega)
    have := length_readSet _h
    simp only [List.length_drop, List.length_cons] at this ⊢
    omega

end Pattern

end TemplatePress.Shell
