import TemplatePress.Number.Double

/-!
# Likeness of words

How like two words are, from 0 to 1: characters match when they are equal and stand about as far into
their words, and a match counts for less when it is out of order. The sums and quotients are of double
precision. A word is suggested for another one when they are more than seven tenths alike.
-/

namespace TemplatePress.Text.Similarity

open Number (Double)

/-- The value of a double as a ratio. -/
def ratio (d : Double) : Double.Ratio :=
  (Double.Ratio.mk d.mantissa 1).scale d.exponent

/-- The quotient of two whole numbers. -/
def quotient (a b : Nat) : Double :=
  (Double.nearest ⟨a, b⟩).getD ⟨0, Double.minExponent⟩

/-- The sum of two doubles. -/
def add (a b : Double) : Double :=
  let r := ratio a
  let s := ratio b
  (Double.nearest ⟨r.num * s.den + s.num * r.den, r.den * s.den⟩).getD ⟨0, Double.minExponent⟩

/-- A third of a double. -/
def third (a : Double) : Double :=
  let r := ratio a
  (Double.nearest ⟨r.num, r.den * 3⟩).getD ⟨0, Double.minExponent⟩

/-- Whether a double is smaller than another. -/
def less (a b : Double) : Bool :=
  (ratio a).num * (ratio b).den < (ratio b).num * (ratio a).den

/-- How far from its place in one word a character may stand in the other. -/
def reach (a b : List Char) : Nat :=
  max a.length b.length / 2 - 1

/-- The first free place from `low` on and before `high` where a character stands. Places in `taken`
    are not free. -/
def freePlace (c : Char) (low high : Nat) (taken : List Nat) (place : Nat) :
    List Char → Option Nat
  | [] => none
  | x :: rest =>
    if high ≤ place then none
    else if low ≤ place && x == c && !taken.contains place then some place
    else freePlace c low high taken (place + 1) rest

/-- The matches of two words: which characters of the first match, and the places of their matches in
    the second. -/
def matching (b : List Char) (reach : Nat) :
    (index : Nat) → (word : List Char) → (matched : List Char) → (taken : List Nat) →
    List Char × List Nat
  | _, [], matched, taken => (matched.reverse, taken)
  | index, c :: rest, matched, taken =>
    match freePlace c (index - reach) (index + reach + 1) taken 0 b with
    | some place => matching b reach (index + 1) rest (c :: matched) (place :: taken)
    | none => matching b reach (index + 1) rest matched taken

/-- How like two words are. -/
def likeness (a b : List Char) : Double :=
  if a.isEmpty && b.isEmpty then quotient 1 1
  else if a.isEmpty || b.isEmpty then quotient 0 1
  else
    let (matched, taken) := matching b (reach a b) 0 a [] []
    let m := matched.length
    if m = 0 then quotient 0 1
    else
      let others := (taken.mergeSort (· ≤ ·)).filterMap fun i => b[i]?
      let crossed := ((matched.zip others).filter fun p => p.1 != p.2).length / 2
      third (add (add (quotient m a.length) (quotient m b.length)) (quotient (m - crossed) m))

/-- The words that are like enough to one, the most like last. -/
def suggestions (word : String) (words : List String) : List String :=
  let scored := words.map fun w => (likeness word.toList w.toList, w)
  let near := scored.filter fun s => less (quotient 7 10) s.1
  (near.mergeSort fun a b => !less b.1 a.1).map (·.2)

end TemplatePress.Text.Similarity
