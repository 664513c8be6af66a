/-!
# Double precision

The numbers `m · 2 ^ q` with `m` of 53 bits at most and `q` from -1074 to 971, in exact arithmetic:

* `Double.nearest` rounds a ratio to the nearest of them, a tie to the even mantissa;
* `Double.shortest` gives the fewest decimal digits that round back, and of those the nearest;
* `Double.text` writes them out without an exponent.
-/

namespace TemplatePress.Number

/-- The magnitude of a double: mantissa and binary exponent. -/
structure Double where
  mantissa : Nat
  exponent : Int
  deriving DecidableEq

namespace Double

def minExponent : Int := -1074

def maxExponent : Int := 971

/-- A ratio of whole numbers. -/
structure Ratio where
  num : Nat
  den : Nat

/-- The ratio multiplied by a power of two. -/
def Ratio.scale (r : Ratio) (q : Int) : Ratio :=
  if 0 ≤ q then ⟨r.num * Nat.pow 2 q.toNat, r.den⟩ else ⟨r.num, r.den * Nat.pow 2 (-q).toNat⟩

/-- The whole number nearest to a ratio, a tie to the even one. -/
def Ratio.round (r : Ratio) : Nat :=
  let n := r.num / r.den
  let twice := 2 * (r.num % r.den)
  if r.den < twice || (twice == r.den && n % 2 == 1) then n + 1 else n

/-- The exponent at which the mantissa of a ratio has 53 bits. -/
def fullExponent (r : Ratio) : Int :=
  let guess : Int := (r.num.log2 : Int) - (r.den.log2 : Int) - 52
  let s := r.scale (-guess)
  if s.num < s.den * Nat.pow 2 52 then guess - 1 else guess

/-- The double nearest to a ratio; none if the ratio is too large. -/
def nearest (r : Ratio) : Option Double :=
  if r.num = 0 then some ⟨0, minExponent⟩
  else
    let q := max (fullExponent r) minExponent
    let m := (r.scale (-q)).round
    let (m, q) := if m = Nat.pow 2 53 then (Nat.pow 2 52, q + 1) else (m, q)
    if maxExponent < q then none else some ⟨m, q⟩

/-- A decimal number: digits and a power of ten. -/
structure Decimal where
  digits : Nat
  exponent : Int
  deriving DecidableEq

/-- The double nearest to a decimal number. Far out of range the power of ten is not computed: with
    `n` digits the number lies between `10 ^ e` and `10 ^ (e + n)`. -/
def ofDecimal (d : Decimal) : Option Double :=
  if d.digits = 0 then some ⟨0, minExponent⟩
  else
    let places : Int := (Nat.toDigits 10 d.digits).length
    if 400 < d.exponent + places then none
    else if d.exponent + places < -400 then some ⟨0, minExponent⟩
    else if 0 ≤ d.exponent then nearest ⟨d.digits * Nat.pow 10 d.exponent.toNat, 1⟩
    else nearest ⟨d.digits, Nat.pow 10 (-d.exponent).toNat⟩

/-- Ends of the interval of numbers that round to a double, and whether they belong to it. Both
    are in units of `2 ^ (q - 2)`. -/
structure Interval where
  low : Nat
  high : Nat
  closed : Bool

/-- The interval of numbers that round to a double. Below a power of two the neighbour is nearer. -/
def interval (d : Double) : Interval :=
  let m := 4 * d.mantissa
  let below := if d.mantissa = Nat.pow 2 52 && minExponent < d.exponent then 1 else 2
  ⟨m - below, m + 2, d.mantissa % 2 == 0⟩

/-- Whether a ratio, in units of `2 ^ (q - 2)`, lies in an interval. -/
def Interval.contains (i : Interval) (r : Ratio) : Bool :=
  let low := i.low * r.den
  let high := i.high * r.den
  if i.closed then low ≤ r.num && r.num ≤ high else low < r.num && r.num < high

/-- The value `n · 10 ^ e` in units of `2 ^ (q - 2)`. -/
def inUnits (d : Double) (n : Nat) (e : Int) : Ratio :=
  let r : Ratio := if 0 ≤ e then ⟨n * Nat.pow 10 e.toNat, 1⟩ else ⟨n, Nat.pow 10 (-e).toNat⟩
  r.scale (2 - d.exponent)

/-- The whole number of steps of `10 ^ e` below a double. -/
def stepsBelow (d : Double) (e : Int) : Nat :=
  let step := d.inUnits 1 e
  4 * d.mantissa * step.den / step.num

/-- The multiple of `10 ^ e` that rounds to a double; of two the nearer, and the upper one of two as
    near. -/
def onGrid (d : Double) (e : Int) : Option Decimal :=
  let n := d.stepsBelow e
  let below := d.inUnits n e
  let above := d.inUnits (n + 1) e
  let value := 4 * d.mantissa
  match d.interval.contains below, d.interval.contains above with
  | false, false => none
  | true, false => some ⟨n, e⟩
  | false, true => some ⟨n + 1, e⟩
  | true, true =>
    if above.num - value * above.den ≤ value * below.den - below.num then some ⟨n + 1, e⟩
    else some ⟨n, e⟩

/-- The first grid, from `10 ^ e` down, with a point that rounds to a double. -/
def searchGrid (d : Double) : (rounds : Nat) → Int → Decimal
  | 0, e => ⟨d.stepsBelow e, e⟩
  | rounds + 1, e => (d.onGrid e).getD (searchGrid d rounds (e - 1))

/-- The fewest decimal digits that round back to a double. Seventeen digits always do. -/
def shortest (d : Double) : Decimal :=
  let value := (Ratio.mk d.mantissa 1).scale d.exponent
  let places := (Nat.toDigits 10 (value.num / value.den)).length
  let top : Int := if value.num < value.den then 0 else places
  let small : Nat := (Nat.toDigits 10 (value.den / value.num)).length
  searchGrid d (small + 20) top

/-- A decimal number without an exponent, and without zeros at the end of a fraction. -/
def Decimal.text (d : Decimal) : String :=
  let digits := Nat.toDigits 10 d.digits
  if 0 ≤ d.exponent then
    String.ofList (digits ++ List.replicate d.exponent.toNat '0' ++ ['.', '0'])
  else
    let places := (-d.exponent).toNat
    let digits := List.replicate (places + 1 - digits.length) '0' ++ digits
    String.ofList (digits.take (digits.length - places) ++ '.' :: digits.drop (digits.length - places))

/-- A double with as many digits as tell it from all others. -/
def text (d : Double) : String :=
  if d.mantissa = 0 then "0.0" else d.shortest.text

end Double

end TemplatePress.Number
