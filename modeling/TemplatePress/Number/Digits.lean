/-!
# Numbers in text

Whole numbers written in a base, read digit by digit up to a limit. The first character that is no
digit, or the first digit that takes the value over the limit, ends the reading.
-/

namespace TemplatePress.Number

/-- Why a text is no number. -/
inductive DigitsError where
  | empty
  | badDigit
  | tooLarge
  deriving DecidableEq

def DigitsError.message : DigitsError → String
  | .empty => "cannot parse integer from empty string"
  | .badDigit => "invalid digit found in string"
  | .tooLarge => "number too large to fit in target type"

/-- The value of a character as a digit; letters stand for ten and more, in either case. -/
def digit? (base : Nat) (c : Char) : Option Nat :=
  let value :=
    if '0' ≤ c ∧ c ≤ '9' then c.toNat - '0'.toNat
    else if 'a' ≤ c ∧ c ≤ 'z' then c.toNat - 'a'.toNat + 10
    else if 'A' ≤ c ∧ c ≤ 'Z' then c.toNat - 'A'.toNat + 10
    else base
  if value < base then some value else none

/-- Reads on after digits with the value `n`. -/
def readOnto (base limit n : Nat) : List Char → Except DigitsError Nat
  | [] => .ok n
  | c :: rest =>
    match digit? base c with
    | none => .error .badDigit
    | some d =>
      if n * base + d ≤ limit then readOnto base limit (n * base + d) rest else .error .tooLarge

/-- Reads digits, of which there is one at least. -/
def readDigits (base limit : Nat) : List Char → Except DigitsError Nat
  | [] => .error .empty
  | c :: rest => readOnto base limit 0 (c :: rest)

/-- Reads digits that a plus sign may precede. A sign alone is no digit. -/
def readUnsigned (base limit : Nat) : List Char → Except DigitsError Nat
  | ['+'] => .error .badDigit
  | '+' :: rest => readDigits base limit rest
  | cs => readDigits base limit cs

/-- The largest number of 32 bits. -/
def max32 : Nat := Nat.pow 2 32 - 1

/-- The largest number of 64 bits. -/
def max64 : Nat := Nat.pow 2 64 - 1

/-- The largest number of 128 bits. -/
def max128 : Nat := Nat.pow 2 128 - 1

end TemplatePress.Number
