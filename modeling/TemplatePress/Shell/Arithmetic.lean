import TemplatePress.Environment
import TemplatePress.Number.Digits
import TemplatePress.Text.Latin

/-!
# Arithmetic

The value of an expression over whole numbers of 64 bits. This file fixes:

* a number is decimal, octal behind a zero, or in base sixteen behind `0x`; a variable that is empty
  or not set is zero;
* a part that the value does not depend on is read, but neither changes variables nor fails;
* dividing by zero is an error.
-/

namespace TemplatePress.Shell.Arithmetic

/-- A part of an expression. -/
inductive Token where
  | number (n : Int)
  | name (s : String)
  | operator (s : String)
  deriving DecidableEq

/-! ## 1. Tokens -/

/-- The operators, those before others that they begin with. -/
def operators : List String :=
  ["<<=", ">>=", "<<", ">>", "<=", ">=", "==", "!=", "&&", "||", "+=", "-=", "*=", "/=", "%=", "&=",
    "|=", "^=", "+", "-", "*", "/", "%", "<", ">", "&", "|", "^", "!", "~", "(", ")", "?", ":", "="]

/-- The largest number. -/
def largest : Nat := Nat.pow 2 63 - 1

/-- The number that digits in a base give; one that is too large is the largest. -/
def digitsValue (base : Nat) (cs : List Char) : Int :=
  (min (cs.foldl (fun v c => v * base + (Number.digit? base c).getD 0) 0) largest : Nat)

/-- The digits in a base at the beginning. -/
def digits (base : Nat) (cs : List Char) : List Char :=
  cs.takeWhile fun c => (Number.digit? base c).isSome

/-- The number at the beginning, which is a digit, and how long it is. -/
def leadingNumber (cs : List Char) : Int × Nat :=
  match cs with
  | '0' :: x :: rest =>
    let hex := digits 16 rest
    let octal := digits 8 (x :: rest)
    if (x == 'x' || x == 'X') && !hex.isEmpty then (digitsValue 16 hex, hex.length + 2)
    else (digitsValue 8 octal, octal.length + 1)
  | _ => (digitsValue 10 (digits 10 cs), (digits 10 cs).length)

/-- The number that a text is, which may have a sign. -/
def number? (cs : List Char) : Option Int :=
  let unsigned := match cs with
    | '+' :: rest => rest
    | '-' :: rest => rest
    | _ => cs
  let (n, length) := leadingNumber unsigned
  if length = 0 || length != unsigned.length then none
  else some (if cs.head? == some '-' then -n else n)

def isBlank (c : Char) : Bool :=
  c == ' ' || c == '\t' || c == '\n'

def startsName (c : Char) : Bool :=
  c.isAlpha || c == '_'

def continuesName (c : Char) : Bool :=
  c.isAlphanum || c == '_'

/-- The parts of an expression; what is none stands for itself. Each part takes a character, so as
    many rounds as there are characters are enough. -/
def tokens : (rounds : Nat) → List Char → List Token
  | 0, _ => []
  | _, [] => []
  | rounds + 1, c :: rest =>
    let cs := c :: rest
    if isBlank c then tokens rounds rest
    else if startsName c then
      let name := cs.takeWhile continuesName
      .name (String.ofList name) :: tokens rounds (cs.drop name.length)
    else if c.isDigit then
      let (n, length) := leadingNumber cs
      .number n :: tokens rounds (cs.drop length)
    else
      let o := (operators.find? fun o => o.toList.isPrefixOf cs).getD c.toString
      .operator o :: tokens rounds (cs.drop o.length)

/-! ## 2. Operators -/

/-- A number within 64 bits. -/
def wrap (n : Int) : Int :=
  n.bmod (Nat.pow 2 64)

/-- The bits of a number. -/
def bits (n : Int) : Nat :=
  (n % Nat.pow 2 64).toNat

/-- By how much a number shifts. -/
def distance (n : Int) : Nat :=
  (n % 64).toNat

def truth (b : Bool) : Int :=
  if b then 1 else 0

/-- The value of an operation; `none` for a division by zero. -/
def apply (operator : String) (a b : Int) : Option Int :=
  match operator with
  | "+" => some (wrap (a + b))
  | "-" => some (wrap (a - b))
  | "*" => some (wrap (a * b))
  | "/" => if b = 0 then none else some (wrap (a.tdiv b))
  | "%" => if b = 0 then none else some (a.tmod b)
  | "<<" => some (wrap (a * Nat.pow 2 (distance b)))
  | ">>" => some (a >>> distance b)
  | "<" => some (truth (a < b))
  | ">" => some (truth (b < a))
  | "<=" => some (truth (a ≤ b))
  | ">=" => some (truth (b ≤ a))
  | "==" => some (truth (a == b))
  | "!=" => some (truth (a != b))
  | "&" => some (wrap (bits a &&& bits b : Nat))
  | "|" => some (wrap (bits a ||| bits b : Nat))
  | "^" => some (wrap (bits a ^^^ bits b : Nat))
  | _ => some b

/-- How tightly an operator between two values binds, least first. -/
def strength? (operator : String) : Option Nat :=
  ([["||"], ["&&"], ["|"], ["^"], ["&"], ["==", "!="], ["<", ">", "<=", ">="], ["<<", ">>"],
    ["+", "-"], ["*", "/", "%"]].findIdx? fun os => os.contains operator)

/-- The operator that an assignment applies first; an equals sign alone applies none. -/
def assigned? (operator : String) : Option String :=
  if ["=", "<<=", ">>=", "+=", "-=", "*=", "/=", "%=", "&=", "|=", "^="].contains operator then
    some (String.ofList operator.toList.dropLast)
  else none

/-! ## 3. Values -/

/-- Why an expression has no value. -/
inductive Failure where
  /-- Something else should stand somewhere in it. -/
  | wanted (what : String)
  | divisionByZero
  /-- A variable whose value is no number. -/
  | badNumber (value : Bytes)

/-- What is left of an expression, and the variables. -/
structure State where
  rest : List Token
  bindings : Environment

/-- Computes a value. -/
abbrev Compute := EStateM Failure State

def next : Compute (Option Token) := return (← get).rest.head?

def skip : Compute Unit :=
  modify fun s => { s with rest := s.rest.drop 1 }

/-- Goes past an operator. -/
def expect (operator : String) : Compute Unit := do
  if (← next) = some (.operator operator) then skip else throw (.wanted ("'" ++ operator ++ "'"))

/-- The value of a variable. -/
def lookUp (live : Bool) (name : String) : Compute Int := do
  let value := ((← get).bindings.get? name).getD []
  if value.isEmpty || !live then return 0
  match number? (Text.Latin.chars value) with
  | some n => return n
  | none => throw (.badNumber value)

/-- Gives a variable a value. -/
def store (live : Bool) (name : String) (n : Int) : Compute Unit := do
  if live then
    modify fun s => { s with bindings := s.bindings.set name (Text.Utf8.bytes (toString n)) }

/-- Applies an operator. -/
def operate (live : Bool) (operator : String) (a b : Int) : Compute Int :=
  if !live then return 0
  else
    match apply operator a b with
    | some n => return n
    | none => throw .divisionByZero

mutual

/-- An assignment, or an expression without one. -/
def assignment : (depth : Nat) → (live : Bool) → Compute Int
  | 0, _ => throw (.wanted "primary")
  | depth + 1, live => do
    match (← get).rest with
    | .name name :: .operator o :: _ =>
      match assigned? o with
      | some o' => do
        skip
        skip
        let b ← assignment depth live
        let n ← if o'.isEmpty then pure b else do operate live o' (← lookUp live name) b
        store live name n
        return n
      | none => choice depth live
    | _ => choice depth live

/-- A choice between two values, or a value. -/
def choice : (depth : Nat) → (live : Bool) → Compute Int
  | 0, _ => throw (.wanted "primary")
  | depth + 1, live => do
    let test ← binary depth live 0
    if (← next) = some (.operator "?") then
      skip
      let yes ← assignment depth (live && test != 0)
      expect ":"
      let no ← choice depth (live && test == 0)
      return if test != 0 then yes else no
    else return test

/-- Operations that bind at least as tightly as wanted. -/
def binary : (depth : Nat) → (live : Bool) → (strength : Nat) → Compute Int
  | 0, _, _ => throw (.wanted "primary")
  | depth + 1, live, strength => do
    let a ← single depth live
    further depth live strength a

/-- The operations that follow a value. -/
def further : (depth : Nat) → (live : Bool) → (strength : Nat) → (left : Int) → Compute Int
  | 0, _, _, _ => throw (.wanted "primary")
  | depth + 1, live, strength, a => do
    match ← next with
    | some (.operator o) =>
      match strength? o with
      | some k =>
        if k < strength then return a
        else do
          skip
          if o = "||" then do
            let b ← binary depth (live && a == 0) (k + 1)
            further depth live strength (truth (a != 0 || b != 0))
          else if o = "&&" then do
            let b ← binary depth (live && a != 0) (k + 1)
            further depth live strength (truth (a != 0 && b != 0))
          else do
            let b ← binary depth live (k + 1)
            further depth live strength (← operate live o a b)
      | none => return a
    | _ => return a

/-- A value with the operators before it. -/
def single : (depth : Nat) → (live : Bool) → Compute Int
  | 0, _ => throw (.wanted "primary")
  | depth + 1, live => do
    match ← next with
    | some (.number n) =>
      skip
      return n
    | some (.name name) =>
      skip
      lookUp live name
    | some (.operator "(") =>
      skip
      let n ← assignment depth live
      expect ")"
      return n
    | some (.operator "-") =>
      skip
      return wrap (-(← single depth live))
    | some (.operator "+") =>
      skip
      single depth live
    | some (.operator "!") =>
      skip
      return truth ((← single depth live) == 0)
    | some (.operator "~") =>
      skip
      return -(← single depth live) - 1
    | _ => throw (.wanted "primary")

end

/-- What is said of an expression without a value. -/
def Failure.message (expression : Bytes) : Failure → Bytes
  | .wanted what =>
    Text.Utf8.bytes ("arithmetic expression: expecting " ++ what ++ ": \"") ++ expression ++ [0x22]
  | .divisionByZero =>
    Text.Utf8.bytes "arithmetic expression: division by zero: \"" ++ expression ++ [0x22]
  | .badNumber value => Text.Utf8.bytes "Illegal number: " ++ value

/-- The value of an expression, and the variables after it, or what is said of it. -/
def value (bindings : Environment) (expression : Bytes) : Except Bytes (Int × Environment) :=
  let cs := Text.Latin.chars expression
  let ts := tokens cs.length cs
  let act : Compute Int := do
    let n ← assignment (8 * (ts.length + 1)) true
    if (← next).isSome then throw (.wanted "EOF")
    return n
  match act { rest := ts, bindings } with
  | .ok n s => .ok (n, s.bindings)
  | .error e _ => .error (e.message expression)

end TemplatePress.Shell.Arithmetic
