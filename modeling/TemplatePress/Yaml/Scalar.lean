import TemplatePress.Number.Digits
import TemplatePress.Number.Double
import TemplatePress.Text.Quoted
import TemplatePress.Yaml.Token

/-!
# What a scalar means

A plain scalar without a tag is nothing, a truth value, a number or a text, by its form. Whole
numbers may be written in bases two, eight and sixteen. Digits after a leading zero are a text. A tag
decides for one of the meanings.
-/

namespace TemplatePress.Yaml

/-- The meaning of a scalar, or the kind of another node. -/
inductive Meaning where
  | unit
  | boolean (b : Bool)
  | integer (n : Int)
  | float (negative : Bool) (magnitude : Number.Double)
  | infinity (negative : Bool)
  | notANumber
  | text (s : String)
  | sequence
  | mapping
  deriving DecidableEq

namespace Meaning

/-- Whether a whole number takes more than 64 bits. -/
def isWide (n : Int) : Bool :=
  n < -(Nat.pow 2 63) || Nat.pow 2 64 ≤ n

/-- A whole number as messages show it. -/
def integerText (n : Int) : String :=
  let shown := "integer `" ++ toString n ++ "`"
  if isWide n then shown ++ (if n < 0 then " as i128" else " as u128") else shown

/-- A meaning as messages show it. -/
def shown : Meaning → String
  | .unit => "unit value"
  | .boolean b => "boolean `" ++ (if b then "true" else "false") ++ "`"
  | .integer n => integerText n
  | .float negative magnitude =>
    "floating point `" ++ (if negative then "-" else "") ++ magnitude.text ++ "`"
  | .infinity negative => "floating point `" ++ (if negative then "-" else "") ++ "inf`"
  | .notANumber => "floating point `NaN`"
  | .text s => "string " ++ Text.Quoted.text s
  | .sequence => "sequence"
  | .mapping => "map"

end Meaning

namespace Scalar

/-! ## 1. Forms -/

/-- Whether a text is a word for nothing. The empty text is none. -/
def isNull (s : String) : Bool :=
  s == "null" || s == "Null" || s == "NULL" || s == "~"

/-- The truth value that a text is a word for. -/
def boolean? (s : String) : Option Bool :=
  if s == "true" || s == "True" || s == "TRUE" then some true
  else if s == "false" || s == "False" || s == "FALSE" then some false
  else none

/-- A text without a sign at its beginning. -/
def withoutSign : List Char → List Char
  | '+' :: rest => rest
  | '-' :: rest => rest
  | cs => cs

/-- More than one digit with a leading zero. -/
def isZeroPadded (cs : List Char) : Bool :=
  match withoutSign cs with
  | '0' :: d :: rest => (d :: rest).all Char.isDigit
  | _ => false

/-- The number that digits give, with a mark of their base or in base ten. -/
def based? (limit : Nat) : List Char → Option Nat
  | '0' :: 'x' :: rest => (Number.readDigits 16 limit rest).toOption
  | '0' :: 'o' :: rest => (Number.readDigits 8 limit rest).toOption
  | '0' :: 'b' :: rest => (Number.readDigits 2 limit rest).toOption
  | cs => if isZeroPadded cs then none else (Number.readDigits 10 limit cs).toOption

/-- The whole number that a text gives, up to a limit; a plus sign may precede it. -/
def unsigned? (limit : Nat) : List Char → Option Nat
  | '+' :: rest => based? limit rest
  | cs => based? limit cs

/-- The whole number that a text with a minus sign gives, down to a limit. -/
def negative? (limit : Nat) : List Char → Option Int
  | '-' :: rest => (based? limit rest).map fun n => -(n : Int)
  | _ => none

/-- The whole number that a text gives, of at most 128 bits. -/
def integer? (s : String) : Option Int :=
  let cs := s.toList
  match unsigned? Number.max64 cs, negative? (Nat.pow 2 63) cs with
  | some n, _ => some n
  | none, some n => some n
  | none, none =>
    match unsigned? Number.max128 cs with
    | some n => some n
    | none => negative? (Nat.pow 2 127) cs

/-- The exponent behind the digits of a decimal number; none is zero. -/
def exponent? : List Char → Option Int
  | [] => some 0
  | e :: rest =>
    if e == 'e' || e == 'E' then
      let digits := withoutSign rest
      if digits.isEmpty || !digits.all Char.isDigit then none
      else
        let n : Int := digits.foldl (fun n c => n * 10 + (c.toNat - '0'.toNat)) 0
        some (if rest.head? == some '-' then -n else n)
    else none

/-- A decimal number: digits with a point among them or not, of which there is one at least, and an
    exponent. -/
def decimal? (cs : List Char) : Option Number.Double.Decimal :=
  let whole := cs.takeWhile Char.isDigit
  let rest := cs.drop whole.length
  let fraction := match rest with
    | '.' :: more => more.takeWhile Char.isDigit
    | _ => []
  let rest := match rest with
    | '.' :: more => more.drop fraction.length
    | _ => rest
  if whole.isEmpty && fraction.isEmpty then none
  else
    (exponent? rest).map fun e =>
      { digits := (whole ++ fraction).foldl (fun n c => n * 10 + (c.toNat - '0'.toNat)) 0,
        exponent := e - fraction.length }

/-- The finite number of double precision that a text gives. -/
def finite? (negative : Bool) (cs : List Char) : Option Meaning :=
  match decimal? cs with
  | none => none
  | some d => (Number.Double.ofDecimal d).map (Meaning.float negative)

/-- The number of double precision that a text gives. -/
def float? (s : String) : Option Meaning :=
  if [".inf", ".Inf", ".INF", "+.inf", "+.Inf", "+.INF"].contains s then some (.infinity false)
  else if ["-.inf", "-.Inf", "-.INF"].contains s then some (.infinity true)
  else if [".nan", ".NaN", ".NAN"].contains s then some .notANumber
  else
    match s.toList with
    | '+' :: rest => finite? false rest
    | '-' :: rest => finite? true rest
    | cs => finite? false cs

/-- The meaning of a plain scalar without a tag. -/
def plain (s : String) : Meaning :=
  if s.isEmpty || isNull s then .unit
  else
    match boolean? s, integer? s with
    | some b, _ => .boolean b
    | none, some n => .integer n
    | none, none =>
      if isZeroPadded s.toList then .text s else (float? s).getD (.text s)

/-! ## 2. Tags -/

/-- The tag of one of the meanings. -/
def coreTag (name : String) : Bytes :=
  Text.Utf8.bytes ("tag:yaml.org,2002:" ++ name)

/-- A text that a tag does not fit, and what the tag asks for. -/
structure Misfit where
  text : String
  wanted : String
  deriving DecidableEq

/-- Whether a tag belongs to an application. -/
def isLocal (tag : Bytes) : Bool :=
  tag.head? == some 0x21

/-- The meaning of a scalar. -/
def meaning (tag : Option Bytes) (s : String) (style : ScalarStyle) : Except Misfit Meaning :=
  let untagged := if style = .plain then plain s else .text s
  match tag with
  | none => .ok untagged
  | some tag =>
    if tag = coreTag "bool" then
      match boolean? s with
      | some b => .ok (.boolean b)
      | none => .error ⟨s, "a boolean"⟩
    else if tag = coreTag "int" then
      match integer? s with
      | some n => .ok (.integer n)
      | none => .error ⟨s, "an integer"⟩
    else if tag = coreTag "float" then
      match float? s with
      | some m => .ok m
      | none => .error ⟨s, "a float"⟩
    else if tag = coreTag "null" then
      if isNull s then .ok .unit else .error ⟨s, "null"⟩
    else if isLocal tag then .ok untagged
    else .ok (.text s)

/-- Whether a scalar may be read as a value of the type with a tag: a plain one, or a literal block
    with that tag. -/
def readsAs (name : String) (tag : Option Bytes) : ScalarStyle → Bool
  | .plain => true
  | .literal => tag = some (coreTag name)
  | _ => false

end Scalar

end TemplatePress.Yaml
