import TemplatePress.Machine.Utility.Basic
import TemplatePress.Text.Latin

/-!
# Printing

`echo` prints its arguments, `printf` prints them by a format. This file fixes:

* escapes: a backslash and a letter, or a backslash and up to three octal digits, stand for a byte;
* a format is text and places for values, with a width and a precision; it is used again as long as
  arguments are left, and a missing argument is empty;
* a value that should be a number and is none counts as zero and is an error.
-/

namespace TemplatePress.Machine.Utility

open Text.Utf8 (bytes)

namespace Printing

/-! ## 1. Escapes -/

/-- The bytes that single letters stand for behind a backslash. -/
def letterEscapes : List (Char × Char) :=
  [('a', '\x07'), ('b', '\x08'), ('f', '\x0c'), ('n', '\n'), ('r', '\r'), ('t', '\t'), ('v', '\x0b'),
    ('\\', '\\')]

def isOctal (c : Char) : Bool :=
  '0' ≤ c && c ≤ '7'

/-- The byte that octal digits stand for. -/
def octalValue (ds : List Char) : Char :=
  Char.ofNat ((ds.foldl (fun v d => v * 8 + (d.toNat - '0'.toNat)) 0) % 256)

/-- Replaces escapes. In a text, as opposed to a format, a zero may stand before three octal digits,
    and `\c` ends all printing: the flag says whether it was met. -/
def unescape (inText : Bool) (cs : List Char) : List Char × Bool :=
  match cs with
  | [] => ([], false)
  | '\\' :: [] => (['\\'], false)
  | '\\' :: c :: rest =>
    if inText && c == 'c' then ([], true)
    else
      match letterEscapes.lookup c with
      | some x => let (out, stop) := unescape inText rest; (x :: out, stop)
      | none =>
        if isOctal c then
          let digits := (rest.take (if inText && c == '0' then 3 else 2)).takeWhile isOctal
          let (out, stop) := unescape inText (rest.drop digits.length)
          (octalValue (c :: digits) :: out, stop)
        else let (out, stop) := unescape inText rest; ('\\' :: c :: out, stop)
  | c :: rest => let (out, stop) := unescape inText rest; (c :: out, stop)
  termination_by cs.length
  decreasing_by all_goals (simp only [List.length_drop, List.length_cons]; omega)

/-! ## 2. Formats -/

/-- A part of a format. -/
inductive Directive where
  | text (cs : List Char)
  /-- A place for a value: whether it stands left in its width, whether zeros fill the width, the
      width, the precision, and the letter that says how it is shown. -/
  | value (left zeros : Bool) (width : Nat) (precision : Option Nat) (kind : Char)

def number (ds : List Char) : Nat :=
  ds.foldl (fun v d => v * 10 + (d.toNat - '0'.toNat)) 0

/-- The place that is described behind a percent sign, and what follows it. -/
def readValue (cs : List Char) : Option (Directive × List Char) :=
  let isFlag := fun c : Char => "-0+ #".toList.contains c
  let flags := cs.takeWhile isFlag
  let cs := cs.drop flags.length
  let width := cs.takeWhile Char.isDigit
  let cs := cs.drop width.length
  let (precision, cs) := match cs with
    | '.' :: more =>
      let ds := more.takeWhile Char.isDigit
      (some (number ds), more.drop ds.length)
    | _ => (none, cs)
  match cs with
  | [] => none
  | kind :: rest =>
    some (.value (flags.contains '-') (flags.contains '0') (number width) precision kind, rest)

theorem length_readValue {cs : List Char} {d : Directive} {rest : List Char}
    (h : readValue cs = some (d, rest)) : rest.length < cs.length := by
  simp only [readValue] at h
  split at h
  · simp at h
  · rename_i kind more hcs
    simp only [Option.some.injEq, Prod.mk.injEq] at h
    obtain ⟨_, rfl⟩ := h
    have hlen := congrArg List.length hcs
    split at hlen
    · rename_i more' hm
      have hlen' := congrArg List.length hm
      simp only [List.length_drop, List.length_cons] at hlen hlen'
      omega
    · simp only [List.length_drop, List.length_cons] at hlen
      omega

/-- Reads a format. A percent sign that describes nothing stands for itself, as do two. -/
def readFormat (cs : List Char) : List Directive :=
  match cs with
  | [] => []
  | '%' :: '%' :: rest => .text ['%'] :: readFormat rest
  | '%' :: rest =>
    match _hd : readValue rest with
    | some (d, more) => d :: readFormat more
    | none => [.text ('%' :: rest)]
  | c :: rest =>
    let plain := rest.takeWhile (· != '%')
    .text (unescape false (c :: plain)).1 :: readFormat (rest.drop plain.length)
  termination_by cs.length
  decreasing_by
    · simp only [List.length_cons]; omega
    · have := length_readValue _hd
      simp only [List.length_cons]; omega
    · simp only [List.length_drop, List.length_cons]; omega

/-! ## 3. Values -/

def digitValue? (base : Nat) (c : Char) : Option Nat :=
  let v := if c.isDigit then c.toNat - '0'.toNat
    else if 'a' ≤ c && c ≤ 'f' then c.toNat - 'a'.toNat + 10
    else if 'A' ≤ c && c ≤ 'F' then c.toNat - 'A'.toNat + 10
    else base
  if v < base then some v else none

/-- A number without a sign, in base ten, eight behind a zero, or sixteen behind `0x`. -/
def readNatural (cs : List Char) : Option Nat :=
  let read := fun base ds => (ds.mapM (digitValue? base)).map (·.foldl (fun v d => v * base + d) 0)
  match cs with
  | [] => none
  | '0' :: 'x' :: ds => if ds.isEmpty then none else read 16 ds
  | '0' :: 'X' :: ds => if ds.isEmpty then none else read 16 ds
  | '0' :: ds => read 8 ds
  | ds => read 10 ds

/-- A number; none if the argument is none. A missing argument is zero. -/
def readInteger (cs : List Char) : Option Int :=
  match cs with
  | [] => some 0
  | '-' :: ds => (readNatural ds).map fun n => -n
  | '+' :: ds => (readNatural ds).map fun n => n
  | '"' :: c :: _ => some c.toNat
  | '\'' :: c :: _ => some c.toNat
  | ds => (readNatural ds).map fun n => n

/-- Fills a text up to a width. -/
def pad (left zeros : Bool) (width : Nat) (cs : List Char) : List Char :=
  let missing := width - cs.length
  if left then cs ++ List.replicate missing ' '
  else if zeros then
    match cs with
    | '-' :: ds => '-' :: (List.replicate missing '0' ++ ds)
    | ds => List.replicate missing '0' ++ ds
  else List.replicate missing ' ' ++ cs

/-- What has been printed by a format, what is wrong, and whether printing goes on. -/
structure Printed where
  out : List Char := []
  /-- The values that should be numbers and are none. -/
  noNumbers : List (List Char) := []
  /-- The letter that says nothing about how a value is shown. -/
  noKind : Option Char := none
  stopped : Bool := false

def Printed.isFine (p : Printed) : Bool :=
  p.noNumbers.isEmpty && p.noKind.isNone

/-- A number as it is shown by a letter; a negative one in the bases eight and sixteen as its
    complement in 64 bits. -/
def showNumber (kind : Char) (n : Int) : List Char :=
  let unsigned := (n % Nat.pow 2 64).toNat
  if kind == 'd' || kind == 'i' then (toString n).toList
  else if kind == 'u' then (toString unsigned).toList
  else if kind == 'o' then Nat.toDigits 8 unsigned
  else if kind == 'X' then (Nat.toDigits 16 unsigned).map Char.toUpper
  else Nat.toDigits 16 unsigned

/-- Prints one value. -/
def printValue (left zeros : Bool) (width : Nat) (precision : Option Nat) (kind : Char)
    (argument : List Char) (p : Printed) : Printed :=
  let cut := fun (cs : List Char) => match precision with
    | some n => cs.take n
    | none => cs
  if kind == 's' then { p with out := p.out ++ pad left false width (cut argument) }
  else if kind == 'c' then { p with out := p.out ++ pad left false width (argument.take 1) }
  else if kind == 'b' then
    let (out, stopped) := unescape true argument
    { p with out := p.out ++ pad left false width (cut out), stopped }
  else if "diuoxX".toList.contains kind then
    match readInteger argument with
    | some n => { p with out := p.out ++ pad left zeros width (showNumber kind n) }
    | none =>
      { p with
        out := p.out ++ pad left zeros width (showNumber kind 0),
        noNumbers := p.noNumbers ++ [argument] }
  else
    { p with noKind := some kind, stopped := true }

/-- Prints by the parts of a format and leaves the arguments that were not used. -/
def printOnce : List Directive → List (List Char) → Printed → Printed × List (List Char)
  | [], arguments, p => (p, arguments)
  | .text cs :: rest, arguments, p =>
    if p.stopped then (p, arguments) else printOnce rest arguments { p with out := p.out ++ cs }
  | .value left zeros width precision kind :: rest, arguments, p =>
    if p.stopped then (p, arguments)
    else
      printOnce rest arguments.tail
        (printValue left zeros width precision kind (arguments.headD []) p)

/-- Prints by a format as often as there are arguments, at most `rounds` times more. -/
def printAll (format : List Directive) : (rounds : Nat) → List (List Char) → Printed → Printed
  | 0, _, p => p
  | rounds + 1, arguments, p =>
    let (p', left) := printOnce format arguments p
    if p'.stopped || left.isEmpty || left.length = arguments.length then p'
    else printAll format rounds left p'

/-- What `printf` prints. -/
def formatted (format : Bytes) (arguments : List Bytes) : Printed :=
  printAll (readFormat (Text.Latin.chars format)) (arguments.length + 1)
    (arguments.map Text.Latin.chars) {}

/-- What `echo` prints: the arguments with blanks between them, and a line's end unless the first
    argument is `-n`. -/
def echoed (escapes : Bool) (arguments : List Bytes) : Bytes :=
  let (silent, arguments) := match arguments with
    | [0x2D, 0x6E] :: rest => (true, rest)
    | all => (false, all)
  let text := List.intercalate [0x20] arguments
  if escapes then
    let (out, stopped) := unescape true (Text.Latin.chars text)
    Text.Latin.bytes out ++ if silent || stopped then [] else [0x0A]
  else text ++ if silent then [] else [0x0A]

end Printing

/-- Prints its arguments by a format. -/
def printf : Utility := fun arguments s =>
  match arguments with
  | [] => refuses s "printf" (bytes "missing operand")
  | format :: rest =>
    let p := Printing.formatted format rest
    let said := p.noNumbers.flatMap (fun cs => line "printf"
        (Text.ShellQuoted.encode (Text.Latin.bytes cs) ++ bytes ": expected a numeric value")) ++
      p.noKind.elim [] fun c => line "printf"
        (bytes "%" ++ Text.Latin.bytes [c] ++ bytes ": invalid conversion specification")
    { s.ended (.exited (if p.isFine then 0 else 1)) with
      printed := .ofBytes (Text.Latin.bytes p.out), said := .ofBytes said }

/-- Prints its arguments. -/
def echo : Utility := fun arguments s =>
  prints s (.ofBytes (Printing.echoed false arguments))

/-- Prints its arguments, or `y`, for ever. -/
def yes : Utility := fun arguments s =>
  let text := if arguments.isEmpty then [0x79] else List.intercalate [0x20] arguments
  prints s ⟨[], text ++ [0x0A]⟩

end TemplatePress.Machine.Utility
