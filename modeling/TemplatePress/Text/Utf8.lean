/-!
# Bytes and text

File contents, paths and tool output are bytes; messages and settings are text. This file fixes how
the two meet:

* `bytes` writes a text as UTF-8;
* `pieces` reads bytes as a row of characters and broken runs, where a broken run is a maximal
  initial part of a character that the following byte does not continue, or one byte that begins no
  character;
* `decode?` accepts bytes without a broken run, and `lossy` shows each broken run as one
  replacement character.
-/

namespace TemplatePress

/-- A row of bytes: a path, a file's content, an argument or a stream. -/
abbrev Bytes := List UInt8

namespace Text.Utf8

/-! ## 1. Writing -/

/-- A text as UTF-8. -/
def bytes (s : String) : Bytes :=
  s.toList.flatMap String.utf8EncodeChar

/-! ## 2. Reading -/

/-- What stands at one place of a row of bytes. -/
inductive Piece where
  /-- A well-formed character. -/
  | char (c : Char)
  /-- A part that no character begins or completes. -/
  | broken (bytes : Bytes)
  deriving DecidableEq

/-- How many bytes follow a lead byte; none for a byte that leads no character. -/
def followers? (lead : UInt8) : Option Nat :=
  if lead < 0x80 then some 0
  else if lead < 0xC2 then none
  else if lead < 0xE0 then some 1
  else if lead < 0xF0 then some 2
  else if lead < 0xF5 then some 3
  else none

/-- A byte that continues a character. -/
def isContinuation (b : UInt8) : Bool :=
  0x80 ≤ b && b ≤ 0xBF

/-- The second byte excludes overlong forms, surrogates and values past the last character. -/
def isSecond (lead b : UInt8) : Bool :=
  if lead = 0xE0 then 0xA0 ≤ b && b ≤ 0xBF
  else if lead = 0xED then 0x80 ≤ b && b ≤ 0x9F
  else if lead = 0xF0 then 0x90 ≤ b && b ≤ 0xBF
  else if lead = 0xF4 then 0x80 ≤ b && b ≤ 0x8F
  else isContinuation b

/-- The bytes of `rest`, at most `n`, that continue the character begun by `lead`. -/
def continued (lead : UInt8) (n : Nat) (rest : Bytes) : Bytes :=
  match rest.take n with
  | [] => []
  | b :: more => if isSecond lead b then b :: more.takeWhile isContinuation else []

/-- The bits that a lead byte with `n` followers carries. -/
def leadBits (lead : UInt8) (n : Nat) : Nat :=
  match n with
  | 0 => lead.toNat
  | 1 => lead.toNat - 0xC0
  | 2 => lead.toNat - 0xE0
  | _ => lead.toNat - 0xF0

/-- The piece that begins with `lead`, and how many bytes of `rest` belong to it. -/
def piece (lead : UInt8) (rest : Bytes) : Piece × Nat :=
  match followers? lead with
  | none => (.broken [lead], 0)
  | some n =>
    let more := continued lead n rest
    if more.length = n then
      (.char (Char.ofNat (more.foldl (fun v b => v * 64 + (b.toNat - 0x80)) (leadBits lead n))), n)
    else (.broken (lead :: more), more.length)

/-- The pieces of a row of bytes after those already `seen`, which stand in reverse. -/
def piecesOnto (seen : List Piece) : Bytes → List Piece
  | [] => seen.reverse
  | b :: rest =>
    let (p, n) := piece b rest
    piecesOnto (p :: seen) (rest.drop n)
  termination_by bs => bs.length
  decreasing_by simp only [List.length_drop, List.length_cons]; omega

/-- The pieces of a row of bytes, in order. -/
def pieces (bs : Bytes) : List Piece :=
  piecesOnto [] bs

/-- The character a piece is, if it is one. -/
def Piece.char? : Piece → Option Char
  | .char c => some c
  | .broken _ => none

/-- The text of bytes that hold no broken run. -/
def decode? (bs : Bytes) : Option String :=
  ((pieces bs).mapM Piece.char?).map String.ofList

/-- The character that stands for a broken run. -/
def replacement : Char := '\ufffd'

/-- The text of any bytes, with one replacement character for each broken run. -/
def lossy (bs : Bytes) : String :=
  String.ofList ((pieces bs).map fun
    | .char c => c
    | .broken _ => replacement)

end Text.Utf8

end TemplatePress
