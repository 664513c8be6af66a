import TemplatePress.Text.Printable
import TemplatePress.Text.Utf8

/-!
# Quoted text

Messages that quote a text or a path put it between double quotes and write with a backslash what
would end the quotation or not be seen: a quote, a backslash, the common controls, any other
character without a glyph of its own as `\u{…}`, and a byte that belongs to no character as `\x…`.
-/

namespace TemplatePress.Text.Quoted

/-- A number in lower-case base sixteen. -/
def hex (n : Nat) : String :=
  String.ofList (Nat.toDigits 16 n)

/-- How one character stands inside quotes. -/
def escape (c : Char) : String :=
  if c = '\x00' then "\\0"
  else if c = '\t' then "\\t"
  else if c = '\r' then "\\r"
  else if c = '\n' then "\\n"
  else if c = '\\' then "\\\\"
  else if c = '"' then "\\\""
  else if isShownAsItself c then c.toString
  else "\\u\x7b" ++ hex c.toNat ++ "\x7d"

/-- How a byte that belongs to no character stands inside quotes: two upper-case digits. -/
def escapeByte (b : UInt8) : String :=
  let digits := (Nat.toDigits 16 b.toNat).map Char.toUpper
  "\\x" ++ String.ofList (if digits.length < 2 then '0' :: digits else digits)

/-- A quoted text. -/
def text (s : String) : String :=
  "\"" ++ String.join (s.toList.map escape) ++ "\""

/-- Quoted bytes. -/
def bytes (bs : Bytes) : String :=
  "\"" ++ String.join ((Utf8.pieces bs).map fun
    | .char c => escape c
    | .broken part => String.join (part.map escapeByte)) ++ "\""

end TemplatePress.Text.Quoted
