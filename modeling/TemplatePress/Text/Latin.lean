import TemplatePress.Text.Utf8

/-!
# Bytes as characters

Programs that read bytes one by one, such as a shell, see each byte as the character of its number.
Reading and writing in this way loses nothing.
-/

namespace TemplatePress.Text.Latin

/-- Bytes read as the characters of their numbers. -/
def chars (bs : Bytes) : List Char :=
  bs.map fun b => Char.ofNat b.toNat

/-- Characters written as the bytes of their numbers. -/
def bytes (cs : List Char) : Bytes :=
  cs.map fun c => UInt8.ofNat c.toNat

end TemplatePress.Text.Latin
