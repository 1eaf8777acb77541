import ClientGen.Text.CharacterSet

/-!
# Blank characters

The characters that count as white space when the ends of a text are trimmed.  The set is wider
than the six characters that separate the words of a paragraph: it also holds the four
information separators, the next-line character and the spaces of other scripts.
-/

namespace ClientGen.Text

/-- The white space above ASCII. -/
def blanksBeyondAscii : CharacterSet := [
  (0x85, 0x85), (0xA0, 0xA0), (0x1680, 0x1680), (0x2000, 0x200A), (0x2028, 0x2029),
  (0x202F, 0x202F), (0x205F, 0x205F), (0x3000, 0x3000)]

/-- White space of any kind. -/
def isBlank (c : Char) : Bool :=
  if c.toNat < 128 then
    c == ' ' || (9 ≤ c.toNat && c.toNat ≤ 13) || (28 ≤ c.toNat && c.toNat ≤ 31)
  else blanksBeyondAscii.contains c

end ClientGen.Text
