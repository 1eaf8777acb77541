/-!
# Quoted text

A text as a literal between double quotes, in the escapes that JSON and interpreted Go strings
share: a short escape for the quote, the backslash and five controls, and four hexadecimal digits
for every other control below the space.  `encode` keeps characters outside ASCII as they are;
`encodeAscii` writes them by number too, a character beyond the basic plane as a pair of
surrogates.
-/

namespace ClientGen.Text.Quoted

/-- The last `width` hexadecimal digits of a number. -/
def hexDigits : Nat → Nat → List Char
  | 0, _ => []
  | width + 1, n => hexDigits width (n / 16) ++ [Nat.digitChar (n % 16)]

/-- An escape by number. -/
def numbered (n : Nat) : List Char :=
  '\\' :: 'u' :: hexDigits 4 n

/-- The escape that has a letter or sign of its own. -/
def shortEscape? (c : Char) : Option Char :=
  match c with
  | '"' => some '"'
  | '\\' => some '\\'
  | '\n' => some 'n'
  | '\r' => some 'r'
  | '\t' => some 't'
  | '\x0c' => some 'f'
  | '\x08' => some 'b'
  | _ => none

/-- One character inside a literal. -/
def encodeChar (c : Char) : List Char :=
  match shortEscape? c with
  | some letter => ['\\', letter]
  | none => if c.toNat < 0x20 then numbered c.toNat else [c]

/-- One character inside a literal of ASCII characters only. -/
def encodeCharAscii (c : Char) : List Char :=
  match shortEscape? c with
  | some letter => ['\\', letter]
  | none =>
    if 0x20 ≤ c.toNat && c.toNat < 0x7f then [c]
    else if c.toNat < 0x10000 then numbered c.toNat
    else
      let offset := c.toNat - 0x10000
      numbered (0xd800 + offset / 0x400) ++ numbered (0xdc00 + offset % 0x400)

/-- The literal of a text. -/
def encode (cs : List Char) : List Char :=
  '"' :: cs.flatMap encodeChar ++ ['"']

/-- The literal of a text in ASCII characters only. -/
def encodeAscii (cs : List Char) : List Char :=
  '"' :: cs.flatMap encodeCharAscii ++ ['"']

end Quoted

/-- The literal of a text, characters outside ASCII kept. -/
def quote (s : String) : String :=
  String.ofList (Quoted.encode s.toList)

/-- The literal of a text in ASCII characters only. -/
def quoteAscii (s : String) : String :=
  String.ofList (Quoted.encodeAscii s.toList)

end ClientGen.Text
