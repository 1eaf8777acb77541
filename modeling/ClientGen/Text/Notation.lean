import ClientGen.Text.Class.Printable
import ClientGen.Text.Quoted

/-!
# Text shown in messages

A text as messages show it: between single quotes, or between double quotes if it holds a single
quote and no double one.  The backslash and the quote in use are escaped, and every character that
is not printable is shown by a short escape or by its number in two, four or eight hexadecimal
digits.  Main definition: `shown`.
-/

namespace ClientGen.Text

namespace Shown

/-- The quote in use around a text. -/
def mark (cs : List Char) : Char :=
  if cs.contains '\x27' && !cs.contains '"' then '"' else '\x27'

/-- A character between two marks. -/
def encodeChar (mark c : Char) : List Char :=
  if c = mark || c = '\\' then ['\\', c]
  else match c with
    | '\n' => ['\\', 'n']
    | '\r' => ['\\', 'r']
    | '\t' => ['\\', 't']
    | c =>
      if isPrintable c then [c]
      else if c.toNat < 0x100 then '\\' :: 'x' :: Quoted.hexDigits 2 c.toNat
      else if c.toNat < 0x10000 then '\\' :: 'u' :: Quoted.hexDigits 4 c.toNat
      else '\\' :: 'U' :: Quoted.hexDigits 8 c.toNat

/-- A text between its marks. -/
def encode (cs : List Char) : List Char :=
  let quote := mark cs
  quote :: cs.flatMap (encodeChar quote) ++ [quote]

end Shown

/-- A text as messages show it. -/
def shown (s : String) : String :=
  String.ofList (Shown.encode s.toList)

end ClientGen.Text
