import ClientGen.Text.Casing.Table

/-!
# Upper and lower case

The full case mappings of a text.  A letter may become several characters (`ß` has the upper-case
form `SS`), and one letter looks at its neighbours: a capital sigma that ends a word becomes the
final small sigma.  Main definitions: `toUpper` and `toLower`.
-/

namespace ClientGen.Text

open Casing

/-- The upper-case form of one character. -/
def upperForm (c : Char) : List Char :=
  if c.toNat < 128 then [c.toUpper]
  else match toUpperSpecial.lookup c.toNat with
    | some codes => codes.map Char.ofNat
    | none => [((toUpperShifts.findSome? (·.image? c.toNat)).map Char.ofNat).getD c]

/-- The lower-case form of one character on its own. -/
def lowerForm (c : Char) : List Char :=
  if c.toNat < 128 then [c.toLower]
  else if c == 'İ' then ['i', '\u0307']
  else [((toLowerShifts.findSome? (·.image? c.toNat)).map Char.ofNat).getD c]

/-- A character that is passed over when the neighbours of a sigma are sought. -/
def isCaseIgnorable (c : Char) : Bool :=
  if c.toNat < 128 then ['\x27', '.', ':', '^', '\x60'].contains c
  else ignorableBeyondAscii.contains c

/-- A character that has a case. -/
def isCased (c : Char) : Bool :=
  if c.toNat < 128 then c.isAlpha else casedBeyondAscii.contains c

/-- Whether the first character that is not passed over has a case. -/
def meetsCased (cs : List Char) : Bool :=
  (cs.dropWhile isCaseIgnorable).head?.any isCased

/-- Lower case of the rest of a text, given what stands before it, nearest character first.  A
sigma is final if a cased character precedes it and none follows. -/
def toLowerAfter (before : List Char) : List Char → List Char
  | [] => []
  | c :: rest =>
    let form :=
      if c == 'Σ' then
        if meetsCased before && !meetsCased rest then ['ς'] else ['σ']
      else lowerForm c
    form ++ toLowerAfter (c :: before) rest

/-- The lower-case form of a text. -/
def toLower (cs : List Char) : List Char :=
  toLowerAfter [] cs

/-- The upper-case form of a text. -/
def toUpper (cs : List Char) : List Char :=
  cs.flatMap upperForm

end ClientGen.Text
