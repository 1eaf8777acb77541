import ClientGen.Json.Basic

/-!
# Reading JSON

`Json.parse` reads a text that holds one value and nothing else but white space around it.  A key
that is given twice in an object keeps its first place and its last value.  `NaN`, `Infinity` and
`-Infinity` are read too.

A text that cannot be read is reported with a cause and a position; the position is found from
the number of characters that were left when reading stopped.  A reader may have limits, for the
digits of a whole number and for brackets within brackets.  It stops where a text goes beyond one of
them, before it has seen whether the rest of the text is in order.
-/

namespace ClientGen.Json

/-- Why a text is not a JSON value. -/
inductive SyntaxCause where
  | byteOrderMark
  | valueWanted
  | nameWanted
  | colonWanted
  | commaWanted
  | textAfterValue
  | unterminatedString
  | controlCharacter
  | badEscape
  | badNumberedEscape
deriving DecidableEq, Repr

/-- The cause in words. -/
def SyntaxCause.message : SyntaxCause → String
  | byteOrderMark => "Unexpected UTF-8 BOM (decode using utf-8-sig)"
  | valueWanted => "Expecting value"
  | nameWanted => "Expecting property name enclosed in double quotes"
  | colonWanted => "Expecting ':' delimiter"
  | commaWanted => "Expecting ',' delimiter"
  | textAfterValue => "Extra data"
  | unterminatedString => "Unterminated string starting at"
  | controlCharacter => "Invalid control character at"
  | badEscape => "Invalid \\escape"
  | badNumberedEscape => "Invalid \\uXXXX escape"

/-- A cause and the place where it was met. -/
structure SyntaxFault where
  cause : SyntaxCause
  line : Nat
  column : Nat
  offset : Nat
deriving DecidableEq, Repr

/-- The fault in words. -/
def SyntaxFault.message (fault : SyntaxFault) : String :=
  fault.cause.message ++ ": line " ++ toString fault.line ++ " column " ++ toString fault.column
    ++ " (char " ++ toString fault.offset ++ ")"

/-- The place that many characters into a text; lines and columns count from one. -/
def SyntaxFault.at (cause : SyntaxCause) (text : List Char) (offset : Nat) : SyntaxFault :=
  let before := text.take offset
  let column := ((before.reverse.takeWhile (· != '\n')).length) + 1
  ⟨cause, before.count '\n' + 1, column, offset⟩

/-! ## Limits -/

/-- How much a reader takes; without a number there is no limit. -/
structure Limits where
  /-- The number of digits of a whole number. -/
  digits : Option Nat := none
  /-- The number of brackets that are open at a time. -/
  depth : Option Nat := none
deriving DecidableEq, Repr

/-- In which way a text goes beyond the limits of its reader. -/
inductive Excess where
  | digits (limit count : Nat)
  | depth
deriving DecidableEq, Repr

/-- In words that a whole number has too many digits. -/
def Excess.digitsMessage (limit count : Nat) : String :=
  "Exceeds the limit (" ++ toString limit ++ " digits) for integer string conversion: value has "
    ++ toString count ++ " digits; use sys.set_int_max_str_digits() to increase the limit"

/-- The form in which a value is wrong that goes beyond the limits. -/
def Excess.malformed : Excess → Malformed
  | digits _ _ => .content
  | depth => .endless

/-- Why a text is not read. -/
inductive Refusal where
  | fault (fault : SyntaxFault)
  | excess (excess : Excess)
deriving DecidableEq, Repr

namespace Reader

/-- Why reading stops before the end of a value. -/
inductive Stop where
  /-- A cause, and the number of characters left where it was met. -/
  | fault (cause : SyntaxCause) (left : Nat)
  | excess (excess : Excess)
deriving DecidableEq, Repr

/-- The limits behind one more opening bracket. -/
def inside (limits : Limits) : Except Stop Limits :=
  match limits.depth with
  | none => .ok limits
  | some 0 => .error (.excess .depth)
  | some (depth + 1) => .ok { limits with depth := some depth }

/-- What was read from the front of a text, and the rest of the text. -/
abbrev Front (α : Type) := α × List Char

/-- White space between the parts of a value. -/
def isSpace (c : Char) : Bool :=
  c == ' ' || c == '\t' || c == '\n' || c == '\r'

/-- A text without the white space at its front. -/
def skip (cs : List Char) : List Char :=
  cs.dropWhile isSpace

/-- The value of a hexadecimal digit. -/
def hexValue? (c : Char) : Option Nat :=
  if c.isDigit then some (c.toNat - '0'.toNat)
  else if 'a' ≤ c && c ≤ 'f' then some (c.toNat - 'a'.toNat + 10)
  else if 'A' ≤ c && c ≤ 'F' then some (c.toNat - 'A'.toNat + 10)
  else none

/-- The number that some hexadecimal digits write. -/
def hexNumber? (digits : List Char) : Option Nat :=
  digits.foldl (fun n? c => do return 16 * (← n?) + (← hexValue? c)) (some 0)

/-- The four digits after `\u`.  A text that ends with them is refused like one with a wrong
digit, both at the letter before the digits. -/
def fourDigits (cs : List Char) : Except Stop (Front Nat) :=
  if cs.length ≤ 4 then .error (.fault .badNumberedEscape (cs.length + 1))
  else match hexNumber? (cs.take 4) with
    | some n => .ok (n, cs.drop 4)
    | none => .error (.fault .badNumberedEscape (cs.length + 1))

/-- The character of an escape by one letter. -/
def letterEscape? (c : Char) : Option Char :=
  match c with
  | '"' => some '"'
  | '\\' => some '\\'
  | '/' => some '/'
  | 'b' => some '\x08'
  | 'f' => some '\x0c'
  | 'n' => some '\n'
  | 'r' => some '\r'
  | 't' => some '\t'
  | _ => none

/-- The first half of a surrogate pair. -/
def isHighSurrogate (n : Nat) : Bool :=
  0xd800 ≤ n && n ≤ 0xdbff

/-- The second half of a surrogate pair. -/
def isLowSurrogate (n : Nat) : Bool :=
  0xdc00 ≤ n && n ≤ 0xdfff

/-- The character with a number; half a surrogate pair stands for no character. -/
def character (n : Nat) : Char :=
  if n.isValidChar then Char.ofNat n else '\ufffd'

/-- The character of an escape by number, which follows `\u`; two escapes may make one character
outside the basic plane. -/
def numberedEscape (cs : List Char) : Except Stop (Front Char) := do
  let (high, rest) ← fourDigits cs
  match rest with
  | '\\' :: 'u' :: more =>
    -- A second escape at the very end of the text is left to be refused by itself.
    if isHighSurrogate high && 4 < more.length then
      match hexNumber? (more.take 4) with
      | none => .error (.fault .badNumberedEscape (more.length + 1))
      | some low =>
        if isLowSurrogate low then
          .ok (character (0x10000 + (high - 0xd800) * 0x400 + (low - 0xdc00)), more.drop 4)
        else .ok (character high, rest)
    else .ok (character high, rest)
  | _ => .ok (character high, rest)

/-- The characters of a string up to its closing quote.  `start` is the number of characters left
at its opening quote, `fuel` a bound on the number of characters. -/
def stringBody (start : Nat) : Nat → List Char → List Char → Except Stop (Front String)
  | 0, _, _ => .error (.fault .unterminatedString start)
  | _ + 1, _, [] => .error (.fault .unterminatedString start)
  | fuel + 1, done, c :: rest =>
    if c = '"' then .ok (String.ofList done.reverse, rest)
    else if c = '\\' then
      match rest with
      | [] => .error (.fault .unterminatedString start)
      | 'u' :: more => do
        let (char, rest) ← numberedEscape more
        stringBody start fuel (char :: done) rest
      | letter :: more =>
        match letterEscape? letter with
        | some char => stringBody start fuel (char :: done) more
        | none => .error (.fault .badEscape (rest.length + 1))
    else if c.toNat < 0x20 then .error (.fault .controlCharacter (rest.length + 1))
    else stringBody start fuel (c :: done) rest

/-- A string whose opening quote has been read. -/
def string (cs : List Char) : Except Stop (Front String) :=
  stringBody (cs.length + 1) (cs.length + 1) [] cs

/-- The number that some decimal digits write. -/
def natural (digits : List Char) : Nat :=
  digits.foldl (fun n c => 10 * n + (c.toNat - '0'.toNat)) 0

/-- The digits of a fraction, if a point and a digit come next. -/
def fraction (cs : List Char) : List Char × List Char :=
  match cs with
  | '.' :: rest =>
    let digits := rest.takeWhile Char.isDigit
    if digits.isEmpty then ([], cs) else (digits, rest.drop digits.length)
  | _ => ([], cs)

/-- The exponent, if one comes next. -/
def exponent? (cs : List Char) : Option (Int × List Char) :=
  match cs with
  | mark :: rest =>
    if mark = 'e' || mark = 'E' then
      let signed := match rest with
        | '-' :: more => (true, more)
        | '+' :: more => (false, more)
        | _ => (false, rest)
      let digits := signed.2.takeWhile Char.isDigit
      if digits.isEmpty then none
      else
        let size : Int := natural digits
        some (if signed.1 then -size else size, signed.2.drop digits.length)
    else none
  | [] => none

/-- A number without its sign. -/
def unsigned? (negative : Bool) (cs : List Char) : Option (Json × List Char) :=
  let whole := match cs with
    -- A leading zero is the whole integer part; digits behind it are not part of the number.
    | '0' :: _ => ['0']
    | _ => cs.takeWhile Char.isDigit
  if whole.isEmpty then none
  else
    let part := fraction (cs.drop whole.length)
    let coefficient := natural (whole ++ part.1)
    match exponent? part.2 with
    | some (power, rest) =>
      some (real (.ofScientific negative coefficient (power - part.1.length)), rest)
    | none =>
      if part.1.isEmpty then
        some (int (if negative then -(coefficient : Int) else coefficient), part.2)
      else some (real (.ofScientific negative coefficient (-(part.1.length : Int))), part.2)

/-- The values written as a word. -/
def words : List (String × Json) :=
  [("null", null), ("true", bool true), ("false", bool false), ("NaN", real .undefined),
    ("Infinity", real (.infinite false)), ("-Infinity", real (.infinite true))]

/-- A value written as a word, if one comes next. -/
def word? (cs : List Char) : Option (Json × List Char) :=
  words.findSome? fun word =>
    if word.1.toList.isPrefixOf cs then some (word.2, cs.drop word.1.length) else none

/-- Lets a number pass unless it is a whole one of too many digits. -/
def allow (limits : Limits) (read : Front Json) : Except Stop (Front Json) :=
  match read.1, limits.digits with
  | int n, some limit =>
    let count := n.natAbs.repr.length
    if limit < count then .error (.excess (.digits limit count)) else .ok read
  | _, _ => .ok read

/-- A word or a number. -/
def plain (limits : Limits) (cs : List Char) : Except Stop (Front Json) :=
  match word? cs with
  | some read => .ok read
  | none =>
    let number := match cs with
      | '-' :: rest => unsigned? true rest
      | _ => unsigned? false cs
    match number with
    | some read => allow limits read
    | none => .error (.fault .valueWanted cs.length)

mutual

/-- A value.  `fuel` bounds the number of brackets, items and entries that are met. -/
def value : Nat → Limits → List Char → Except Stop (Front Json)
  | 0, _, cs => .error (.fault .valueWanted cs.length)
  | fuel + 1, limits, cs =>
    match cs with
    | '"' :: rest => do
      let (s, rest) ← string rest
      return (str s, rest)
    | '\x7b' :: rest => do
      let limits ← inside limits
      match skip rest with
      | '\x7d' :: rest => .ok (obj [], rest)
      | rest => do
        let (fields, rest) ← members fuel limits [] rest
        return (obj fields, rest)
    | '[' :: rest => do
      let limits ← inside limits
      match skip rest with
      | ']' :: rest => .ok (arr [], rest)
      | rest => do
        let (found, rest) ← items fuel limits [] rest
        return (arr found, rest)
    | _ => plain limits cs

/-- The entries of an object from a name on. -/
def members : Nat → Limits → List (String × Json) → List Char →
    Except Stop (Front (List (String × Json)))
  | 0, _, _, cs => .error (.fault .nameWanted cs.length)
  | fuel + 1, limits, done, cs =>
    match cs with
    | '"' :: rest => do
      let (name, rest) ← string rest
      match skip rest with
      | ':' :: rest =>
        let (found, rest) ← value fuel limits (skip rest)
        -- A name that was met before keeps its place and gets the new value.
        let done := Entries.put name found done
        match skip rest with
        | '\x7d' :: rest => return (done, rest)
        | ',' :: rest => members fuel limits done (skip rest)
        | rest => .error (.fault .commaWanted rest.length)
      | rest => .error (.fault .colonWanted rest.length)
    | _ => .error (.fault .nameWanted cs.length)

/-- The items of an array from one on. -/
def items : Nat → Limits → List Json → List Char → Except Stop (Front (List Json))
  | 0, _, _, cs => .error (.fault .valueWanted cs.length)
  | fuel + 1, limits, done, cs => do
    let (found, rest) ← value fuel limits cs
    match skip rest with
    | ']' :: rest => return ((found :: done).reverse, rest)
    | ',' :: rest => items fuel limits (found :: done) (skip rest)
    | rest => .error (.fault .commaWanted rest.length)

end

/-- A value with nothing but white space around it. -/
def document (limits : Limits) (cs : List Char) : Except Stop Json := do
  if cs.head? == some '\ufeff' then throw (.fault .byteOrderMark cs.length)
  -- Every two steps into brackets, items or entries take a character, so the fuel suffices.
  let (found, rest) ← value (2 * cs.length + 2) limits (skip cs)
  match skip rest with
  | [] => return found
  | rest => throw (.fault .textAfterValue rest.length)

end Reader

/-- The value that a text holds. -/
def parse (text : String) (limits : Limits := {}) : Except Refusal Json :=
  let cs := text.toList
  match Reader.document limits cs with
  | .ok found => .ok found
  | .error (.fault cause left) => .error (.fault (.at cause cs (cs.length - left)))
  | .error (.excess excess) => .error (.excess excess)

end ClientGen.Json
