/-!
# Decimal numbers

The numbers of a JSON text that are not whole: a whole number of tenths, hundredths and so on, held
exactly, or one of the three values that stand for no number.  Main definition: `Decimal.text`,
which writes a number positionally while its point stands near its digits, and with an exponent of
at least two digits otherwise.
-/

namespace ClientGen

/-- A number `± coefficient · 10 ^ exponent`, or a value beyond numbers. -/
inductive Decimal where
  | finite (negative : Bool) (coefficient : Nat) (exponent : Int)
  | infinite (negative : Bool)
  | undefined
deriving DecidableEq, Repr

namespace Decimal

/-- Moves the zeros at the end of a coefficient into the exponent; `fuel` bounds their number. -/
def shedZeros : Nat → Nat → Int → Nat × Int
  | 0, coefficient, exponent => (coefficient, exponent)
  | fuel + 1, coefficient, exponent =>
    if coefficient ≠ 0 && coefficient % 10 = 0 then
      shedZeros fuel (coefficient / 10) (exponent + 1)
    else (coefficient, exponent)

/-- The number with these digits; past the largest exponent it is infinite. -/
def ofScientific (negative : Bool) (coefficient : Nat) (exponent : Int) : Decimal :=
  let digits := (Nat.toDigits 10 coefficient).length
  if coefficient = 0 || (digits : Int) + exponent < -323 then finite negative 0 0
  else if (digits : Int) + exponent > 309 then infinite negative
  else
    let shed := shedZeros digits coefficient exponent
    finite negative shed.1 shed.2

/-- The number that is a whole number. -/
def ofInt (n : Int) : Decimal :=
  let shed := shedZeros (Nat.toDigits 10 n.natAbs).length n.natAbs 0
  if n = 0 then finite false 0 0 else finite (n < 0) shed.1 shed.2

/-- Whether the number is zero. -/
def isZero : Decimal → Bool
  | finite _ coefficient _ => coefficient == 0
  | _ => false

/-- Whether two numbers are equal; the sign of zero does not count, and the undefined value equals
nothing. -/
def same (a b : Decimal) : Bool :=
  match a, b with
  | undefined, _ => false
  | _, undefined => false
  | a, b => (a.isZero && b.isZero) || a == b

/-- Digits with a point, or with an exponent where the point is far off. -/
def digitsText (digits : List Char) (point : Int) : String :=
  if -4 < point && point ≤ 16 then
    if point ≤ 0 then "0." ++ String.ofList (List.replicate (-point).toNat '0' ++ digits)
    else if (digits.length : Int) ≤ point then
      String.ofList (digits ++ List.replicate (point.toNat - digits.length) '0') ++ ".0"
    else
      String.ofList (digits.take point.toNat) ++ "." ++ String.ofList (digits.drop point.toNat)
  else
    let power := point - 1
    let size := toString power.natAbs
    let mantissa := match digits with
      | d :: [] => String.ofList [d]
      | d :: rest => String.ofList (d :: '.' :: rest)
      | [] => ""
    mantissa ++ (if power < 0 then "e-" else "e+")
      ++ (if power.natAbs < 10 then "0" ++ size else size)

/-- The text of a number; `infinity` and `nan` are the words for the values beyond numbers. -/
def textWith (infinity nan : String) : Decimal → String
  | undefined => nan
  | infinite negative => (if negative then "-" else "") ++ infinity
  | finite negative coefficient exponent =>
    let digits := Nat.toDigits 10 coefficient
    (if negative then "-" else "") ++
      (if coefficient = 0 then "0.0" else digitsText digits (digits.length + exponent))

/-- The text of a number in a message. -/
def text (d : Decimal) : String :=
  d.textWith "inf" "nan"

end Decimal

end ClientGen
