import ClientGen.Text.Split

/-!
# Network addresses in brackets

A place on the network may be a numeric address between brackets: eight groups of up to four
hexadecimal digits with colons between them.  Two colons next to each other stand, once, for groups
that are left out, and the last two groups may be written as four decimal numbers.  A zone may
follow behind a percent sign.  An address of a later kind starts with a `v` and its number.  Main
definition: `isBracketed`.
-/

namespace ClientGen.Address

/-- A hexadecimal digit. -/
def isHexDigit (c : Char) : Bool :=
  c.isDigit || ('a' ≤ c && c ≤ 'f') || ('A' ≤ c && c ≤ 'F')

/-- A group of hexadecimal digits. -/
def isGroup (cs : List Char) : Bool :=
  !cs.isEmpty && cs.length ≤ 4 && cs.all isHexDigit

/-- A decimal number below 256 without needless zeros. -/
def isOctet (cs : List Char) : Bool :=
  cs == ['0'] || (!cs.isEmpty && cs.length ≤ 3 && cs.all Char.isDigit && cs.head? != some '0'
    && cs.foldl (fun n c => 10 * n + (c.toNat - 48)) 0 < 256)

/-- Four decimal numbers with points between them. -/
def isDotted (cs : List Char) : Bool :=
  (Text.pieces '.' cs).length = 4 && (Text.pieces '.' cs).all isOctet

/-- The number of groups that parts between colons make, if they are groups; the last part may stand
for two. -/
def groupCount? : List (List Char) → Option Nat
  | [] => some 0
  | [part] =>
    if isGroup part then some 1 else if isDotted part then some 2 else none
  | part :: rest => if isGroup part then (groupCount? rest).map (· + 1) else none

/-- The number of groups in a text, which may be empty. -/
def groups? (cs : List Char) : Option Nat :=
  if cs.isEmpty then some 0 else groupCount? (Text.pieces ':' cs)

/-- What stands before and after the first two colons that are next to each other. -/
def gap? : List Char → Option (List Char × List Char)
  | ':' :: ':' :: rest => some ([], rest)
  | c :: rest => (gap? rest).map fun parts => (c :: parts.1, parts.2)
  | [] => none

/-- An address of eight groups. -/
def isGrouped (cs : List Char) : Bool :=
  match gap? cs with
  | none => groups? cs == some 8
  | some (before, after) =>
    match groups? before, groups? after with
    | some count, some others => !before.contains '.' && count + others < 8
    | _, _ => false

/-- An address without its zone, if the zone is well formed. -/
def withoutZone? (cs : List Char) : Option (List Char) :=
  match Text.cut? '%' cs with
  | none => some cs
  | some (address, zone) => if zone.isEmpty || zone.contains '%' then none else some address

/-- An address of a later kind. -/
def isLater (cs : List Char) : Bool :=
  match Text.cut? '.' cs with
  | some ('v' :: version, rest) =>
    !version.isEmpty && version.all isHexDigit && !rest.isEmpty
  | _ => false

/-- Whether a text can stand between brackets. -/
def isBracketed (cs : List Char) : Bool :=
  if cs.head? == some 'v' then isLater cs else (withoutZone? cs).any isGrouped

end ClientGen.Address
