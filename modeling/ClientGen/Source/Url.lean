import ClientGen.Malformed
import ClientGen.Source.Address
import ClientGen.Text.CharacterSet

/-!
# URLs

What is needed of a URL before a request: whether it has a scheme and a place on the network.
-/

namespace ClientGen.Url

/-- A character of a scheme. -/
def isSchemeCharacter (c : Char) : Bool :=
  c.isAlphanum || c == '+' || c == '-' || c == '.'

/-- A URL without the characters that are dropped before it is taken apart: controls and spaces in
front, and tabs and line ends anywhere. -/
def cleaned (cs : List Char) : List Char :=
  (cs.dropWhile fun c => c.toNat ≤ 0x20).filter fun c => c != '\t' && c != '\r' && c != '\n'

/-- The scheme and what follows it. -/
def scheme? (cs : List Char) : Option (List Char × List Char) :=
  match Text.cut? ':' cs with
  | some (scheme, rest) =>
    if scheme.head?.any Char.isAlpha && scheme.all isSchemeCharacter then some (scheme, rest)
    else none
  | none => none

/-- The place on the network that two slashes announce. -/
def location (cs : List Char) : List Char :=
  match cs with
  | '/' :: '/' :: rest => rest.takeWhile fun c => c != '/' && c != '?' && c != '#'
  | _ => []

/-- The characters whose compatible forms hold one that divides a URL. -/
def dividersInDisguise : Text.CharacterSet := [
  (0x2047, 0x2049), (0x2100, 0x2101), (0x2105, 0x2106), (0x2A74, 0x2A74), (0xFE13, 0xFE13),
  (0xFE16, 0xFE16), (0xFE55, 0xFE56), (0xFE5F, 0xFE5F), (0xFE6B, 0xFE6B), (0xFF03, 0xFF03),
  (0xFF0F, 0xFF0F), (0xFF1A, 0xFF1A), (0xFF1F, 0xFF1F), (0xFF20, 0xFF20)]

/-- Whether the brackets of a place, if there are any, are closed and hold an address. -/
def hasGoodBrackets (location : List Char) : Bool :=
  match Text.cut? '[' location with
  | none => !location.contains ']'
  | some (_, inside) =>
    location.contains ']' && Address.isBracketed (inside.takeWhile (· != ']'))

/-- Whether a URL has a scheme and a place on the network.  A place whose brackets hold no address,
or with a divider in disguise, is malformed. -/
def isComplete (url : String) : Except Malformed Bool :=
  let cs := cleaned url.toList
  let parts := (scheme? cs).getD ([], cs)
  let location := location parts.2
  if !hasGoodBrackets location || location.any dividersInDisguise.contains then .error .content
  else .ok (!parts.1.isEmpty && !location.isEmpty)

end ClientGen.Url
