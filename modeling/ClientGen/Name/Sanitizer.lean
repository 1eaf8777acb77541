import ClientGen.Name.Case

/-!
# Safe identifiers

Any text becomes an identifier in two steps.  `clean` replaces what is not an ASCII letter, digit,
underscore or hyphen, drops what separates at the two ends, and guards a leading digit; a style is
then applied.  Last, `Sanitizer.escape` appends a suffix to a word that the target language keeps
for itself.
-/

namespace ClientGen.Name

open Text

/-- A character that a cleaned name keeps. -/
def isPlain (c : Char) : Bool :=
  c.isAlphanum || c == '_' || c == '-'

/-- A name of plain characters that does not start with a digit; `field` if nothing is left. -/
def clean (cs : List Char) : List Char :=
  let kept := trim (fun c => c == '_' || c == '-') (cs.map fun c => if isPlain c then c else '_')
  match kept with
  | [] => "field".toList
  | c :: _ => if c.isDigit then '_' :: kept else kept

/-- The words that an identifier must not be. -/
structure Sanitizer where
  reserved : List String := []
  builtins : List String := []

namespace Sanitizer

/-- Appends the suffix to a word that is not free. -/
def escape (sanitizer : Sanitizer) (name : String) (suffix : String := "_") : String :=
  if sanitizer.reserved.contains name || sanitizer.builtins.contains name then name ++ suffix
  else name

/-- An identifier for a text, in a style if one is given. -/
def sanitize (sanitizer : Sanitizer) (name : String) (style : Option Case := some .pascal)
    (suffix : String := "_") : String :=
  let cleaned := clean name.toList
  let styled := match style with
    | some style => style.apply cleaned
    | none => cleaned
  sanitizer.escape (String.ofList styled) suffix

end Sanitizer

end ClientGen.Name
