import ClientGen.Json.Basic

/-!
# Writing JSON

Two layouts of a value as JSON text: on one line (`compact`), and with every item of an array or
object on a line of its own, indented by two spaces a level (`pretty`).  Characters outside ASCII
are kept.
-/

namespace ClientGen.Json

/-- A value without parts. -/
def scalarText : Json → String
  | null => "null"
  | bool b => if b then "true" else "false"
  | int n => toString n
  | real d => d.textWith "Infinity" "NaN"
  | str s => Text.quote s
  | arr _ => "[]"
  | obj _ => "\x7b\x7d"

mutual

/-- A value on one line. -/
def compact : Json → String
  | arr items => "[" ++ ",".intercalate (compactItems items) ++ "]"
  | obj fields => "\x7b" ++ ",".intercalate (compactFields fields) ++ "\x7d"
  | value => scalarText value
termination_by structural value => value

/-- The items of an array, each on one line. -/
def compactItems : List Json → List String
  | [] => []
  | item :: rest => compact item :: compactItems rest
termination_by structural items => items

/-- The entries of an object, each on one line. -/
def compactFields : List (String × Json) → List String
  | [] => []
  | (key, value) :: rest => (Text.quote key ++ ":" ++ compact value) :: compactFields rest
termination_by structural fields => fields

end

/-- The start of a line at a level. -/
def lineStart (level : Nat) : String :=
  "\n" ++ String.ofList (List.replicate (2 * level) ' ')

/-- Parts between brackets, each on a line of its own. -/
def bracketed (opening closing : String) (level : Nat) (parts : List String) : String :=
  if parts.isEmpty then opening ++ closing
  else
    opening ++ lineStart (level + 1) ++ ("," ++ lineStart (level + 1)).intercalate parts
      ++ lineStart level ++ closing

mutual

/-- A value on several lines; the first one starts at the given level. -/
def prettyAt (level : Nat) : Json → String
  | arr items => bracketed "[" "]" level (prettyItems (level + 1) items)
  | obj fields => bracketed "\x7b" "\x7d" level (prettyFields (level + 1) fields)
  | value => scalarText value
termination_by structural value => value

/-- The items of an array, each on its lines. -/
def prettyItems (level : Nat) : List Json → List String
  | [] => []
  | item :: rest => prettyAt level item :: prettyItems level rest
termination_by structural items => items

/-- The entries of an object, each on its lines. -/
def prettyFields (level : Nat) : List (String × Json) → List String
  | [] => []
  | (key, value) :: rest =>
    (Text.quote key ++ ": " ++ prettyAt level value) :: prettyFields level rest
termination_by structural fields => fields

end

/-- A value with every part on a line of its own. -/
def pretty (value : Json) : String :=
  prettyAt 0 value

end ClientGen.Json
