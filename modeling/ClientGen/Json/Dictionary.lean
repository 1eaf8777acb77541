import ClientGen.Json.Basic

/-!
# Dictionaries from values

A value can be read as a dictionary in two ways: an object holds its entries, and any other value
that has elements holds one entry for each of them, which must itself have two elements.  Keys need
not be texts, but must not be arrays or objects.  Main definition: `Json.dictionary`.
-/

namespace ClientGen

namespace Json

/-- Gives a key its value: in its place if it is there, else at the end. -/
def putKey (key value : Json) : List (Json × Json) → List (Json × Json)
  | [] => [(key, value)]
  | (k, v) :: rest => if k.same key then (k, value) :: rest else (k, v) :: putKey key value rest

/-- The key and value that an element stands for. -/
def entryOf (element : Json) : Except Malformed (Json × Json) := do
  match ← element.elements with
  | [key, value] => if key.isKey then .ok (key, value) else .error .kind
  | _ => .error .content

/-- The entries of a value read as a dictionary. -/
def dictionary : Json → Except Malformed (List (Json × Json))
  | obj fields => .ok (fields.map fun field => (str field.1, field.2))
  | value => do
    let mut entries := []
    for element in ← value.elements do
      let entry ← entryOf element
      entries := putKey entry.1 entry.2 entries
    return entries

end Json

end ClientGen
