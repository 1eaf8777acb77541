import ClientGen.Entries
import ClientGen.Json.Decimal
import ClientGen.Malformed
import ClientGen.Text.Notation

/-!
# JSON values

The values of a JSON document.  An object keeps its entries in the order of its keys' first
appearance.  Besides reading, a value can be tested (`truthy`: everything but null, false, zero and
the empty text, array and object), walked through (`elements`) and written into a message
(`text`, `shown`).
-/

namespace ClientGen

/-- A JSON value. -/
inductive Json where
  | null
  | bool (value : Bool)
  | int (value : Int)
  | real (value : Decimal)
  | str (value : String)
  | arr (items : List Json)
  | obj (fields : List (String × Json))
deriving Inhabited, Repr

namespace Json

/-- Whether a value is null. -/
def isNull : Json → Bool
  | null => true
  | _ => false

/-- Whether a value counts as yes. -/
def truthy : Json → Bool
  | null => false
  | bool b => b
  | int n => n != 0
  | real d => !d.isZero
  | str s => !s.isEmpty
  | arr items => !items.isEmpty
  | obj fields => !fields.isEmpty

/-- The value of a key, if this is an object that has it. -/
def get? (key : String) : Json → Option Json
  | obj fields => fields.lookup key
  | _ => none

/-- The text, if this is one. -/
def text? : Json → Option String
  | str s => some s
  | _ => none

/-- The parts of a value in order: the items of an array, the keys of an object, the characters of
a text. -/
def elements : Json → Except Malformed (List Json)
  | arr items => .ok items
  | obj fields => .ok (fields.map fun field => str field.1)
  | str s => .ok (s.toList.map fun c => str (String.ofList [c]))
  | _ => .error .kind

/-- The entries of an object. -/
def entries : Json → Except Malformed (List (String × Json))
  | obj fields => .ok fields
  | _ => .error .part

/-- Whether a value can be the key of a dictionary. -/
def isKey : Json → Bool
  | arr _ => false
  | obj _ => false
  | _ => true

/-- The value as a number, if it is one; yes and no count as one and zero. -/
def number? : Json → Option Decimal
  | bool b => some (.ofInt (if b then 1 else 0))
  | int n => some (.ofInt n)
  | real d => some d
  | _ => none

/-! ## Equality

Two values are the same if they hold the same data: numbers are compared by value, and the order
of an object's keys does not count. -/

mutual

/-- Whether two values hold the same data. -/
def same : Json → Json → Bool
  | null, null => true
  | str a, str b => a == b
  | arr as, arr bs => sameItems as bs
  | obj as, obj bs => as.length == bs.length && sameFields as bs
  | bool a, b => (b.number?).any (Decimal.same (.ofInt (if a then 1 else 0)))
  | int a, b => (b.number?).any (Decimal.same (.ofInt a))
  | real a, b => (b.number?).any (Decimal.same a)
  | _, _ => false
termination_by structural a => a

/-- Whether two lists hold the same data in the same order. -/
def sameItems : List Json → List Json → Bool
  | [], [] => true
  | a :: as, b :: bs => same a b && sameItems as bs
  | _, _ => false
termination_by structural as => as

/-- Whether every entry of the first list is one of the second. -/
def sameFields : List (String × Json) → List (String × Json) → Bool
  | [], _ => true
  | (key, a) :: as, bs =>
    (match bs.lookup key with
      | some b => same a b
      | none => false) && sameFields as bs
termination_by structural as => as

end

/-- Whether a value holds a text: a text as a part of it, an array as an item, an object as a
key. -/
def mentions (text : String) : Json → Except Malformed Bool
  | str whole => .ok ((whole.splitOn text).length != 1)
  | arr items => .ok (items.any fun item => item.same (str text))
  | obj fields => .ok (Entries.has text fields)
  | _ => .error .kind

/-! ## Text

The text of a value as messages and generated code write it: a text stands for itself, and inside
an array or object it is shown between quotes. -/

mutual

/-- The value as it is shown inside another one. -/
def shown : Json → String
  | null => "None"
  | bool b => if b then "True" else "False"
  | int n => toString n
  | real d => d.text
  | str s => Text.shown s
  | arr items => "[" ++ ", ".intercalate (shownItems items) ++ "]"
  | obj fields => "\x7b" ++ ", ".intercalate (shownFields fields) ++ "\x7d"
termination_by structural value => value

/-- The items of an array as they are shown. -/
def shownItems : List Json → List String
  | [] => []
  | item :: rest => shown item :: shownItems rest
termination_by structural items => items

/-- The entries of an object as they are shown. -/
def shownFields : List (String × Json) → List String
  | [] => []
  | (key, value) :: rest => (Text.shown key ++ ": " ++ shown value) :: shownFields rest
termination_by structural fields => fields

end

/-- The value as text. -/
def text : Json → String
  | str s => s
  | value => shown value

end Json

end ClientGen
