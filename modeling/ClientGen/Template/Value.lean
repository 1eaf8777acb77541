import ClientGen.Failure
import ClientGen.Symbol.Basic

/-!
# Values in templates

What a template can be given: JSON data, symbols, dependencies, and collections and dictionaries of
them.  A value has a text, parts that a template can ask for, and the packages that it needs.
-/

namespace ClientGen

/-- A way to hold items. -/
inductive Collection where
  | list
  | tuple
  | set
  | frozenSet
deriving DecidableEq, Repr

namespace Collection

/-- The word for a way to hold items. -/
def word : Collection → String
  | list => "list"
  | tuple => "tuple"
  | set => "set"
  | frozenSet => "frozenset"

/-- Whether the items have places at which they can be asked for. -/
def hasPlaces : Collection → Bool
  | list | tuple => true
  | set | frozenSet => false

/-- Items as they are shown together. -/
def shown (collection : Collection) (items : List String) : String :=
  let inside := ", ".intercalate items
  match collection with
  | list => "[" ++ inside ++ "]"
  | tuple => if items.length = 1 then "(" ++ inside ++ ",)" else "(" ++ inside ++ ")"
  | set => if items.isEmpty then "set()" else "\x7b" ++ inside ++ "\x7d"
  | frozenSet => if items.isEmpty then "frozenset()" else "frozenset(\x7b" ++ inside ++ "\x7d)"

end Collection

/-- A value that a template can write.  The items of a set are in the order in which it is gone
through. -/
inductive Value where
  | data (value : Json)
  | symbol (symbol : Symbol)
  | dependency (dependency : Dependency)
  | collection (collection : Collection) (items : List Value)
  | record (fields : List (String × Value))
deriving Inhabited

namespace Value

/-- A list of values. -/
@[match_pattern] abbrev list (items : List Value) : Value :=
  .collection .list items

/-- A text as a value. -/
def ofText (text : String) : Value :=
  .data (.str text)

/-- A text that may be absent as a value. -/
def ofText? (text : Option String) : Value :=
  .data ((text.map Json.str).getD .null)

mutual

/-- The value as it is shown inside a collection or record. -/
def shown : Value → String
  | data value => value.shown
  | symbol found => found.shown
  | dependency found => found.shown
  | collection found items => found.shown (shownItems items)
  | record fields => "\x7b" ++ ", ".intercalate (shownFields fields) ++ "\x7d"
termination_by structural value => value

/-- The items of a collection as they are shown. -/
def shownItems : List Value → List String
  | [] => []
  | item :: rest => shown item :: shownItems rest
termination_by structural items => items

/-- The entries of a dictionary as they are shown. -/
def shownFields : List (String × Value) → List String
  | [] => []
  | (key, value) :: rest => (Text.shown key ++ ": " ++ shown value) :: shownFields rest
termination_by structural fields => fields

end

/-- The value as text: a symbol stands for its full name. -/
def text : Value → String
  | data value => value.text
  | symbol found => found.fullName
  | value => value.shown

/-- The value as text, a symbol by its pointer form. -/
def pointerText : Value → String
  | symbol found => found.pointer
  | value => value.text

/-- The value as text, a symbol by its name alone. -/
def nameText : Value → String
  | symbol found => found.name
  | value => value.text

mutual

/-- The packages that the value needs, in order. -/
def dependencies : Value → List Dependency
  | data _ => []
  | symbol found => found.dependencies
  | dependency found => [found]
  | collection _ items => dependenciesItems items
  | record fields => dependenciesFields fields
termination_by structural value => value

/-- The packages that the items of a collection need. -/
def dependenciesItems : List Value → List Dependency
  | [] => []
  | item :: rest => dependencies item ++ dependenciesItems rest
termination_by structural items => items

/-- The packages that the entries of a dictionary need. -/
def dependenciesFields : List (String × Value) → List Dependency
  | [] => []
  | (_, value) :: rest => dependencies value ++ dependenciesFields rest
termination_by structural fields => fields

end

mutual

/-- The value with its symbols as code in the package of a path writes them. -/
def relativeTo (path : Option String) : Value → Value
  | data value => .data value
  | symbol found => .symbol (found.relativeTo path)
  | dependency found => .dependency found
  | collection found items => .collection found (relativeToItems path items)
  | record fields => .record (relativeToFields path fields)
termination_by structural value => value

/-- The items of a collection as code in the package of a path writes them. -/
def relativeToItems (path : Option String) : List Value → List Value
  | [] => []
  | item :: rest => relativeTo path item :: relativeToItems path rest
termination_by structural items => items

/-- The entries of a dictionary as code in the package of a path writes them. -/
def relativeToFields (path : Option String) : List (String × Value) → List (String × Value)
  | [] => []
  | (key, value) :: rest => (key, relativeTo path value) :: relativeToFields path rest
termination_by structural fields => fields

end

/-! ## Parts -/

/-- What kind of value this is, in the words of messages. -/
def kind : Value → String
  | data .null => "None"
  | data (.bool _) => "bool object"
  | data (.int _) => "int object"
  | data (.real _) => "float object"
  | data (.str _) => "str object"
  | data (.arr _) => "list object"
  | data (.obj _) => "dict object"
  | symbol _ => "shapegen.codegen.core.symbols.Symbol object"
  | dependency _ => "shapegen.codegen.core.dependencies.Dependency object"
  | collection found _ => found.word ++ " object"
  | record _ => "dict object"

/-- The part of a symbol that a template names. -/
def ofSymbol? (symbol : Symbol) : String → Option Value
  | "name" => some (ofText symbol.name)
  | "namespace" => some (ofText symbol.qualifier)
  | "full_name" => some (ofText symbol.fullName)
  | "pointer" => some (ofText symbol.pointer)
  | "pointable" => some (.data (.bool symbol.isPointer))
  | "documentation" => some (.data symbol.documentation)
  | "definition_file" => some (ofText? symbol.unit?)
  | "container" => some (ofText symbol.containerText)
  | "is_declared" => some (.data (.bool symbol.isDeclared))
  | "dependency" => some ((symbol.dependency?.map .dependency).getD (.data .null))
  | "references" => some (.collection .tuple (symbol.references.map .symbol))
  | _ => none

/-- The part of a dependency that a template names. -/
def ofDependency? (dependency : Dependency) : String → Option Value
  | "path" => some (ofText dependency.path)
  | "alias" => some (ofText dependency.name)
  | "default_alias" => some (ofText dependency.defaultName)
  | "needs_alias" => some (.data (.bool dependency.isRenamed))
  | "import_line" => some (ofText dependency.importLine)
  | "module" => some (ofText? dependency.provider)
  | "version" => some (ofText? dependency.version)
  | _ => none

/-- The part of a name. -/
def part? (value : Value) (name : String) : Except TemplateFault Value :=
  let found := match value with
    | data (.obj fields) => (fields.lookup name).map .data
    | record fields => fields.lookup name
    | symbol found => ofSymbol? found name
    | dependency found => ofDependency? found name
    | _ => none
  match found with
  | some part => .ok part
  | none => .error (.noAttribute value.kind name)

/-- The element at a place; places count from zero. -/
def element? (value : Value) (index : Nat) : Except TemplateFault Value :=
  let found := match value with
    | data (.arr items) => items[index]?.map .data
    | data (.str text) => text.toList[index]?.map fun c => ofText (String.ofList [c])
    | collection found items => if found.hasPlaces then items[index]? else none
    | _ => none
  match found with
  | some element => .ok element
  | none => .error (.noElement value.kind index)

end Value

/-- The values that a template is given, by name. -/
abbrev Arguments := List (String × Value)

end ClientGen
