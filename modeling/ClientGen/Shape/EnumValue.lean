import ClientGen.Model.Basic
import ClientGen.Name.Case

/-!
# Values of enums

An enum is a string shape with a trait that lists its values.  Every value gets a label, which is
the name of its constant: the name of the type, then the capitalised words of the symbolic name, or
of the value itself if it has no name.  Main definitions: `Shape.enumValues` and `EnumValue.labels`,
which refuses two values with one label.
-/

namespace ClientGen

/-- A value of an enum, with what the model says about it. -/
structure EnumValue where
  value : String
  name : Json := .null
  documentation : Json := .null
  tags : List Json := []
  isDeprecated : Bool := false
deriving Inhabited

namespace EnumValue

/-- Reads a value of an enum. -/
def ofNode (node : Json) : Except Failure EnumValue := do
  match node with
  | .obj fields =>
    match fields.lookup "value" with
    | none => throw (.model (.enumValueMissing node))
    | some value =>
      let tags ← formed ((fields.lookup "tags").getD (.arr [])).elements
      return {
        value := value.text
        name := (fields.lookup "name").getD .null
        documentation := (fields.lookup "documentation").getD .null
        tags
        isDeprecated := ((fields.lookup "deprecated").getD (.bool false)).truthy }
  | _ =>
    -- A text or list that holds the key passes for a value until it is read from.
    if ← formed (node.mentions "value") then throw (.malformed .kind)
    else throw (.model (.enumValueMissing node))

/-- The text that the label is made of, which must be a text. -/
def source (value : EnumValue) : Except Malformed String :=
  if value.name.truthy then
    match value.name with
    | .str name => .ok name
    | _ => .error .kind
  else .ok value.value

/-- The capitalised words of a text. -/
def capitalizedWords (text : String) : List Char :=
  (Name.segments Text.isWord text.toList).flatMap fun word =>
    Name.capitalized (Text.toLower word)

/-- The name of the constant for a value. -/
def label (typeName : String) (value : EnumValue) : Except Malformed String := do
  return typeName ++ String.ofList (capitalizedWords (← value.source))

/-- What claims a label, in the words of messages. -/
def owner (value : EnumValue) : String :=
  "enum value " ++ Text.shown value.value

/-- Labels of values, given the names that are taken and what took them. -/
def labelsFrom (typeName : String) (taken : List (String × String)) :
    List EnumValue → Except Failure (List (String × EnumValue))
  | [] => .ok []
  | value :: rest => do
    let label ← formed (value.label typeName)
    match taken.lookup label with
    | some first =>
      throw (.collision { identifier := label, first, second := value.owner, scope := typeName })
    | none => return (label, value) :: (← labelsFrom typeName (taken ++ [(label, value.owner)]) rest)

/-- The values with their labels, all different from one another and from the type's name. -/
def labels (typeName : String) (values : List EnumValue) :
    Except Failure (List (String × EnumValue)) :=
  labelsFrom typeName [(typeName, "type " ++ typeName)] values

end EnumValue

/-- The values of an enum, in the order of the model. -/
def Shape.enumValues (shape : Shape) : Except Failure (List EnumValue) := do
  let nodes ← formed (← shape.expectTrait Trait.enum).elements
  nodes.mapM EnumValue.ofNode

end ClientGen
