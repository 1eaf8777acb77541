import ClientGen.Json.Basic
import ClientGen.Shape.Id

/-!
# Shapes

The nodes of a service model.  A shape has a type, traits that annotate it, and, as its type asks,
members (of structures, unions, lists, sets and maps) or relations to other shapes (of services,
resources and operations).  Main definitions: `Shape`, `Shape.targets`, which lists every shape
that a shape refers to, and the questions `isEnum` and `isError` that decide how a shape is
declared.
-/

namespace ClientGen

/-- The types of shapes. -/
inductive ShapeType where
  | blob
  | boolean
  | string
  | byte
  | short
  | integer
  | long
  | float
  | double
  | bigInteger
  | bigDecimal
  | timestamp
  | document
  | list
  | set
  | map
  | struct
  | union
  | service
  | resource
  | operation
deriving DecidableEq, Repr, Inhabited

namespace ShapeType

/-- Every type. -/
def all : List ShapeType :=
  [blob, boolean, string, byte, short, integer, long, float, double, bigInteger, bigDecimal,
    timestamp, document, list, set, map, struct, union, service, resource, operation]

/-- The word for a type in a model. -/
def name : ShapeType → String
  | blob => "blob"
  | boolean => "boolean"
  | string => "string"
  | byte => "byte"
  | short => "short"
  | integer => "integer"
  | long => "long"
  | float => "float"
  | double => "double"
  | bigInteger => "bigInteger"
  | bigDecimal => "bigDecimal"
  | timestamp => "timestamp"
  | document => "document"
  | list => "list"
  | set => "set"
  | map => "map"
  | struct => "structure"
  | union => "union"
  | service => "service"
  | resource => "resource"
  | operation => "operation"

/-- The type that a word stands for. -/
def ofName? (word : String) : Option ShapeType :=
  all.find? (·.name == word)

end ShapeType

/-! ## Traits -/

/-- The annotations of a shape or member, by trait id in the order of the model. -/
abbrev Traits := List (String × Json)

namespace Trait

/-- The namespace of the built-in shapes and traits. -/
def prelude : String := "smithy.api"

/-- The id of a built-in trait. -/
def builtin (name : String) : String := prelude ++ "#" ++ name

/-- The documentation of a shape or member. -/
def documentation : String := builtin "documentation"

/-- The values of a string that is an enum. -/
def enum : String := builtin "enum"

/-- Marks a structure as an error, and says whose fault it is. -/
def error : String := builtin "error"

/-- Marks a member that must be given. -/
def required : String := builtin "required"

/-- The full name of a service. -/
def title : String := builtin "title"

/-- Marks a trait as one that selects a protocol. -/
def protocolDefinition : String := builtin "protocolDefinition"

end Trait

/-- The documentation in some traits; null if there is none. -/
def Traits.documentation (traits : Traits) : Json :=
  (traits.lookup Trait.documentation).getD .null

/-- A member of a shape. -/
structure Member where
  name : String
  container : ShapeId
  target : ShapeId
  traits : Traits := []
deriving Inhabited

namespace Member

/-- The id of the member. -/
def id (member : Member) : ShapeId :=
  member.container.withMember member.name

/-- Whether the member must be given. -/
def isRequired (member : Member) : Bool :=
  Entries.has Trait.required member.traits

/-- The documentation of the member; null if there is none. -/
def documentation (member : Member) : Json :=
  Traits.documentation member.traits

end Member

/-- A node of a model.  Members and relations keep the order of the model. -/
structure Shape where
  id : ShapeId
  type : ShapeType
  traits : Traits := []
  members : List Member := []
  version : Json := .null
  operations : List ShapeId := []
  resources : List ShapeId := []
  input : Option ShapeId := none
  output : Option ShapeId := none
  errors : List ShapeId := []
deriving Inhabited

namespace Shape

/-- The name of the shape without its namespace. -/
def name (shape : Shape) : String :=
  shape.id.name

/-- Whether the shape has a trait. -/
def hasTrait (shape : Shape) (trait : String) : Bool :=
  Entries.has trait shape.traits

/-- The value of a trait, if the shape has it. -/
def trait? (shape : Shape) (trait : String) : Option Json :=
  shape.traits.lookup trait

/-- The documentation of the shape; null if there is none. -/
def documentation (shape : Shape) : Json :=
  Traits.documentation shape.traits

/-- Whether the shape is a string with a given set of values. -/
def isEnum (shape : Shape) : Bool :=
  shape.type == .string && shape.hasTrait Trait.enum

/-- Whether the shape is a structure that stands for an error. -/
def isError (shape : Shape) : Bool :=
  shape.type == .struct && shape.hasTrait Trait.error

/-- Whether the shape has members of its own choice. -/
def isAggregate (shape : Shape) : Bool :=
  shape.type == .struct || shape.type == .union

/-- The member of a name, if there is one. -/
def member? (shape : Shape) (name : String) : Option Member :=
  shape.members.find? (·.name == name)

/-- Every shape that the shape refers to, in order. -/
def targets (shape : Shape) : List ShapeId :=
  shape.members.map Member.target ++ shape.operations ++ shape.resources ++ shape.input.toList
    ++ shape.output.toList ++ shape.errors

end Shape

end ClientGen
