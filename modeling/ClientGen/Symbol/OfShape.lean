import ClientGen.Dependency.Known
import ClientGen.Model.Basic
import ClientGen.Name.Keyword
import ClientGen.Symbol.Basic

/-!
# The Go type of a shape

Every shape has a symbol.  Simple shapes have the symbols of built-in types; a list is a slice of
its member's type and a map a map from texts to its value's type; structures, unions and enums are
declared in the `types` package of the module, and services and operations in the client package.

Elements of lists and maps are followed through the model.  A chain of elements that is longer than
the model has shapes comes back to itself, so the search is bounded by the size of the model.
-/

namespace ClientGen

/-- The file of the client. -/
def clientUnit : String := "api_client.go"

/-- The file of enums. -/
def enumsUnit : String := "types/enums.go"

/-- The file of structures and unions. -/
def typesUnit : String := "types/types.go"

/-- The file of errors. -/
def errorsUnit : String := "types/errors.go"

/-- The path of the package of types in a module. -/
def typesPath (modulePath : String) : String :=
  modulePath ++ "/types"

namespace Shape

/-- The name of the shape's type. -/
def typeName (shape : Shape) : String :=
  Name.sanitizer.sanitize shape.name

/-- The symbol of a type that the package of types declares. -/
def declaredType (modulePath unit : String) (isPointer : Bool) (shape : Shape) : Symbol :=
  let package := Dependency.own (typesPath modulePath)
  .named {
    name := shape.typeName
    qualifier := package.name
    dependency := package
    isPointer
    documentation := shape.documentation
    unit := unit }

/-- The built-in type of a simple shape. -/
def builtinType? : ShapeType → Option Symbol
  | .boolean => some (.reference "bool")
  | .string => some (.reference "string")
  | .byte => some (.reference "int8")
  | .short => some (.reference "int16")
  | .integer => some (.reference "int32")
  | .long => some (.reference "int64")
  | .float => some (.reference "float32")
  | .double => some (.reference "float64")
  | .blob => some (.value "[]byte")
  | .timestamp => some (.reference "Time" Dependency.time)
  | .bigInteger => some (.reference "Int" Dependency.mathBig)
  | .bigDecimal => some (.reference "Float" Dependency.mathBig)
  | .document => some (.value "interface\x7b\x7d")
  | _ => none

/-- The symbol of an operation, whose name must not be one of the client's own. -/
def operationSymbol (modulePath : String) (shape : Shape) : Except Failure Symbol :=
  let name := shape.typeName
  if Name.clientNames.contains name then
    .error (.collision {
      identifier := name
      first := "service client"
      second := shape.id.text
      scope := modulePath })
  else
    .ok (.named {
      name
      documentation := shape.documentation
      unit := "api_op_" ++ name ++ ".go" })

/-- The symbol of a shape other than a list, set or map. -/
def ownSymbol? (modulePath : String) (shape : Shape) : Option (Except Failure Symbol) :=
  match shape.type with
  | .service =>
    some (.ok (.named {
      name := "Client"
      isPointer := true
      documentation := shape.documentation
      unit := clientUnit }))
  | .operation => some (shape.operationSymbol modulePath)
  | .resource =>
    some (.ok (.named { name := shape.typeName, documentation := shape.documentation }))
  | .struct | .union =>
    some (.ok (shape.declaredType modulePath (if shape.isError then errorsUnit else typesUnit) true))
  | type =>
    -- An enum is a text with a trait, so it has to be told from plain texts here.
    if shape.isEnum then some (.ok (shape.declaredType modulePath enumsUnit false))
    else (builtinType? type).map .ok

/-- The shape of the elements of a list, set or map. -/
def element (model : Model) (shape : Shape) : Except Failure Shape :=
  match shape.member? (if shape.type == .map then "value" else "member") with
  | some member => model.expect member.target
  | none => .error (.malformed .part)

end Shape

namespace Model

/-- The symbol of a shape whose elements are nested at most as deep as the bound. -/
def symbolWithin (model : Model) (modulePath : String) : Nat → Shape → Except Failure Symbol
  | 0, _ => .error (.malformed .endless)
  | depth + 1, shape =>
    match shape.ownSymbol? modulePath with
    | some symbol => symbol
    | none => do
      let element ← model.symbolWithin modulePath depth (← shape.element model)
      return if shape.type == .map then .map element else .slice element

/-- The symbol of a shape. -/
def symbolOf (model : Model) (modulePath : String) (shape : Shape) : Except Failure Symbol :=
  model.symbolWithin modulePath (model.size + 1) shape

end Model

/-- The name of the field for a member. -/
def Member.fieldName (member : Member) : String :=
  Name.sanitizer.sanitize member.name

end ClientGen
