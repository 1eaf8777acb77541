import ClientGen.Declaration.Basic

/-!
# Declaration of a structure

Structures and unions are declared as struct types with a field for every member.  An error has the
methods of the runtime's error interface besides, which its fields must not be named like.
-/

namespace ClientGen

namespace Shape

/-- The methods that every error declares. -/
def errorMethods : List String :=
  ["Error", "ErrorMessage", "ErrorCode", "ErrorFault"]

/-- The names that fields cannot have, and what they name. -/
def takenFields (shape : Shape) : List (String × String) :=
  if shape.isError then
    errorMethods.map fun method => (method, "method " ++ shape.name ++ "." ++ method)
  else []

/-- Fields for members, given the names that are taken and what took them. -/
def fieldsFrom (shape : Shape) (taken : List (String × String)) :
    List Member → Except Collision (List (String × Member))
  | [] => .ok []
  | member :: rest =>
    match taken.lookup member.fieldName with
    | some first =>
      .error {
        identifier := member.fieldName
        first
        second := member.id.text
        scope := shape.name }
    | none => do
      return (member.fieldName, member)
        :: (← fieldsFrom shape (taken ++ [(member.fieldName, member.id.text)]) rest)

/-- The fields of the struct for a shape, one for every member, all names different. -/
def fields (shape : Shape) : Except Collision (List (String × Member)) :=
  shape.fieldsFrom shape.takenFields shape.members

end Shape

namespace Declaration

/-- A field of a struct with the symbol of its type. -/
structure Field where
  name : String
  type : Symbol
  documentation : Json := .null

/-- Fields whose types were found, and what stopped the search if something did. -/
structure Fields where
  found : List Field := []
  stop : Option Failure := none

/-- The symbol of the type of a member. -/
def memberSymbol (context : Context) (table : SymbolTable) (member : Member) :
    Except Failure (Symbol × SymbolTable) := do
  context.resolve table (← context.model.expect member.target)

/-- The types of fields, found one after another. -/
def typed (context : Context) (table : SymbolTable) :
    List (String × Member) → Fields × SymbolTable
  | [] => ({}, table)
  | (name, member) :: rest =>
    match memberSymbol context table member with
    | .error failure => ({ stop := failure }, table)
    | .ok (symbol, table) =>
      let (fields, table) := typed context table rest
      let field := { name, type := symbol, documentation := member.documentation }
      ({ fields with found := field :: fields.found }, table)

/-- The lines of a field; an empty line parts a documented field from one before it. -/
def fieldSteps (context : Context) (isFirst : Bool) (field : Field) : List Step :=
  (if !isFirst && context.settings.hasComments && field.documentation.truthy then [.blank] else [])
    ++ context.docs field.documentation
    ++ [.line [field.name, " ", .pointer field.type]]

/-- The body of a struct. -/
def fieldsSteps (context : Context) (fields : Fields) : List Step :=
  (match fields.found with
    | [] => []
    | first :: rest => fieldSteps context true first ++ rest.flatMap (fieldSteps context false))
  ++ (fields.stop.map Step.fail).toList

/-- Whose fault an error is. -/
def faultSymbol (shape : Shape) : Except Failure Symbol :=
  match (shape.trait? Trait.error).getD .null with
  | .str "client" => .ok .faultClient
  | .str "server" => .ok .faultServer
  | value => if value.isKey then .ok .faultUnknown else .error (.malformed .kind)

/-- The field that holds the message of an error: the first member of that name, in any case of
letters, that is a text. -/
def messageField (model : Model) : List Member → Except Failure (Option String)
  | [] => .ok none
  | member :: rest =>
    if Text.toLower member.name.toList == "message".toList then do
      let target ← model.expect member.target
      if target.type == .string && !target.isEnum then return some member.fieldName
      else messageField model rest
    else messageField model rest

/-- The method that gives the message of an error. -/
def messageMethod (symbol : Symbol) : Option String → Step
  | none =>
    .line ["func (e ", .pointer symbol, ") ErrorMessage() string \x7b return \"\" \x7d"]
  | some field =>
    .block (.parts ["func (e ", .pointer symbol, ") ErrorMessage() string \x7b"]) "\x7d"
      [.block (.parts ["if e.", field, " == nil \x7b"]) "\x7d" [.line ["return \"\""]],
        .line ["return *e.", field]]

/-- The methods of an error. -/
def errorSteps (shape : Shape) (symbol fault : Symbol) (message : Option String) : List Step :=
  [.line ["func (e ", .pointer symbol, ") Error() string \x7b\n\treturn ", .full .sprintf,
      "(\"%s: %s\", e.ErrorCode(), e.ErrorMessage())\n\x7d"],
    .blank,
    messageMethod symbol message,
    .blank,
    .line ["func (e ", .pointer symbol, ") ErrorCode() string \x7b return ", .quoted shape.name,
      " \x7d"],
    .blank,
    .line ["func (e ", .pointer symbol, ") ErrorFault() ", .full .errorFaultType,
      " \x7b return ", .full fault, " \x7d"],
    .blank]

/-- The methods of an error, or why it has none. -/
def errorMethods (context : Context) (shape : Shape) (symbol : Symbol) : List Step :=
  let steps := do
    let fault ← faultSymbol shape
    return errorSteps shape symbol fault (← messageField context.model shape.members)
  match steps with
  | .ok steps => steps
  | .error failure => [.fail failure]

/-- The struct and, for an error, its methods. -/
def structSteps (context : Context) (shape : Shape) (symbol : Symbol) (body : List Step) :
    List Step :=
  context.docs symbol.documentation
    ++ (if shape.type == .union then
          context.comment "Only one member of this union may be set."
        else [])
    ++ [.block (.parts ["type ", .name symbol, " struct \x7b"]) "\x7d" body, .blank]
    ++ (if shape.isError then errorMethods context shape symbol else [])

/-- The declaration of a structure or union. -/
def ofStruct (context : Context) (shape : Shape) : Declaration :=
  withSymbol context shape fun symbol table =>
    match shape.fields with
    | .error clash => (structSteps context shape symbol [.fail (.collision clash)], table)
    | .ok named =>
      let (fields, table) := typed context table named
      (structSteps context shape symbol (fieldsSteps context fields), table)

end Declaration

end ClientGen
