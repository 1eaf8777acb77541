import ClientGen.Declaration.Basic
import ClientGen.Shape.EnumValue

/-!
# Declaration of an enum

An enum is declared as a text type, a constant for every value, and a method that lists the values.
-/

namespace ClientGen.Declaration

/-- The constant for a value. -/
def enumConstant (context : Context) (symbol : Symbol) (label : String) (value : EnumValue) :
    List Step :=
  context.docs value.documentation
    ++ [.line [label, " ", .name symbol, " = ", .quoted value.value]]

/-- The method that lists the values. -/
def enumMethod (context : Context) (symbol : Symbol) (values : List EnumValue) : List Step :=
  let listed := values.map fun value => Step.line [.quoted value.value, ","]
  context.comment ("Values returns all known values for " ++ symbol.name
      ++ ". Note that this can be expanded in the future, and so it is only as up to date as the "
      ++ "client.")
    ++ [.block (.parts ["func (", .name symbol, ") Values() []", .name symbol, " \x7b"]) "\x7d"
          [.block (.parts ["return []", .name symbol, "\x7b"]) "\x7d" listed],
        .blank]

/-- The type, its constants and its method. -/
def enumSteps (context : Context) (symbol : Symbol) (labels : List (String × EnumValue)) :
    List Step :=
  context.docs symbol.documentation
    ++ [.line ["type ", .name symbol, " string"], .blank,
        .line ["// Enum values for ", .name symbol],
        .block "const (" ")"
          (labels.flatMap fun labelled => enumConstant context symbol labelled.1 labelled.2),
        .blank]
    ++ enumMethod context symbol (labels.map Prod.snd)

/-- The declaration of an enum. -/
def ofEnum (context : Context) (shape : Shape) : Declaration :=
  withSymbol context shape fun symbol =>
    withValue (shape.enumValues.bind (EnumValue.labels symbol.name)) fun labels =>
      ofSteps (enumSteps context symbol labels)

end ClientGen.Declaration
