import ClientGen.Integration.Basic
import ClientGen.Settings.Basic
import ClientGen.Shape.Protocol
import ClientGen.Symbol.OfShape
import ClientGen.Symbol.Table
import ClientGen.Writer.Step

/-!
# Declarations

A declaration turns a shape into steps of writing.  Symbols are looked up in the table of the run,
which remembers them, so a declaration takes the table and gives it back.  A failure is the last
step, so that all steps before it are still performed.
-/

namespace ClientGen

/-- What a declaration may use: the model, the settings, and what was chosen for the run. -/
structure Context where
  model : Model
  settings : Settings
  service : Shape
  integrations : List Integration := []
  transport : Option Transport := some .http

/-- Steps that depend on the symbols found so far, and the symbols found after them. -/
abbrev Declaration := SymbolTable → List Step × SymbolTable

namespace Context

/-- Looks up the symbol of a shape. -/
def resolve (context : Context) (table : SymbolTable) (shape : Shape) :
    Except Failure (Symbol × SymbolTable) :=
  table.resolve (context.model.symbolOf context.settings.modulePath) shape

/-- Documentation, if the settings want it. -/
def docs (context : Context) (documentation : Json) : List Step :=
  if context.settings.hasComments then [.docs documentation] else []

/-- Documentation of the generator's own, if the settings want it. -/
def comment (context : Context) (text : String) : List Step :=
  context.docs (.str text)

/-- The integrations that count for the service of the run. -/
def matching (context : Context) : List Integration :=
  context.integrations.filter (·.applies context.service)

end Context

namespace Declaration

/-- Steps that need no symbol. -/
def ofSteps (steps : List Step) : Declaration :=
  fun table => (steps, table)

/-- Nothing but a failure. -/
def ofFailure (failure : Failure) : Declaration :=
  ofSteps [.fail failure]

/-- Goes on with a value, or fails. -/
def withValue {α : Type} (value : Except Failure α) (rest : α → Declaration) : Declaration :=
  match value with
  | .ok value => rest value
  | .error failure => ofFailure failure

/-- Goes on with the symbol of a shape, or fails. -/
def withSymbol (context : Context) (shape : Shape) (rest : Symbol → Declaration) : Declaration :=
  fun table =>
    match context.resolve table shape with
    | .ok (symbol, table) => rest symbol table
    | .error failure => ofFailure failure table

end Declaration

end ClientGen
