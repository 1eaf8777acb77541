import ClientGen.Failure
import ClientGen.Symbol.Basic

/-!
# Symbol tables

A symbol table remembers the symbol of every shape that was asked for, and who claims which name in
which scope.  Two owners cannot claim one name; a symbol that some file declares claims its name for
its shape.  A step that fails gives no new table, so the old one stays in use.
-/

namespace ClientGen

/-- The symbols of shapes, and the owners of the names in scopes. -/
structure SymbolTable where
  symbols : List (ShapeId × Symbol) := []
  claims : List ((String × String) × String) := []
deriving Inhabited

namespace SymbolTable

/-- The number of shapes with a symbol. -/
def size (table : SymbolTable) : Nat :=
  table.symbols.length

/-- The owner of a name in a scope. -/
def owner? (table : SymbolTable) (scope name : String) : Option String :=
  table.claims.lookup (scope, name)

/-- Claims a name in a scope; a second claim of one owner changes nothing. -/
def claim (table : SymbolTable) (scope name owner : String) : Except Collision SymbolTable :=
  match table.owner? scope name with
  | none => .ok { table with claims := table.claims ++ [((scope, name), owner)] }
  | some first =>
    -- Owners are told apart by their texts only.
    if first == owner then .ok table
    else .error { identifier := name, first, second := owner, scope }

/-- Claims the name of a symbol that some file declares for its shape. -/
def declare (table : SymbolTable) (symbol : Symbol) (owner : ShapeId) :
    Except Collision SymbolTable :=
  if symbol.isDeclared then table.claim symbol.scope symbol.name owner.text else .ok table

/-- The symbol of a shape, which is found once and then remembered. -/
def resolve (symbolOf : Shape → Except Failure Symbol) (table : SymbolTable) (shape : Shape) :
    Except Failure (Symbol × SymbolTable) :=
  match table.symbols.lookup shape.id with
  | some symbol => .ok (symbol, table)
  | none => do
    let symbol ← symbolOf shape
    let table ← (table.declare symbol shape.id).mapError .collision
    return (symbol, { table with symbols := table.symbols ++ [(shape.id, symbol)] })

end SymbolTable

end ClientGen
