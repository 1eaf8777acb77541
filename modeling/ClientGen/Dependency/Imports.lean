import ClientGen.Dependency.Basic

/-!
# Imports of a unit

The packages that a unit of code refers to, each once for every name that it goes by, without the
package that the unit belongs to.  They are listed by path and name (`Imports.list`), and grouped by
origin for the import block (`Imports.groups`).
-/

namespace ClientGen

/-- The packages that a unit refers to, in the order of their first use, and the path of its own
package. -/
structure Imports where
  ownPath : Option String := none
  used : List Dependency := []
deriving Repr, Inhabited

namespace Imports

/-- Whether a dependency is a use of the unit's own package. -/
def isOwn (imports : Imports) (dependency : Dependency) : Bool :=
  imports.ownPath.any fun path => !path.isEmpty && dependency.path == path

/-- Whether a dependency is among the imports. -/
def contains (imports : Imports) (dependency : Dependency) : Bool :=
  imports.used.any (·.key == dependency.key)

/-- Notes a use; the first of two uses with one path and name counts. -/
def track (imports : Imports) (dependency : Dependency) : Imports :=
  if imports.isOwn dependency || imports.contains dependency then imports
  else { imports with used := imports.used ++ [dependency] }

/-- Notes several uses. -/
def trackAll (imports : Imports) (dependencies : List Dependency) : Imports :=
  dependencies.foldl track imports

/-- The number of imports. -/
def size (imports : Imports) : Nat :=
  imports.used.length

/-- The imports by path and name. -/
def list (imports : Imports) : List Dependency :=
  imports.used.mergeSort Dependency.le

/-- The imports by origin; an origin without imports has no group. -/
def groups (imports : Imports) : List (List Dependency) :=
  (Origin.all.map fun origin => imports.list.filter (·.origin == origin)).filter (!·.isEmpty)

end Imports

end ClientGen
