import ClientGen.Text.Notation
import ClientGen.Text.Split

/-!
# Dependencies

A dependency is an importable package together with the name by which code refers to it.  The name
is the last element of the import path unless another one is chosen, and only a chosen one is
written into the import line.
-/

namespace ClientGen

/-- Where a package comes from. -/
inductive Origin where
  /-- The standard library. -/
  | standard
  /-- A versioned module of somebody else. -/
  | foreign
  /-- The module that is being generated. -/
  | own
deriving DecidableEq, Repr, Inhabited

namespace Origin

/-- Every origin, in the order in which import blocks list them. -/
def all : List Origin :=
  [standard, foreign, own]

/-- The place of an origin in import blocks. -/
def rank : Origin → Nat
  | standard => 0
  | foreign => 1
  | own => 2

/-- The word for an origin. -/
def word : Origin → String
  | standard => "stdlib"
  | foreign => "third_party"
  | own => "local"

/-- The origin that a word stands for. -/
def ofWord? (word : String) : Option Origin :=
  all.find? (·.word == word)

end Origin

/-- A package, the name by which code refers to it, and the module and version that provide it if
that is known. -/
structure Dependency where
  path : String
  name : String
  origin : Origin := .standard
  provider : Option String := none
  version : Option String := none
deriving DecidableEq, Repr, Inhabited

namespace Dependency

/-- The last element of an import path. -/
def lastElement (path : String) : String :=
  let cs := Text.trimEnd (· == '/') path.toList
  match Text.cutLast? '/' cs with
  | some (_, last) => String.ofList last
  | none => String.ofList cs

/-- A dependency; an empty name stands for the default one. -/
def of (path : String) (name : String := "") (origin : Origin := .standard)
    (provider version : Option String := none) : Dependency where
  path := path
  name := if name.isEmpty then lastElement path else name
  origin := origin
  provider := provider
  version := version

/-- A package of the standard library. -/
def standard (path : String) : Dependency :=
  of path

/-- A package of the module that is being generated. -/
def own (path : String) : Dependency :=
  of path "" .own

/-- The name that a dependency has if no other one is chosen. -/
def defaultName (dependency : Dependency) : String :=
  lastElement dependency.path

/-- Whether the import line must say the name. -/
def isRenamed (dependency : Dependency) : Bool :=
  dependency.name != dependency.defaultName

/-- The line of an import block. -/
def importLine (dependency : Dependency) : String :=
  let path := Text.quoteAscii dependency.path
  if dependency.isRenamed then dependency.name ++ " " ++ path else path

/-- What tells two dependencies of a unit apart. -/
def key (dependency : Dependency) : String × String :=
  (dependency.path, dependency.name)

/-- The order of dependencies by path, then by name. -/
def le (a b : Dependency) : Bool :=
  decide (a.path < b.path) || (a.path == b.path && decide (a.name ≤ b.name))

/-- A text that may be absent, as messages show it. -/
def shownOptional : Option String → String
  | some text => Text.shown text
  | none => "None"

/-- The dependency with all its parts, as it is shown where a value is written as text. -/
def shown (dependency : Dependency) : String :=
  let origin := dependency.origin.word
  "Dependency(path=" ++ Text.shown dependency.path ++ ", alias=" ++ Text.shown dependency.name
    ++ ", type=<DependencyType." ++ String.ofList (origin.toList.map Char.toUpper) ++ ": "
    ++ Text.shown origin ++ ">, module=" ++ shownOptional dependency.provider ++ ", version="
    ++ shownOptional dependency.version ++ ")"

end Dependency

end ClientGen
