import ClientGen.Dependency.Basic
import ClientGen.Json.Basic

/-!
# Symbols

A symbol is what code refers to a type, function or constant by: a name, the package that it must be
qualified with, and whether values of it are held by reference.  Slices and maps are symbols
composed of the symbol of their elements.  Main definitions: `Symbol.fullName` and `Symbol.pointer`,
the two ways of writing a symbol, `Symbol.dependencies`, the packages that writing it needs, and
`Symbol.relativeTo`, the symbol as seen from inside a package.
-/

namespace ClientGen

/-- What a composite symbol makes of its elements. -/
inductive Container where
  | slice
  | map (key : String)
deriving DecidableEq, Repr, Inhabited

/-- The type expression in front of the element's. -/
def Container.text : Container → String
  | slice => "[]"
  | map key => "map[" ++ key ++ "]"

/-- A symbol with a name of its own; `unit` is the file that declares it. -/
structure NamedSymbol where
  name : String
  qualifier : String := ""
  dependency : Option Dependency := none
  isPointer : Bool := false
  documentation : Json := .null
  unit : Option String := none
deriving Inhabited

/-- A named symbol, or a slice or map of another one. -/
inductive Symbol where
  | named (identity : NamedSymbol)
  | composite (container : Container) (element : Symbol) (isPointer : Bool)
deriving Inhabited

namespace Symbol

/-- A symbol that is held by value, in the package of a dependency if one is given. -/
def value (name : String) (dependency : Option Dependency := none) : Symbol :=
  .named { name, qualifier := (dependency.map (·.name)).getD "", dependency }

/-- A symbol that is held by reference, in the package of a dependency if one is given. -/
def reference (name : String) (dependency : Option Dependency := none) : Symbol :=
  .named { name, qualifier := (dependency.map (·.name)).getD "", dependency, isPointer := true }

/-- The slices of an element. -/
def slice (element : Symbol) : Symbol :=
  .composite .slice element false

/-- The maps to an element. -/
def map (element : Symbol) (key : String := "string") : Symbol :=
  .composite (.map key) element false

/-! ## Parts -/

/-- The name without the package; that of a composite contains its element's name. -/
def name : Symbol → String
  | named identity => identity.name
  | composite container element _ => container.text ++ element.name

/-- The name of the package that the symbol is qualified with. -/
def qualifier : Symbol → String
  | named identity => identity.qualifier
  | composite .. => ""

/-- The package of the symbol itself. -/
def dependency? : Symbol → Option Dependency
  | named identity => identity.dependency
  | composite .. => none

/-- Whether values are held by reference. -/
def isPointer : Symbol → Bool
  | named identity => identity.isPointer
  | composite _ _ isPointer => isPointer

/-- The documentation; null if there is none. -/
def documentation : Symbol → Json
  | named identity => identity.documentation
  | composite .. => .null

/-- The file that declares the symbol. -/
def unit? : Symbol → Option String
  | named identity => identity.unit
  | composite .. => none

/-- Whether some file declares the symbol. -/
def isDeclared (symbol : Symbol) : Bool :=
  symbol.unit?.isSome

/-- The type expression in front of the element's; empty for a named symbol. -/
def containerText : Symbol → String
  | named _ => ""
  | composite container _ _ => container.text

/-- The symbols that the symbol is composed of. -/
def references : Symbol → List Symbol
  | named _ => []
  | composite _ element _ => [element]

/-- The packages of the symbol and of its elements. -/
def dependencies : Symbol → List Dependency
  | named identity => identity.dependency.toList
  | composite _ element _ => element.dependencies

/-- The symbol, held by reference or not. -/
def withPointer (isPointer : Bool) : Symbol → Symbol
  | named identity => named { identity with isPointer }
  | composite container element _ => composite container element isPointer

/-- The symbol as code in the package of a path writes it: that package is not named. -/
def relativeTo (path : Option String) : Symbol → Symbol
  | named identity =>
    match identity.dependency, path with
    | some dependency, some path =>
      if dependency.path == path then named { identity with qualifier := "" }
      else named identity
    | _, _ => named identity
  | composite container element isPointer =>
    composite container (element.relativeTo path) isPointer

/-- The place in which the name must be unique: the package, or else the directory of the file that
declares the symbol. -/
def scope (symbol : Symbol) : String :=
  match symbol.dependency? with
  | some dependency => dependency.path
  | none =>
    match Text.cutLast? '/' (symbol.unit?.getD "").toList with
    | some (directory, _) => String.ofList directory
    | none => "."

/-! ## Text -/

/-- The name of a named symbol with the package in front of it. -/
def qualified (identity : NamedSymbol) : String :=
  if identity.qualifier.isEmpty then identity.name
  else identity.qualifier ++ "." ++ identity.name

/-- The type expression of a value. -/
def fullName : Symbol → String
  | named identity => qualified identity
  | composite container element _ =>
    container.text ++ (if element.isPointer then "*" ++ element.fullName else element.fullName)

/-- The type expression of what holds a value: a pointer if values are held by reference. -/
def pointer (symbol : Symbol) : String :=
  if symbol.isPointer then "*" ++ symbol.fullName else symbol.fullName

theorem fullName_composite (container : Container) (element : Symbol) (isPointer : Bool) :
    (composite container element isPointer).fullName = container.text ++ element.pointer := by
  simp only [fullName, pointer]

theorem dependencies_relativeTo (path : Option String) (symbol : Symbol) :
    (symbol.relativeTo path).dependencies = symbol.dependencies := by
  induction symbol with
  | named identity =>
    simp only [relativeTo]
    split
    · split <;> rfl
    · rfl
  | composite container element isPointer ih => simpa [relativeTo, dependencies] using ih

/-- The symbol with all its parts, as it is shown where a value is written as text. -/
def shown : Symbol → String
  | named identity =>
    "Symbol(name=" ++ Text.shown identity.name ++ ", namespace=" ++ Text.shown identity.qualifier
      ++ ", dependency=" ++ (identity.dependency.map Dependency.shown).getD "None"
      ++ ", pointable=" ++ (Json.bool identity.isPointer).shown
      ++ ", documentation=" ++ identity.documentation.shown
      ++ ", definition_file=" ++ Dependency.shownOptional identity.unit
      ++ ", references=(), container='')"
  | composite container element isPointer =>
    "Symbol(name=" ++ Text.shown (container.text ++ element.name)
      ++ ", namespace='', dependency=None, pointable=" ++ (Json.bool isPointer).shown
      ++ ", documentation=None, definition_file=None, references=(" ++ element.shown
      ++ ",), container=" ++ Text.shown container.text ++ ")"

end Symbol

end ClientGen
