import ClientGen.Declaration.Client
import ClientGen.Declaration.Enum
import ClientGen.Declaration.Structure

/-!
# Generators

A generator declares the shapes of some kind.  The generators of a run are registered under names
that are compared without regard to case; a shape goes to the first one that takes it.  Replacing a
generator keeps its place.
-/

namespace ClientGen

/-- What declares shapes of some kind. -/
inductive Generator where
  | service
  | enum
  | struct
  /-- Writes a remark for the shapes of one type. -/
  | remark (type : ShapeType)
deriving DecidableEq, Repr

namespace Generator

/-- Whether the generator takes a shape. -/
def takes (shape : Shape) : Generator → Bool
  | service => shape.type == .service
  | enum => shape.isEnum
  | struct => shape.isAggregate
  | remark type => shape.type == type

/-- A remark that a shape of the name exists. -/
def remarkOn (context : Context) (shape : Shape) : Declaration := fun table =>
  let (steps, table) := Declaration.withSymbol context shape (fun symbol =>
    .ofSteps [.line ["// stub ", .name symbol], .blank]) table
  (context.docs shape.documentation ++ steps, table)

/-- The declaration of a shape. -/
def declare (context : Context) (shape : Shape) : Generator → Declaration
  | service => Declaration.ofService context shape
  | enum => Declaration.ofEnum context shape
  | struct => Declaration.ofStruct context shape
  | remark _ => remarkOn context shape

end Generator

/-- Generators by name, in the order in which they are asked. -/
structure GeneratorRegistry where
  entries : List (String × Generator) := []

namespace GeneratorRegistry

/-- The form of a name that is compared. -/
def key (name : String) : String :=
  String.ofList (Text.toLower name.toList)

/-- Registers a generator; `none` stands for something that is none.  A name that is taken can only
be registered to replace its generator. -/
def register (registry : GeneratorRegistry) (name : String) (generator : Option Generator)
    (replace : Bool := false) : Except RegistryFault GeneratorRegistry :=
  match generator with
  | none => .error (.notAGenerator name)
  | some generator =>
    if Entries.has (key name) registry.entries && !replace then .error (.generatorTaken name)
    else .ok { entries := Entries.put (key name) generator registry.entries }

/-- The names, in order. -/
def names (registry : GeneratorRegistry) : List String :=
  Entries.keys registry.entries

/-- The generator of a name. -/
def find (registry : GeneratorRegistry) (name : String) : Except RegistryFault Generator :=
  match registry.entries.lookup (key name) with
  | some generator => .ok generator
  | none => .error (.generatorUnknown name registry.names)

/-- The first generator that takes a shape. -/
def forShape? (registry : GeneratorRegistry) (shape : Shape) : Option Generator :=
  (registry.entries.find? fun entry => entry.2.takes shape).map Prod.snd

/-- The generators of an ordinary run. -/
def standard : GeneratorRegistry where
  entries := [("service", .service), ("enum", .enum), ("structure", .struct)]

end GeneratorRegistry

end ClientGen
