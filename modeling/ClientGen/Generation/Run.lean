import ClientGen.Declaration.Middleware
import ClientGen.Generation.Generator
import ClientGen.Generation.Manifest
import ClientGen.Generation.Units
import ClientGen.Integration.Registry
import ClientGen.Model.Closure

/-!
# A run of the generator

A run generates the client of one service in four stages: it chooses the service and its protocol
(`choose`), reserves every identifier (`reserve`), writes the units (`Emission`), and lays out the
files (`finish`).  Main definition: `Run.of`.

A run that fails has no files, but it still shows which units had been started.
-/

namespace ClientGen

/-- What a run leaves behind. -/
structure Run where
  /-- The integrations after the run; closed once the protocol is chosen. -/
  integrations : IntegrationRegistry
  /-- The units that were written to. -/
  units : Units
  /-- The files, or why there are none. -/
  result : Except Failure Manifest

/-- The file of the package's documentation. -/
def docUnit : String := "doc.go"

/-- The file of the module's manifest. -/
def moduleUnit : String := "go.mod"

/-- The file of the middleware that writes requests. -/
def serializersUnit : String := "serializers.go"

/-- The file of the middleware that reads responses. -/
def deserializersUnit : String := "deserializers.go"

/-! ## Choosing -/

namespace Run

/-- The service of a run and the protocol that it uses. -/
def choose (model : Model) (settings : Settings) : Except Failure (Shape × Option String) := do
  let service ← model.expectWritten settings.service.text
  if service.type != .service then throw (.model (.notAService service.id))
  return (service, ← service.chooseProtocol model settings.protocol)

/-- The shapes that a run declares: those that can be reached from the service, built-in ones left
out. -/
def shapes (context : Context) : Except Failure (List Shape) := do
  return (← context.model.closure context.service.id).filter fun shape => !shape.isBuiltin

/-! ## Reserving -/

/-- Claims the constants of an enum. -/
def claimLabels (shape : Shape) (symbol : Symbol) (table : SymbolTable)
    (labels : List (String × EnumValue)) : Except Collision SymbolTable :=
  labels.foldlM (fun table labelled =>
    table.claim symbol.scope labelled.1 (shape.id.text ++ " " ++ labelled.2.owner)) table

/-- Finds the symbol of a shape and checks the names that its declaration contains. -/
def reserveShape (context : Context) (table : SymbolTable) (shape : Shape) :
    Except Failure SymbolTable := do
  let (symbol, table) ← context.resolve table shape
  if shape.isEnum then
    let labels ← EnumValue.labels symbol.name (← shape.enumValues)
    (claimLabels shape symbol table labels).mapError .collision
  else if shape.isAggregate then
    -- Fields are names inside the struct, so they are checked here but not claimed.
    let _ ← shape.fields.mapError .collision
    return table
  else return table

/-- Decides every identifier of a run. -/
def reserve (context : Context) (shapes : List Shape) : Except Failure SymbolTable :=
  shapes.foldlM (reserveShape context) {}

end Run

/-! ## Writing -/

/-- The state of a run while units are written. -/
structure Emission where
  units : Units
  table : SymbolTable
  failure : Option Failure := none

namespace Emission

/-- Goes on unless something failed. -/
def andThen (emission : Emission) (next : Emission → Emission) : Emission :=
  match emission.failure with
  | none => next emission
  | some _ => emission

/-- Goes on with a value, or fails. -/
def withValue {α : Type} (emission : Emission) (value : Except Failure α)
    (next : α → Emission → Emission) : Emission :=
  match value with
  | .ok value => next value emission
  | .error failure => { emission with failure := failure }

/-- Goes through a list until something fails. -/
def forEach {α : Type} (emission : Emission) (values : List α) (next : α → Emission → Emission) :
    Emission :=
  values.foldl (fun emission value => emission.andThen (next value)) emission

/-- Performs steps in a unit. -/
def perform (path : String) (steps : List Step) (emission : Emission) : Emission :=
  let (units, failure) := emission.units.perform path steps
  { emission with units, failure }

/-- Goes on with the symbol of a shape, or fails. -/
def withSymbol (context : Context) (shape : Shape) (next : Symbol → Emission → Emission)
    (emission : Emission) : Emission :=
  match context.resolve emission.table shape with
  | .ok (symbol, table) => next symbol { emission with table }
  | .error failure => { emission with failure := failure }

/-- Declares a shape in the unit of its symbol. -/
def declare (context : Context) (generator : Generator) (shape : Shape) : Emission → Emission :=
  withSymbol context shape fun symbol emission =>
    emission.withValue (Units.pathOf symbol) fun path emission =>
      let (steps, table) := generator.declare context shape emission.table
      perform path steps { emission with table }

/-- Declares the shapes that have a generator. -/
def declareAll (context : Context) (generators : GeneratorRegistry) (shapes : List Shape)
    (emission : Emission) : Emission :=
  emission.forEach shapes fun shape emission =>
    match generators.forShape? shape with
    | some generator => declare context generator shape emission
    | none => emission

/-- The bodies for a protocol: those of the first integration that has some. -/
def bodies? (context : Context) (protocol : String) : Option ProtocolBodies :=
  (context.matching.filterMap (·.bodies)).find? (·.protocol == protocol)

/-- Declares a middleware with the body that its handler is given for an operation. -/
def writeMiddleware (path : String) (middleware : Except Failure Middleware) (operation : Shape)
    (body : HandlerBody) (emission : Emission) : Emission :=
  emission.withValue middleware fun middleware =>
    perform path (middleware.steps [] (body.steps operation middleware))

/-- Declares the two middlewares of an operation. -/
def writeOperation (context : Context) (bodies : ProtocolBodies) (operation : Shape) :
    Emission → Emission :=
  withSymbol context operation fun symbol emission =>
    let serializer :=
      Middleware.ofStage .serialize (some (bodies.name ++ "_serializeOp" ++ symbol.name))
    let deserializer :=
      Middleware.ofStage .deserialize (some (bodies.name ++ "_deserializeOp" ++ symbol.name))
    (writeMiddleware serializersUnit serializer operation bodies.serialize emission).andThen
      (writeMiddleware deserializersUnit deserializer operation bodies.deserialize)

/-- Declares the middleware of a protocol for which there are bodies. -/
def writeProtocol (context : Context) (protocol : Option String) (shapes : List Shape)
    (emission : Emission) : Emission :=
  match protocol.bind (bodies? context) with
  | none => emission
  | some bodies =>
    emission.forEach (shapes.filter (·.type == .operation)) (writeOperation context bodies)

/-- The documentation of the package. -/
def packageText (context : Context) : String :=
  let package := context.settings.packageName.text
  let found := (context.service.trait? Trait.title).getD .null
  let title := if found.truthy then found.text else package
  let text := "Package " ++ package ++ " provides the API client, operations, and parameter types "
    ++ "for " ++ title ++ "."
  if context.service.documentation.truthy then
    text ++ "\n\n" ++ context.service.documentation.text
  else text

/-- Documents the package. -/
def writePackageDocs (context : Context) : Emission → Emission :=
  perform docUnit [.packageDocs (.str (packageText context))]

/-- Writes all units. -/
def of (context : Context) (generators : GeneratorRegistry) (protocol : Option String)
    (shapes : List Shape) (start : Emission) : Emission :=
  ((declareAll context generators shapes start).andThen
    (writeProtocol context protocol shapes)).andThen
    (writePackageDocs context)

end Emission

/-! ## Finishing -/

namespace Run

/-- The modules that units require, by name, each with the first dependency that needs it. -/
def requirements (units : List Writer) : List Dependency :=
  -- Packages of the standard library, and of the module itself, come without a provider.
  let needed := (units.flatMap fun writer => writer.imports.list).filterMap fun dependency =>
    match dependency.provider, dependency.version with
    | some provider, some version =>
      if provider.isEmpty || version.isEmpty then none else some (provider, dependency)
    | _, _ => none
  let first := needed.foldl (fun found entry => Entries.putNew entry.1 entry.2 found) []
  (first.mergeSort fun a b => decide (a.1 ≤ b.1)).map Prod.snd

/-- Lays out the files. -/
def finish (settings : Settings) (units : Units) : Except Failure Manifest := do
  let written := units.sorted
  let manifest ← Manifest.ofFiles (written.map fun unit => (unit.1, unit.2.toText))
  manifest.add moduleUnit (Layout.moduleManifest settings.modulePath settings.goVersion.text
    (requirements (written.map Prod.snd)))

/-- No units yet. -/
def noUnits (settings : Settings) (indentText : String := "\t") : Units where
  modulePath := settings.modulePath
  packageName := settings.packageName.text
  indentText := indentText

/-- What writing can start from: the shapes to declare, and an empty state. -/
def start (context : Context) : Except Failure (List Shape × Emission) := do
  let shapes ← shapes context
  let table ← reserve context shapes
  return (shapes, { units := noUnits context.settings (← context.settings.indent), table })

/-- The run for the service of some settings. -/
def of (model : Model) (settings : Settings) (integrations : IntegrationRegistry)
    (generators : GeneratorRegistry := .standard) : Run :=
  match choose model settings with
  | .error failure => { integrations, units := noUnits settings, result := .error failure }
  | .ok (service, protocol) =>
    -- From here on nothing can be registered, even if the run fails later.
    let closed := integrations.close
    let context : Context :=
      { model, settings, service, integrations := closed.integrations, transport := some .http }
    match start context with
    | .error failure =>
      { integrations := closed, units := noUnits settings, result := .error failure }
    | .ok (shapes, emission) =>
      let emission := Emission.of context generators protocol shapes emission
      {
        integrations := closed
        units := emission.units
        result := match emission.failure with
          | some failure => .error failure
          | none => finish settings emission.units }

end Run

end ClientGen
