import ClientGen.Proofs.Generation.Completion

/-!
# What a run generates

A successful run declares every shape of the closure of its service once, in the unit for shapes of
its kind and under the name of its symbol.  The declarations of a unit stand in ascending order of
shape ids, a unit is there exactly if it has something to declare, and besides the documentation of
the package, the manifest of the module and the middleware of a protocol there is nothing else.

## Main definitions

* `Outline.IsClosure` — the shapes of a run are those that its service reaches, in order.
* `Outline.DeclaresShapes` — the units declare these shapes and no others.
* `Outline.HasUnits` — the files are the units with declarations, and the two that are always there.

## Main results

* `Run.declares_closure` — a successful run has all three.
-/

namespace ClientGen

namespace Context

variable {context : Context} {shape : Shape}

/-- The name of a shape's symbol; empty for a shape without one. -/
def nameOf (context : Context) (shape : Shape) : String :=
  match context.symbolOf shape with
  | .ok symbol => symbol.name
  | .error _ => ""

theorem nameOf_of_isType (h : shape.isType = true) : context.nameOf shape = shape.typeName := by
  simp only [nameOf, symbolOf, Model.symbolOf_of_isType h, Shape.name_typeSymbol]

theorem nameOf_of_service (h : shape.type = .service) : context.nameOf shape = "Client" := by
  rw [nameOf, symbolOf, Model.symbolOf_of_service h]
  rfl

end Context

namespace Shape

/-- Whether the shape is a structure or union that stands for no error. -/
def isPlain (shape : Shape) : Bool :=
  shape.isAggregate && !shape.isError

end Shape

namespace Outline

/-- The shapes of the run are those that its service reaches, built-in ones left out, each once and
in ascending order of ids. -/
structure IsClosure (model : Model) (outline : Outline) : Prop where
  mem_iff : ∀ shape, shape ∈ outline.shapes ↔ shape.isBuiltin = false ∧
    ∃ id, model.Reaches outline.context.service.id id ∧ model.shape? id = some shape
  ascending : outline.shapes.Pairwise fun first second => first.id.Precedes second.id

/-- The units declare the shapes of the run, each under the name of its symbol, in their order. -/
structure DeclaresShapes (outline : Outline) : Prop where
  types : outline.declared typesUnit
    = (outline.shapes.filter (·.isPlain)).map fun shape => .struct (outline.context.nameOf shape)
  errors : outline.declared errorsUnit
    = (outline.shapes.filter (·.isError)).map fun shape => .struct (outline.context.nameOf shape)
  enums : outline.declared enumsUnit
    = (outline.shapes.filter (·.isEnum)).flatMap fun shape =>
      [.type (outline.context.nameOf shape), .constants (shape.constants.map Prod.fst)]
  client : outline.declared clientUnit
    = (outline.shapes.filter (·.type == .service)).flatMap fun shape =>
      Declaration.ofClient (outline.context.nameOf shape)

/-- A unit is there exactly if some shape is declared in it, the documentation of the package and
the manifest of the module always are, and only the middleware has units besides. -/
structure HasUnits (outline : Outline) (manifest : Manifest) : Prop where
  types : (manifest.get? typesUnit).isSome ↔ ∃ shape ∈ outline.shapes, shape.isPlain = true
  errors : (manifest.get? errorsUnit).isSome ↔ ∃ shape ∈ outline.shapes, shape.isError = true
  enums : (manifest.get? enumsUnit).isSome ↔ ∃ shape ∈ outline.shapes, shape.isEnum = true
  client : (manifest.get? clientUnit).isSome ↔ ∃ shape ∈ outline.shapes, shape.type = .service
  doc : (manifest.get? docUnit).isSome
  module : (manifest.get? moduleUnit).isSome
  others : ∀ path, (manifest.get? path).isSome →
    path ∈ [typesUnit, errorsUnit, enumsUnit, clientUnit, docUnit, moduleUnit, serializersUnit,
      deserializersUnit]

variable {model : Model} {settings : Settings} {integrations : IntegrationRegistry}
  {outline : Outline} {manifest : Manifest}

/-! ## Shapes -/

theorem Started.isClosure (h : outline.Started model settings integrations) :
    outline.IsClosure model := by
  obtain ⟨closure, hclosure, hfilter⟩ := bind_eq_ok.1 h.shapes
  have hmodel : outline.context.model = model := by rw [h.context]
  rw [hmodel] at hclosure
  have hshapes := pure_eq_ok.1 hfilter
  constructor
  · intro shape
    rw [← hshapes, List.mem_filter, Model.mem_closure_iff hclosure]
    simp [and_comm]
  · rw [← hshapes]
    exact (Model.pairwise_precedes_closure hclosure).filter _

/-! ## Declarations -/

theorem flatMap_of_ite {α β : Type} {xs : List α} {whole part : α → List β} {p : α → Bool}
    (h : ∀ x, whole x = if p x then part x else []) :
    xs.flatMap whole = (xs.filter p).flatMap part := by
  induction xs with
  | nil => rfl
  | cons x rest ih =>
    rw [List.flatMap_cons, List.filter_cons, h, ih]
    cases p x <;> simp

/-- Outside of the middleware, a unit declares what its shapes account for. -/
theorem declared_eq_flatMap (h : Outline.of model settings integrations = .ok outline)
    (hwritten : outline.Written manifest) (path : String) (hserializers : path ≠ serializersUnit)
    (hdeserializers : path ≠ deserializersUnit) :
    outline.declared path = outline.shapes.flatMap fun shape =>
      (shape.declarations.filter (·.1 == path)).map Prod.snd := by
  have hmiddleware : outline.middleware.filter (·.1 == path) = [] := by
    simp [middleware, Shape.middlewareDeclarations, List.filter_flatMap, Ne.symm hserializers,
      Ne.symm hdeserializers]
  rw [declared_eq, declarations_eq h hwritten, List.filter_append, hmiddleware, List.append_nil,
    List.filter_flatMap, List.map_flatMap]

/-- A shape accounts for declarations in the unit for its kind only. -/
theorem declarations_at (context : Context) (shape : Shape) :
    (shape.declarations.filter (·.1 == typesUnit)).map Prod.snd
        = (if shape.isPlain then [.struct (context.nameOf shape)] else []) ∧
      (shape.declarations.filter (·.1 == errorsUnit)).map Prod.snd
        = (if shape.isError then [.struct (context.nameOf shape)] else []) ∧
      (shape.declarations.filter (·.1 == enumsUnit)).map Prod.snd
        = (if shape.isEnum then
            [.type (context.nameOf shape), .constants (shape.constants.map Prod.fst)]
          else []) ∧
      (shape.declarations.filter (·.1 == clientUnit)).map Prod.snd
        = (if shape.type == .service then Declaration.ofClient (context.nameOf shape) else []) := by
  cases shape.kind with
  | service type enum aggregate error =>
    rw [Context.nameOf_of_service type]
    simp [Shape.declarations, type, enum, aggregate, error, Shape.isPlain, Declaration.ofClient,
      typesUnit, errorsUnit, enumsUnit, clientUnit]
  | enum type enum aggregate error =>
    rw [Context.nameOf_of_isType (by simp [Shape.isType, enum])]
    simp [Shape.declarations, type, enum, aggregate, error, Shape.isPlain, typesUnit, errorsUnit,
      enumsUnit, clientUnit]
  | error type enum aggregate error =>
    rw [Context.nameOf_of_isType (by simp [Shape.isType, aggregate])]
    simp [Shape.declarations, type, enum, aggregate, error, Shape.isPlain, Shape.typeUnit,
      typesUnit, errorsUnit, enumsUnit, clientUnit]
  | plain type enum aggregate error =>
    rw [Context.nameOf_of_isType (by simp [Shape.isType, aggregate])]
    simp [Shape.declarations, type, enum, aggregate, error, Shape.isPlain, Shape.typeUnit,
      typesUnit, errorsUnit, enumsUnit, clientUnit]
  | other type enum aggregate error =>
    simp [Shape.declarations, type, enum, aggregate, error, Shape.isPlain]

theorem declaresShapes (h : Outline.of model settings integrations = .ok outline)
    (hwritten : outline.Written manifest) : outline.DeclaresShapes := by
  have hdeclared := fun path => declared_eq_flatMap h hwritten path
  have hat := declarations_at outline.context
  constructor
  · rw [hdeclared _ (by decide) (by decide), flatMap_of_ite fun shape => (hat shape).1,
      List.map_eq_flatMap]
  · rw [hdeclared _ (by decide) (by decide), flatMap_of_ite fun shape => (hat shape).2.1,
      List.map_eq_flatMap]
  · rw [hdeclared _ (by decide) (by decide), flatMap_of_ite fun shape => (hat shape).2.2.1]
  · rw [hdeclared _ (by decide) (by decide), flatMap_of_ite fun shape => (hat shape).2.2.2]

/-! ## Units -/

theorem Written.isSome_get? (hwritten : outline.Written manifest) {path : String}
    (hpath : path ≠ moduleUnit) : (manifest.get? path).isSome = true ↔ path ∈ outline.paths := by
  rw [hwritten.get? path hpath]
  split <;> simp_all

/-- Every kind of shapes has its unit. -/
theorem unit?_eq_some_iff (shape : Shape) :
    (shape.unit? = some typesUnit ↔ shape.isPlain = true) ∧
      (shape.unit? = some errorsUnit ↔ shape.isError = true) ∧
      (shape.unit? = some enumsUnit ↔ shape.isEnum = true) ∧
      (shape.unit? = some clientUnit ↔ shape.type = .service) := by
  cases shape.kind <;>
    simp_all [Shape.unit?, Shape.isType, Shape.typeUnit, Shape.isPlain, typesUnit, errorsUnit,
      enumsUnit, clientUnit]

theorem hasUnits (h : Outline.of model settings integrations = .ok outline)
    (hwritten : outline.Written manifest) : outline.HasUnits manifest := by
  have hunit : ∀ path, path ≠ moduleUnit → path ∉ [serializersUnit, deserializersUnit, docUnit] →
      ((manifest.get? path).isSome ↔ ∃ shape ∈ outline.shapes, shape.unit? = some path) := by
    intro path hmodule hother
    simp only [List.mem_cons, List.not_mem_nil, or_false, not_or] at hother
    rw [hwritten.isSome_get? hmodule, mem_paths_iff h]
    simp [hother]
  refine ⟨?_, ?_, ?_, ?_, ?_, hwritten.module, ?_⟩
  · rw [hunit _ (by decide) (by decide)]
    simp only [(unit?_eq_some_iff _).1]
  · rw [hunit _ (by decide) (by decide)]
    simp only [(unit?_eq_some_iff _).2.1]
  · rw [hunit _ (by decide) (by decide)]
    simp only [(unit?_eq_some_iff _).2.2.1]
  · rw [hunit _ (by decide) (by decide)]
    simp only [(unit?_eq_some_iff _).2.2.2]
  · exact (hwritten.isSome_get? (by decide)).2 ((mem_paths_iff h).2 (.inr (.inr rfl)))
  · intro path hpath
    by_cases hmodule : path = moduleUnit
    · simp [hmodule]
    · rcases (mem_paths_iff h).1 ((hwritten.isSome_get? hmodule).1 hpath) with
        ⟨shape, -, hshape⟩ | ⟨-, -, hmiddleware⟩ | rfl
      · have hmem := mem_of_unit?_eq_some hshape
        simp only [List.mem_cons, List.not_mem_nil, or_false] at hmem ⊢
        tauto
      · simp only [List.mem_cons, List.not_mem_nil, or_false] at hmiddleware ⊢
        tauto
      · simp

end Outline

namespace Run

variable {model : Model} {settings : Settings} {integrations : IntegrationRegistry}
  {manifest : Manifest}

/-- **A successful run declares the closure of its service**: every shape that is reached and not
built in, once, in the unit for its kind, under the name of its symbol and in ascending order, and
there are no units but those. -/
theorem declares_closure (h : (Run.of model settings integrations).result = .ok manifest) :
    ∃ outline, Outline.of model settings integrations = .ok outline ∧ outline.Written manifest ∧
      outline.IsClosure model ∧ outline.DeclaresShapes ∧ outline.HasUnits manifest := by
  obtain ⟨outline, houtline, hstarted, hwritten⟩ := exists_outline h
  exact ⟨outline, houtline, hwritten, hstarted.isClosure, Outline.declaresShapes houtline hwritten,
    Outline.hasUnits houtline hwritten⟩

end Run

/-! ## A run of few shapes -/

namespace Sample

/-- A structure of the prelude's namespace that the prelude does not have. -/
def foreign : Shape where
  id := { ns := Trait.prelude, name := "Thing" }
  type := .struct

/-- The input of an operation; it refers to itself and to the structure. -/
def input : Shape :=
  let id : ShapeId := { ns := "z", name := "In" }
  { id
    type := .struct
    members := [{ name := "next", container := id, target := id },
      { name := "x", container := id, target := foreign.id }] }

def operation : Shape where
  id := { ns := "z", name := "Op" }
  type := .operation
  input := input.id

def service : Shape where
  id := { ns := "z", name := "Svc" }
  type := .service
  operations := [operation.id]

def model : Model :=
  .ofShapes [foreign, input, operation, service]

def settings : Settings where
  moduleName := .str "m"
  service := .str "z#Svc"
  packageName := .str "m"
  addComments := .bool false

def context : Context where
  model := model
  settings := settings
  service := service
  integrations := []
  transport := some .http

theorem closure_eq :
    model.closure service.id = .ok [foreign, input, operation, service] := by
  have hsearch : model.search 8 service.id = some [foreign, input, operation, service] := rfl
  exact Model.closure_eq_ok_of_search hsearch (by decide +kernel) (by decide +kernel)

/-- The run succeeds with integrations with which it can be written. -/
theorem exists_manifest_of_writes (integrations : IntegrationRegistry)
    (h : { context with integrations := integrations.integrations }.writes none
      [input, operation, service] = true) :
    ∃ outline manifest, (Run.of model settings integrations).result = .ok manifest ∧
      Outline.of model settings integrations = .ok outline ∧ outline.Written manifest ∧
      outline.context = { context with integrations := integrations.integrations } ∧
      outline.protocol = none ∧ outline.shapes = [input, operation, service] := by
  have hchosen : Run.choose model settings = .ok (service, none) :=
    Run.choose_of_traits_eq_nil rfl rfl rfl rfl
  exact Run.exists_manifest integrations hchosen rfl closure_eq h

/-- An operation without input and output. -/
def bare (id : ShapeId) : Shape where
  id := id
  type := .operation

def pairService (first second : ShapeId) : Shape :=
  { service with operations := [first, second] }

/-- A service of two operations. -/
def pairModel (first second : ShapeId) : Model :=
  .ofShapes [bare first, bare second, pairService first second]

theorem exists_manifest :
    ∃ outline manifest, (Run.of model settings {}).result = .ok manifest ∧
      Outline.of model settings {} = .ok outline ∧ outline.Written manifest ∧
      outline.context = context ∧ outline.protocol = none ∧
      outline.shapes = [input, operation, service] :=
  exists_manifest_of_writes {} (by decide +kernel)

end Sample

namespace Run

theorem declares_closure_sample : ∃ manifest,
    (Run.of Sample.model Sample.settings {}).result = .ok manifest ∧
      ∃ outline, Outline.of Sample.model Sample.settings {} = .ok outline ∧
        outline.Written manifest ∧ outline.IsClosure Sample.model ∧ outline.DeclaresShapes ∧
        outline.HasUnits manifest := by
  obtain ⟨_, manifest, h, -⟩ := Sample.exists_manifest
  exact ⟨manifest, h, declares_closure h⟩

end Run

end ClientGen
