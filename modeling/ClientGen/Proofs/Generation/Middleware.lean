import ClientGen.Proofs.Declaration.Method
import ClientGen.Proofs.Generation.Imports
import ClientGen.Proofs.Generation.Names
import ClientGen.Proofs.Model.Document
import ClientGen.Proofs.Text.Literal

/-!
# Middleware of a run

A run writes middleware if it has a protocol, some integration that counts for the service has
bodies for that protocol, and there are operations.  Either direction then has a unit of its own,
with one middleware for every operation, in the order of the operations; its handler has the body
that the first of these integrations writes for the operation.

## Main definitions

* `Direction` — the two directions of a call, each with its unit, its stage and its bodies.
* `Outline.Supplies` — the first integration with bodies for the protocol has these.
* `Outline.DeclaresMiddleware` — the unit of a direction declares the middleware of all operations.

## Main results

* `Outline.stepsAt_direction` — what the unit of a direction is written from.
* `Run.middleware_of_operations` — a successful run has the middleware of its operations, or none.
* `Run.middleware_not_distinct` — two of them have one name if the ids of operations read alike.
-/

namespace ClientGen

/-! ## Directions -/

/-- The two directions of a call: requests are written and responses are read. -/
inductive Direction where
  | request
  | response
deriving DecidableEq, Repr

namespace Direction

/-- The unit of the middleware for the direction. -/
def unit : Direction → String
  | request => serializersUnit
  | response => deserializersUnit

/-- The step of the stack at which the middleware stands. -/
def stage : Direction → Stage
  | request => .serialize
  | response => .deserialize

/-- What stands between the names of the protocol and of the operation. -/
def word : Direction → String
  | request => "_serializeOp"
  | response => "_deserializeOp"

/-- The body of the handlers. -/
def body (bodies : ProtocolBodies) : Direction → HandlerBody
  | request => bodies.serialize
  | response => bodies.deserialize

/-- The middleware for an operation. -/
def middleware (direction : Direction) (bodies : ProtocolBodies) (operation : Shape) :
    Middleware where
  identifier := bodies.name ++ direction.word ++ operation.typeName
  method := "Handle" ++ direction.stage.title
  input := direction.stage.symbol "Input"
  output := direction.stage.symbol "Output"
  handler := direction.stage.symbol "Handler"

/-- What the handler of the middleware for an operation consists of. -/
def handler (direction : Direction) (bodies : ProtocolBodies) (operation : Shape) : List Step :=
  (direction.body bodies).steps operation (direction.middleware bodies operation)

theorem unit_not_mem (direction : Direction) :
    direction.unit ∉ [typesUnit, errorsUnit, enumsUnit, clientUnit, docUnit, moduleUnit] := by
  cases direction <;> decide

theorem parenthesis_not_mem_method (direction : Direction) (bodies : ProtocolBodies)
    (operation : Shape) : '(' ∉ (direction.middleware bodies operation).method.toList := by
  have hstage : ∀ stage : Stage, '(' ∉ ("Handle" ++ stage.title).toList := by
    intro stage
    cases stage <;> decide +kernel
  exact hstage direction.stage

end Direction

/-- An operation has a passage in the unit of either direction. -/
theorem Passage.eq_of_ofOperation {context : Context} {bodies : ProtocolBodies} {operation : Shape}
    {passages : List Passage} (htype : operation.type = .operation)
    (h : ofOperation context bodies operation = .ok passages) :
    passages = [Direction.request, .response].map fun direction =>
      ⟨direction.unit, (direction.middleware bodies operation).steps []
        (direction.handler bodies operation)⟩ := by
  obtain ⟨first, second, hfirst, hsecond, rfl⟩ := ofOperation_eq_ok htype h
  rw [Middleware.eq_of_ofStage hfirst, Middleware.eq_of_ofStage hsecond]
  rfl

namespace Outline

variable {model : Model} {settings : Settings} {integrations : IntegrationRegistry}
  {outline : Outline} {manifest : Manifest} {bodies : ProtocolBodies}

/-! ## Bodies -/

/-- The first integration that counts for the service and has bodies for the protocol of the run
has these. -/
def Supplies (outline : Outline) (bodies : ProtocolBodies) : Prop :=
  outline.protocol = some bodies.protocol ∧ ∃ before integration after,
    outline.context.matching = before ++ integration :: after ∧
      integration.bodies = some bodies ∧
      ∀ earlier ∈ before, ∀ other ∈ earlier.bodies, other.protocol ≠ bodies.protocol

/-- Some integration that counts for the service has bodies for the protocol of the run. -/
def HasSupply (outline : Outline) : Prop :=
  ∃ protocol integration, outline.protocol = some protocol ∧
    integration ∈ outline.context.matching ∧
      ∃ bodies ∈ integration.bodies, bodies.protocol = protocol

theorem supplies_of_bodies? (h : outline.bodies? = some bodies) : outline.Supplies bodies := by
  obtain ⟨protocol, hprotocol, hfind⟩ := Option.bind_eq_some_iff.1 h
  obtain ⟨hfound, front, back, hsplit, hbefore⟩ := List.find?_eq_some_iff_append.1 hfind
  obtain rfl : bodies.protocol = protocol := by simpa using hfound
  obtain ⟨before, rest, hmatching, hfront, hrest⟩ := List.filterMap_eq_append_iff.1 hsplit
  obtain ⟨skipped, integration, after, rfl, hskipped, hbodies, -⟩ :=
    List.filterMap_eq_cons_iff.1 hrest
  refine ⟨hprotocol, before ++ skipped, integration, after, by simp [hmatching], hbodies, ?_⟩
  intro earlier hearlier other hother
  rcases List.mem_append.1 hearlier with hmem | hmem
  · have hother' : other ∈ front := hfront ▸ List.mem_filterMap.2 ⟨earlier, hmem, hother⟩
    simpa using hbefore other hother'
  · simp [hskipped earlier hmem] at hother

theorem hasSupply_of_supplies (h : outline.Supplies bodies) : outline.HasSupply := by
  obtain ⟨hprotocol, before, integration, after, hmatching, hbodies, -⟩ := h
  exact ⟨_, integration, hprotocol, by simp [hmatching], bodies, hbodies, rfl⟩

theorem isSome_bodies?_iff : outline.bodies?.isSome ↔ outline.HasSupply := by
  constructor
  · intro h
    obtain ⟨bodies, hbodies⟩ := Option.isSome_iff_exists.1 h
    exact hasSupply_of_supplies (supplies_of_bodies? hbodies)
  · rintro ⟨_, integration, hprotocol, hmem, bodies, hbodies, rfl⟩
    rw [bodies?, hprotocol, Option.bind_some, Emission.bodies?, List.find?_isSome]
    exact ⟨bodies, List.mem_filterMap.2 ⟨integration, hmem, hbodies⟩, beq_self_eq_true _⟩

/-! ## Units -/

/-- **What the unit of a direction is written from**: the middleware of every operation, if there
are bodies. -/
theorem stepsAt_direction (h : Outline.of model settings integrations = .ok outline)
    (direction : Direction) :
    outline.stepsAt direction.unit = outline.bodies?.toList.flatMap fun bodies =>
      outline.operations.flatMap fun operation =>
        (direction.middleware bodies operation).steps [] (direction.handler bodies operation) := by
  have hgather : outline.stepsAt direction.unit = outline.passages.flatMap fun passage =>
      if passage.path == direction.unit then passage.steps else [] :=
    (flatMap_of_ite fun _ => rfl).symm
  have hunit := direction.unit_not_mem
  rw [hgather, flatMap_passages (fun _ => []) (fun bodies operation =>
    (direction.middleware bodies operation).steps [] (direction.handler bodies operation)) h]
  · have hdoc : (docUnit == direction.unit) = false := by
      cases direction <;> decide
    simp [Passage.ofPackage, hdoc]
  · intro shape _ passages _ hfor
    rw [List.flatMap_eq_nil_iff]
    intro passage hmem
    have hpath : shape.unit? = some passage.path := by
      have hpaths := Passage.paths_of_isFor hfor
      cases hshape : shape.unit? <;> cases hfor <;> simp_all
    have hne : passage.path ≠ direction.unit := by
      rintro heq
      exact hunit (List.mem_append_left [docUnit, moduleUnit] (heq ▸ mem_of_unit?_eq_some hpath))
    simp [hne]
  · intro bodies _ operation hoperation passages hpassages
    rw [Passage.eq_of_ofOperation (type_of_mem_operations hoperation) hpassages]
    cases direction <;>
      simp [Direction.unit, serializersUnit, deserializersUnit]

theorem declared_direction (h : Outline.of model settings integrations = .ok outline)
    (direction : Direction) :
    outline.declared direction.unit = outline.bodies?.toList.flatMap fun bodies =>
      outline.operations.map fun operation =>
        .struct (direction.middleware bodies operation).identifier := by
  rw [declared, stepsAt_direction h, List.filterMap_flatMap]
  simp only [List.filterMap_flatMap, Middleware.declared_steps, List.map_eq_flatMap]

/-- The unit of a direction is a file with one middleware for every operation, in ascending order,
and nothing else: a type, the method for its ID, which returns a literal for the name of the type,
and the handler, whose body is the one that is written for the operation. -/
structure DeclaresMiddleware (outline : Outline) (manifest : Manifest) (bodies : ProtocolBodies)
    (direction : Direction) : Prop where
  file : manifest.get? direction.unit = some (outline.unit direction.unit).toText
  types : outline.declared direction.unit = outline.operations.map fun operation =>
    .struct (direction.middleware bodies operation).identifier
  methods : (outline.stepsAt direction.unit).filterMap Step.method?
    = outline.operations.flatMap fun operation =>
      [(direction.middleware bodies operation).idOf,
        (direction.middleware bodies operation).handlerOf (direction.handler bodies operation)]
  ids : ∀ operation ∈ outline.operations, ∃ literal,
    (direction.middleware bodies operation).idOf.Returns literal ∧
      Text.unquote? literal = some (direction.middleware bodies operation).identifier
  ascending : outline.operations.Pairwise fun first second => first.id.Precedes second.id

theorem declaresMiddleware (h : Outline.of model settings integrations = .ok outline)
    (hstarted : outline.Started model settings integrations) (hwritten : outline.Written manifest)
    (hbodies : outline.bodies? = some bodies) (hoperations : outline.operations ≠ [])
    (direction : Direction) : outline.DeclaresMiddleware manifest bodies direction := by
  have hmem : direction.unit ∈ [serializersUnit, deserializersUnit] := by
    cases direction <;> simp [Direction.unit]
  refine ⟨?_, ?_, ?_, fun operation _ => ?_, ?_⟩
  · have hmodule : direction.unit ≠ moduleUnit := by
      cases direction <;> decide
    rw [hwritten.get? _ hmodule, if_pos]
    exact (mem_paths_iff h).2 (.inr (.inl ⟨by rw [hbodies]; rfl, hoperations, hmem⟩))
  · rw [declared_direction h, hbodies, Option.toList_some, List.flatMap_singleton]
  · rw [stepsAt_direction h, hbodies, Option.toList_some, List.flatMap_singleton,
      List.filterMap_flatMap]
    simp only [Middleware.methods_steps _ _ _ (direction.parenthesis_not_mem_method _ _)]
  · exact ⟨_, Middleware.returns_idOf _, Text.unquote?_quote _⟩
  · exact hstarted.isClosure.ascending.filter _

/-- **The types of middleware of a run have distinct names** exactly if no operation doubles
another. -/
theorem nodup_middleware_iff (h : Outline.of model settings integrations = .ok outline)
    (hstarted : outline.Started model settings integrations)
    (hbodies : outline.bodies? = some bodies) :
    ((outline.declared serializersUnit ++ outline.declared deserializersUnit).flatMap
      Declared.names).Nodup ↔
      ∀ operation ∈ outline.operations, ∀ other ∈ outline.operations,
        operation.Doubles other → operation = other := by
  let front (direction : Direction) : String := bodies.name ++ direction.word
  have hnames (direction : Direction) : (outline.declared direction.unit).flatMap Declared.names
      = (outline.operations.map Shape.typeName).map (front direction ++ ·) := by
    rw [declared_direction h, hbodies, Option.toList_some, List.flatMap_singleton, List.flatMap_map,
      List.map_map, List.map_eq_flatMap]
    rfl
  have hinjective (direction : Direction) : Function.Injective (front direction ++ ·) :=
    fun _ _ heq => (String.append_right_inj _).1 heq
  have happend : (outline.declared serializersUnit ++ outline.declared deserializersUnit).flatMap
      Declared.names = (outline.operations.map Shape.typeName).map (front .request ++ ·)
        ++ (outline.operations.map Shape.typeName).map (front .response ++ ·) := by
    rw [List.flatMap_append]
    exact congrArg₂ _ (hnames .request) (hnames .response)
  rw [happend, ← hstarted.nodup_typeName_iff, List.nodup_append,
    List.nodup_map_iff (hinjective .request), List.nodup_map_iff (hinjective .response)]
  refine ⟨fun hnodup => hnodup.1, fun hnodup => ⟨hnodup, hnodup, ?_⟩⟩
  rintro name hname _ hother rfl
  obtain ⟨first, -, hfirst⟩ := List.mem_map.1 hname
  obtain ⟨second, -, hsecond⟩ := List.mem_map.1 hother
  exact serializeOp_ne _ _ _ (hfirst.trans hsecond.symm)

end Outline

namespace Run

variable {model : Model} {settings : Settings} {integrations : IntegrationRegistry}
  {manifest : Manifest}

/-- **A successful run has the middleware of its operations, or none.**  If the service has
operations and some integration that counts for it has bodies for the protocol of the run, either
direction has its unit, with the bodies of the first of these integrations; otherwise there is no
such unit.  No type is declared twice exactly if no two operations have a name in common and ids
that read alike, which cannot be if the ids were read from texts. -/
theorem middleware_of_operations
    (h : (Run.of model settings integrations).result = .ok manifest) :
    ∃ outline, Outline.of model settings integrations = .ok outline ∧
      outline.Started model settings integrations ∧ outline.Written manifest ∧
      outline.IsClosure model ∧
      (outline.HasSupply ∧ outline.operations ≠ [] →
        (∃ bodies, outline.Supplies bodies ∧
          ∀ direction, outline.DeclaresMiddleware manifest bodies direction) ∧
        (((outline.declared serializersUnit ++ outline.declared deserializersUnit).flatMap
          Declared.names).Nodup ↔
          ∀ operation ∈ outline.operations, ∀ other ∈ outline.operations,
            operation.Doubles other → operation = other) ∧
        (model.HasReadableIds → ((outline.declared serializersUnit
          ++ outline.declared deserializersUnit).flatMap Declared.names).Nodup)) ∧
      (¬ (outline.HasSupply ∧ outline.operations ≠ []) →
        ∀ direction : Direction, manifest.get? direction.unit = none) := by
  obtain ⟨outline, houtline, hstarted, hwritten⟩ := exists_outline h
  refine ⟨outline, houtline, hstarted, hwritten, hstarted.isClosure, ?_, ?_⟩
  · rintro ⟨hsupply, hoperations⟩
    obtain ⟨bodies, hbodies⟩ := Option.isSome_iff_exists.1 (Outline.isSome_bodies?_iff.2 hsupply)
    have hnodup := Outline.nodup_middleware_iff houtline hstarted hbodies
    refine ⟨⟨bodies, Outline.supplies_of_bodies? hbodies, fun direction =>
      Outline.declaresMiddleware houtline hstarted hwritten hbodies hoperations direction⟩,
      hnodup, fun hreadable => hnodup.2 ?_⟩
    intro operation hoperation other hother hdouble
    have hmodel : outline.context.model = model := by rw [hstarted.context]
    have hread : ∀ shape ∈ outline.operations, shape.id.IsReadable := fun shape hmem =>
      hreadable _ _ (hmodel ▸ shape?_of_mem_shapes hstarted.shapes (List.mem_filter.1 hmem).1)
    exact hstarted.eq_of_doubles hoperation hother hdouble (hread _ hoperation) (hread _ hother)
  · intro hnot direction
    have hmodule : direction.unit ≠ moduleUnit := fun heq => direction.unit_not_mem (by simp [heq])
    rw [hwritten.get? _ hmodule, if_neg]
    intro hmem
    rcases (Outline.mem_paths_iff houtline).1 hmem with
      ⟨shape, -, hshape⟩ | ⟨hbodies, hoperations, -⟩ | hdoc
    · exact direction.unit_not_mem
        (List.mem_append_left [docUnit, moduleUnit] (Outline.mem_of_unit?_eq_some hshape))
    · exact hnot ⟨Outline.isSome_bodies?_iff.1 hbodies, hoperations⟩
    · exact direction.unit_not_mem (by simp [hdoc])

end Run

/-! ## Runs with two operations -/

namespace Sample

/-- A run with two operations and bodies for them succeeds once it can be written. -/
theorem exists_pair_manifest {first second : ShapeId}
    (hfirst : (bare first).isBuiltin = false) (hsecond : (bare second).isBuiltin = false)
    (hservice : (pairModel first second).expectWritten "z#Svc" = .ok (pairService first second))
    (hclosure : (pairModel first second).closure service.id
      = .ok [bare first, bare second, pairService first second])
    (hwrites : Context.writes {
      model := pairModel first second, settings := protocolSettings,
      service := pairService first second, integrations := [integration],
      transport := some .http } (some "aws.protocols#restJson1")
      [bare first, bare second, pairService first second] = true) :
    ∃ outline manifest, (Run.of (pairModel first second) protocolSettings
        { integrations := [integration] }).result = .ok manifest ∧
      Outline.of (pairModel first second) protocolSettings { integrations := [integration] }
        = .ok outline ∧
      outline.bodies? = integration.bodies ∧ outline.operations = [bare first, bare second] := by
  have hchosen : Run.choose (pairModel first second) protocolSettings
      = .ok (pairService first second, some "aws.protocols#restJson1") :=
    Run.choose_of_traits_eq_nil hservice rfl rfl rfl
  have hlocal : [bare first, bare second, pairService first second].filter
      (fun shape => !shape.isBuiltin) = [bare first, bare second, pairService first second] := by
    have hown : (pairService first second).isBuiltin = false := rfl
    simp [hfirst, hsecond, hown]
  obtain ⟨outline, manifest, h, houtline, -, hcontext, hprotocol, hshapes⟩ :=
    Run.exists_manifest { integrations := [integration] } hchosen rfl hclosure
      (by rw [hlocal]; exact hwrites)
  refine ⟨outline, manifest, h, houtline, ?_, ?_⟩
  · rw [Outline.bodies?, hprotocol, hcontext]
    rfl
  · rw [Outline.operations, hshapes, hlocal]
    rfl

def anotherId : ShapeId where
  ns := "z"
  name := "Retry"

/-- An id of one namespace, and below one of another that reads like it. -/
def twinId : ShapeId where
  ns := "a"
  name := "-#c"

def otherTwinId : ShapeId where
  ns := "a#-"
  name := "c"

end Sample

namespace Run

theorem middleware_of_operations_sample : ∃ outline manifest,
    (Run.of (Sample.pairModel Sample.operation.id Sample.anotherId) Sample.protocolSettings
        { integrations := [Sample.integration] }).result = .ok manifest ∧
      Outline.of (Sample.pairModel Sample.operation.id Sample.anotherId) Sample.protocolSettings
        { integrations := [Sample.integration] } = .ok outline ∧
      outline.operations = [Sample.bare Sample.operation.id, Sample.bare Sample.anotherId] ∧
      (∃ bodies, outline.Supplies bodies ∧
        ∀ direction, outline.DeclaresMiddleware manifest bodies direction) ∧
      ((outline.declared serializersUnit ++ outline.declared deserializersUnit).flatMap
        Declared.names).Nodup := by
  have hsearch : (Sample.pairModel Sample.operation.id Sample.anotherId).search 5
      Sample.service.id = some [Sample.bare Sample.operation.id, Sample.bare Sample.anotherId,
        Sample.pairService Sample.operation.id Sample.anotherId] := rfl
  obtain ⟨outline, manifest, h, houtline, hbodies, hoperations⟩ :=
    Sample.exists_pair_manifest rfl rfl rfl
      (Model.closure_eq_ok_of_search hsearch (by decide) (by decide)) (by decide +kernel)
  obtain ⟨found, hfound, -, -, -, hmiddleware, -⟩ := middleware_of_operations h
  obtain rfl := Except.ok.inj (hfound.symm.trans houtline)
  have hsupply : found.HasSupply := Outline.isSome_bodies?_iff.1 (by rw [hbodies]; rfl)
  obtain ⟨hdeclared, hnodup, -⟩ := hmiddleware ⟨hsupply, by simp [hoperations]⟩
  refine ⟨found, manifest, h, houtline, hoperations, hdeclared, hnodup.2 ?_⟩
  have htext : Sample.operation.id.text ≠ Sample.anotherId.text := by decide
  rw [hoperations]
  intro operation hoperation other hother hdouble
  simp only [List.mem_cons, List.not_mem_nil, or_false] at hoperation hother
  rcases hoperation with rfl | rfl <;> rcases hother with rfl | rfl
  · rfl
  · exact absurd hdouble.2 htext
  · exact absurd hdouble.2.symm htext
  · rfl

/-- Two operations whose ids read alike share the types of their middleware. -/
theorem middleware_not_distinct : ∃ outline manifest,
    (Run.of (Sample.pairModel Sample.twinId Sample.otherTwinId) Sample.protocolSettings
        { integrations := [Sample.integration] }).result = .ok manifest ∧
      Outline.of (Sample.pairModel Sample.twinId Sample.otherTwinId) Sample.protocolSettings
        { integrations := [Sample.integration] } = .ok outline ∧
      outline.HasSupply ∧ outline.operations ≠ [] ∧
      outline.declared serializersUnit
        = [.struct "restJson1_serializeOpC", .struct "restJson1_serializeOpC"] := by
  have hsearch : (Sample.pairModel Sample.twinId Sample.otherTwinId).search 5 Sample.service.id
      = some [Sample.bare Sample.twinId, Sample.bare Sample.otherTwinId,
        Sample.pairService Sample.twinId Sample.otherTwinId] := rfl
  obtain ⟨outline, manifest, h, houtline, hbodies, hoperations⟩ :=
    Sample.exists_pair_manifest rfl rfl rfl
      (Model.closure_eq_ok_of_search hsearch (by decide) (by decide)) (by decide +kernel)
  have hsupply : outline.HasSupply := Outline.isSome_bodies?_iff.1 (by rw [hbodies]; rfl)
  refine ⟨outline, manifest, h, houtline, hsupply, by simp [hoperations], ?_⟩
  have hdeclared := Outline.declared_direction houtline .request
  rw [hbodies, hoperations] at hdeclared
  exact hdeclared.trans (by decide +kernel)

end Run

end ClientGen
