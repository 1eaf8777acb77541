import ClientGen.Proofs.Generation.Files

/-!
# Declarations of a run

What a unit declares can be read off the steps that it is written from: a block or a line that opens
with `type`, a block that opens with `func` and a name, a block of constants.  Methods, comments and
what stands inside blocks declare nothing in the package.

## Main definitions

* `Declared`, `Step.declared?` — a declaration, and the one that a step makes, if it does.
* `Outline.declarations` — the declarations of a run with the units that hold them, in the order of
  writing.
* `Shape.declarations`, `Shape.middlewareDeclarations` — those that a shape accounts for.

## Main results

* `Outline.declarations_eq` — a run makes the declarations of its shapes, in their order, and those
  of the middleware of its operations, and no others.
-/

namespace ClientGen

/-- A declaration in a package. -/
inductive Declared where
  | struct (name : String)
  /-- A type that is no struct. -/
  | type (name : String)
  | function (name : String)
  /-- A block of constants. -/
  | constants (names : List String)
deriving DecidableEq, Repr

/-- The names that a declaration introduces. -/
def Declared.names : Declared → List String
  | struct name => [name]
  | type name => [name]
  | function name => [name]
  | constants names => names

/-! ## Reading -/

/-- The texts of the parts of a phrase; a template is not read. -/
def Phrase.texts : Phrase → List String
  | .parts found => found.map (Part.render none)
  | .template .. => []

namespace Step

/-- The constant that a line of a block declares. -/
def constant? : Step → Option String
  | .write phrase =>
    match phrase.texts with
    | name :: " " :: _ :: " = " :: _ => some name
    | _ => none
  | _ => none

/-- The declaration that a step at the top of a unit makes. -/
def declared? : Step → Option Declared
  | .block opening _ body =>
    match opening.texts with
    | ["type ", name, " struct \x7b"] => some (.struct name)
    | ["type ", name, " interface \x7b"] => some (.type name)
    | "func " :: name :: _ => some (.function name)
    | ["const ("] => some (.constants (body.filterMap constant?))
    | _ => none
  | .write phrase =>
    match phrase.texts with
    | "type " :: name :: _ => some (.type name)
    | _ => none
  | _ => none

end Step

namespace Context

variable (context : Context)

@[simp]
theorem filterMap_declared?_docs (documentation : Json) :
    (context.docs documentation).filterMap Step.declared? = [] := by
  unfold docs
  split <;> rfl

@[simp]
theorem filterMap_constant?_docs (documentation : Json) :
    (context.docs documentation).filterMap Step.constant? = [] := by
  unfold docs
  split <;> rfl

@[simp]
theorem filterMap_declared?_comment (text : String) :
    (context.comment text).filterMap Step.declared? = [] :=
  context.filterMap_declared?_docs _

end Context

/-! ## What generators declare -/

namespace Declaration

variable {context : Context} {shape : Shape}

/-- What the client unit declares for a service. -/
def ofClient (name : String) : List Declared :=
  [.struct name, .function "New", .struct "Options", .type "HTTPClient", .type "APIOptionFunc"]

/-- The methods of an error are written around its fault, or fail. -/
theorem errorMethods_cases (context : Context) (shape : Shape) (symbol : Symbol) :
    (∃ fault message, faultSymbol shape = .ok fault ∧
      messageField context.model shape.members = .ok message ∧
      errorMethods context shape symbol = errorSteps shape symbol fault message) ∨
      ∃ failure, errorMethods context shape symbol = [.fail failure] := by
  unfold errorMethods
  dsimp only
  split
  · rename_i steps hsteps
    obtain ⟨fault, hfault, hsteps⟩ := bind_eq_ok.1 hsteps
    obtain ⟨message, hmessage, hsteps⟩ := bind_eq_ok.1 hsteps
    exact .inl ⟨fault, message, hfault, hmessage, (pure_eq_ok.1 hsteps).symm⟩
  · exact .inr ⟨_, rfl⟩

/-- Faults are values of the runtime. -/
theorem eq_of_faultSymbol {fault : Symbol} (h : faultSymbol shape = .ok fault) :
    ∃ name, fault = .value name Dependency.smithy := by
  unfold faultSymbol at h
  split at h
  · exact ⟨_, (Except.ok.inj h).symm⟩
  · exact ⟨_, (Except.ok.inj h).symm⟩
  · split at h
    · exact ⟨_, (Except.ok.inj h).symm⟩
    · simp at h

theorem declared_errorMethods (symbol : Symbol) :
    (errorMethods context shape symbol).filterMap Step.declared? = [] := by
  rcases errorMethods_cases context shape symbol with
    ⟨fault, message, -, -, heq⟩ | ⟨failure, heq⟩ <;> rw [heq]
  · cases message <;>
      simp [errorSteps, messageMethod, List.filterMap_cons, Step.declared?, Step.line,
        Phrase.texts, Part.render]
  · rfl

theorem declared_structSteps (symbol : Symbol) (body : List Step) :
    (structSteps context shape symbol body).filterMap Step.declared? = [.struct symbol.name] := by
  have hmethods : (if shape.isError then errorMethods context shape symbol else []).filterMap
      Step.declared? = [] := by
    split
    · exact declared_errorMethods symbol
    · rfl
  have hremark : (if shape.type == .union then
      context.comment "Only one member of this union may be set." else []).filterMap
      Step.declared? = [] := by
    split
    · exact context.filterMap_declared?_comment _
    · rfl
  simp only [structSteps, List.filterMap_append, hmethods, hremark,
    context.filterMap_declared?_docs]
  simp [List.filterMap_cons, Step.declared?, Phrase.texts, Part.render, Symbol.name_relativeTo]

theorem declared_enumSteps (symbol : Symbol) (labels : List (String × EnumValue)) :
    (enumSteps context symbol labels).filterMap Step.declared?
      = [.type symbol.name, .constants (labels.map Prod.fst)] := by
  have hconstants : (labels.flatMap fun labelled =>
      enumConstant context symbol labelled.1 labelled.2).filterMap Step.constant?
        = labels.map Prod.fst := by
    induction labels with
    | nil => rfl
    | cons labelled rest ih =>
      rw [List.flatMap_cons, List.filterMap_append, ih]
      simp [enumConstant, Step.constant?, Step.line, Phrase.texts, Part.render]
  simp [enumSteps, enumMethod, List.filterMap_cons, Step.declared?, Step.line, Phrase.texts,
    Part.render, hconstants, Symbol.name_relativeTo]

theorem declared_serviceMethods (symbol : Symbol) :
    (serviceMethods context shape symbol).filterMap Step.declared? = [] := by
  simp [serviceMethods, List.filterMap_cons, Step.declared?, Step.line, Phrase.texts, Part.render]

theorem declared_optionsSteps (transport : Transport) (fields : List ConfigField) :
    (optionsSteps context transport fields).filterMap Step.declared?
      = [.struct "Options", .type "HTTPClient", .type "APIOptionFunc"] := by
  have hname : ∀ name, (Symbol.relativeTo none (.value name)).fullName = name := fun _ => rfl
  simp [optionsSteps, transportInterface, copyMethod, List.filterMap_cons, Step.declared?,
    Step.line, Phrase.texts, Part.render, optionsType, optionFuncType, hname]

/-- A client that is declared to the end has its fields collected. -/
theorem collectFields_of_run {transport : Transport} {client : Symbol}
    (hrun : Step.Run (clientSteps context shape transport client)) :
    ∃ fields, Integration.collectFields context.integrations shape = .ok fields := by
  cases hfields : Integration.collectFields context.integrations shape with
  | error clash =>
    simp only [clientSteps, hfields] at hrun
    exact absurd List.mem_cons_self (hrun.of_append.2.not_fail (.collision clash))
  | ok fields => exact ⟨fields, rfl⟩

theorem declared_clientSteps (symbol : Symbol) (transport : Transport)
    (hrun : Step.Run (clientSteps context shape transport symbol)) :
    (clientSteps context shape transport symbol).filterMap Step.declared?
      = ofClient symbol.name := by
  obtain ⟨fields, hfields⟩ := collectFields_of_run hrun
  simp only [clientSteps, hfields, List.filterMap_append, declared_serviceMethods,
    declared_optionsSteps]
  simp [clientType, clientConstructor, ofClient, List.filterMap_cons, Step.declared?,
    Phrase.texts, Part.render, Symbol.name_relativeTo]

end Declaration

namespace Middleware

theorem declared_steps (middleware : Middleware) (fields handler : List Step) :
    (middleware.steps fields handler).filterMap Step.declared?
      = [.struct middleware.identifier] := by
  simp [steps, idMethod, signature, symbol, Symbol.reference, List.filterMap_cons, Step.declared?,
    Phrase.texts, Part.render, Symbol.name_relativeTo, Symbol.name]

/-- The middleware for a step has the types of the step. -/
theorem eq_of_ofStage {stage : Stage} {identifier : String} {middleware : Middleware}
    (h : ofStage stage (some identifier) = .ok middleware) :
    middleware = {
      identifier
      method := "Handle" ++ stage.title
      input := stage.symbol "Input"
      output := stage.symbol "Output"
      handler := stage.symbol "Handler" } := by
  simp only [ofStage, Draft.complete] at h
  split at h
  · exact (Except.ok.inj h).symm
  · simp at h

theorem identifier_of_ofStage {stage : Stage} {identifier : String} {middleware : Middleware}
    (h : ofStage stage (some identifier) = .ok middleware) :
    middleware.identifier = identifier := by
  rw [eq_of_ofStage h]

end Middleware

/-! ## What a run declares -/

namespace GeneratorRegistry

/-- The generators of an ordinary run are asked in this order. -/
theorem forShape?_standard (shape : Shape) : standard.forShape? shape
    = if shape.type = .service then some .service
      else if shape.isEnum then some .enum
      else if shape.isAggregate then some .struct
      else none := by
  cases shape.kind <;> simp_all [forShape?, standard, Generator.takes]

end GeneratorRegistry

namespace Shape

/-- The declarations for a shape, each with the unit that holds it. -/
def declarations (shape : Shape) : List (String × Declared) :=
  if shape.type = .service then (Declaration.ofClient "Client").map (clientUnit, ·)
  else if shape.isEnum then
    [(enumsUnit, .type shape.typeName),
      (enumsUnit, .constants (shape.constants.map Prod.fst))]
  else if shape.isAggregate then [(shape.typeUnit, .struct shape.typeName)]
  else []

/-- The unit that holds the declarations for a shape. -/
def unit? (shape : Shape) : Option String :=
  if shape.type = .service then some clientUnit
  else if shape.isType then some shape.typeUnit
  else none

/-- The declarations for an operation whose protocol has bodies. -/
def middlewareDeclarations (bodies : ProtocolBodies) (operation : Shape) :
    List (String × Declared) :=
  [(serializersUnit, .struct (bodies.name ++ "_serializeOp" ++ operation.typeName)),
    (deserializersUnit, .struct (bodies.name ++ "_deserializeOp" ++ operation.typeName))]

end Shape

/-! ## Packages -/

namespace Units

theorem directory_units : directory typesUnit = "types" ∧ directory errorsUnit = "types" ∧
    directory enumsUnit = "types" ∧ directory clientUnit = "" := by
  decide

theorem directory_middleware :
    directory serializersUnit = "" ∧ directory deserializersUnit = "" := by
  decide

end Units

/-- All types are in one package. -/
theorem Shape.directory_typeUnit (shape : Shape) : Units.directory shape.typeUnit = "types" := by
  obtain ⟨htypes, herrors, henums, -⟩ := Units.directory_units
  unfold typeUnit
  split
  · exact henums
  · split
    · exact herrors
    · exact htypes

namespace Outline

/-- The path of the package that the unit of a path belongs to. -/
def packagePath (outline : Outline) (path : String) : String :=
  if (Units.directory path).isEmpty then outline.context.settings.modulePath
  else outline.context.settings.modulePath ++ "/" ++ Units.directory path

theorem ownPath_blank (outline : Outline) (path : String) :
    (outline.blank path).imports.ownPath = some (outline.packagePath path) := by
  unfold blank Units.fresh packagePath
  dsimp only
  split <;> rfl

theorem used_blank (outline : Outline) (path : String) :
    (outline.blank path).imports.used = [] := by
  unfold blank Units.fresh
  dsimp only
  split <;> rfl

theorem keys_blank (outline : Outline) (path : String) :
    (outline.blank path).imports.keys = [] := by
  rw [Imports.keys, used_blank, List.map_nil]

/-- The imports of a unit are what its steps note. -/
theorem Written.imports_unit {outline : Outline} {manifest : Manifest}
    (h : outline.Written manifest) (path : String) : (outline.unit path).imports
      = (outline.blank path).imports.trackAll (Step.usesAll (outline.stepsAt path)) :=
  Writer.imports_run (h.runs path)

theorem Written.ownPath_unit {outline : Outline} {manifest : Manifest}
    (h : outline.Written manifest) (path : String) :
    (outline.unit path).imports.ownPath = some (outline.packagePath path) := by
  rw [h.imports_unit, Imports.ownPath_trackAll, ownPath_blank]

theorem packagePath_of_types {outline : Outline} {path : String}
    (h : Units.directory path = "types") :
    outline.packagePath path = typesPath outline.context.settings.modulePath := by
  rw [packagePath, h, typesPath, String.append_assoc]
  rfl

end Outline

/-! ## Passages -/

namespace Passage

variable {context : Context} {shape : Shape} {passages : List Passage}

/-- The declarations of a passage, with its path. -/
def declarations (passage : Passage) : List (String × Declared) :=
  (passage.steps.filterMap Step.declared?).map (passage.path, ·)

theorem ofShape_eq_ok {generators : GeneratorRegistry} {generator : Generator} {symbol : Symbol}
    {path : String} (hgenerator : generators.forShape? shape = some generator)
    (hsymbol : context.symbolOf shape = .ok symbol) (hpath : Units.pathOf symbol = .ok path)
    (h : ofShape context generators shape = .ok passages) :
    ∃ steps, generator.steps context shape = .ok steps ∧ passages = [⟨path, steps⟩] := by
  rw [ofShape, hgenerator, hsymbol] at h
  obtain ⟨_, hfound, h⟩ := bind_eq_ok.1 h
  obtain rfl := Except.ok.inj hfound
  obtain ⟨_, hfound, h⟩ := bind_eq_ok.1 h
  obtain rfl := Except.ok.inj (hpath.symm.trans hfound)
  obtain ⟨steps, hsteps, h⟩ := bind_eq_ok.1 h
  exact ⟨steps, hsteps, (pure_eq_ok.1 h).symm⟩

theorem pathOf_clientSymbol : Units.pathOf shape.clientSymbol = .ok clientUnit := by
  have hpath : clientUnit.isEmpty = false := by decide
  simp [Units.pathOf, Shape.clientSymbol, Symbol.unit?, hpath]

theorem pathOf_typeSymbol (modulePath : String) :
    Units.pathOf (shape.typeSymbol modulePath) = .ok shape.typeUnit := by
  have hpath : shape.typeUnit.isEmpty = false := by
    unfold Shape.typeUnit
    split
    · decide
    · split <;> decide
  simp [Units.pathOf, hpath]

theorem steps_of_service (hservice : shape.type = .service) {steps : List Step}
    (h : Generator.service.steps context shape = .ok steps) :
    ∃ transport, Declaration.httpTransport context shape = .ok transport ∧
      steps = Declaration.clientSteps context shape transport shape.clientSymbol := by
  obtain ⟨transport, htransport, h⟩ := bind_eq_ok.1 h
  obtain ⟨_, hsymbol, h⟩ := bind_eq_ok.1 h
  obtain rfl := Except.ok.inj ((Model.symbolOf_of_service hservice).symm.trans hsymbol)
  exact ⟨transport, htransport, (pure_eq_ok.1 h).symm⟩

theorem steps_of_enum (henum : shape.isEnum = true) {steps : List Step}
    (h : Generator.enum.steps context shape = .ok steps) :
    steps = Declaration.enumSteps context (shape.typeSymbol context.settings.modulePath)
      shape.constants := by
  have htype : shape.isType = true := by simp [Shape.isType, henum]
  obtain ⟨_, hsymbol, h⟩ := bind_eq_ok.1 h
  obtain rfl := Except.ok.inj ((Model.symbolOf_of_isType htype).symm.trans hsymbol)
  obtain ⟨labels, hlabels, h⟩ := bind_eq_ok.1 h
  rw [Shape.name_typeSymbol] at hlabels
  rw [Shape.constants_of_labels henum hlabels]
  exact (pure_eq_ok.1 h).symm

theorem steps_of_struct (haggregate : shape.isAggregate = true) {steps : List Step}
    (h : Generator.struct.steps context shape = .ok steps) :
    ∃ named fields, shape.fields = .ok named ∧ named.mapM context.fieldOf = .ok fields ∧
      steps = Declaration.structSteps context shape (shape.typeSymbol context.settings.modulePath)
        (Declaration.fieldsSteps context { found := fields }) := by
  have htype : shape.isType = true := by simp [Shape.isType, haggregate]
  obtain ⟨_, hsymbol, h⟩ := bind_eq_ok.1 h
  obtain rfl := Except.ok.inj ((Model.symbolOf_of_isType htype).symm.trans hsymbol)
  obtain ⟨named, hnamed, h⟩ := bind_eq_ok.1 h
  obtain ⟨fields, hfields, h⟩ := bind_eq_ok.1 h
  exact ⟨named, fields, mapError_eq_ok.1 hnamed, hfields, (pure_eq_ok.1 h).symm⟩

/-- The passages that a shape can have, by the generator that takes it. -/
inductive IsFor (context : Context) (shape : Shape) : List Passage → Prop where
  | service (type : shape.type = .service) (transport : Transport)
      (http : Declaration.httpTransport context shape = .ok transport) :
      IsFor context shape
        [⟨clientUnit, Declaration.clientSteps context shape transport shape.clientSymbol⟩]
  | enum (type : shape.isEnum = true) :
      IsFor context shape
        [⟨enumsUnit, Declaration.enumSteps context (shape.typeSymbol context.settings.modulePath)
          shape.constants⟩]
  | aggregate (type : shape.isAggregate = true) (named : List (String × Member))
      (fields : List Declaration.Field) (found : shape.fields = .ok named)
      (typed : named.mapM context.fieldOf = .ok fields) :
      IsFor context shape
        [⟨shape.typeUnit,
          Declaration.structSteps context shape (shape.typeSymbol context.settings.modulePath)
            (Declaration.fieldsSteps context { found := fields })⟩]
  | other (service : shape.type ≠ .service) (type : shape.isType = false) :
      IsFor context shape []

theorem isFor_of_isAggregate (haggregate : shape.isAggregate = true)
    (h : ofShape context .standard shape = .ok passages) : IsFor context shape passages := by
  have htype : shape.isType = true := by simp [Shape.isType, haggregate]
  have hgenerator : GeneratorRegistry.standard.forShape? shape = some .struct := by
    simp [GeneratorRegistry.forShape?_standard, Shape.type_ne_service_of_isType htype,
      Shape.not_isEnum_of_isAggregate haggregate, haggregate]
  obtain ⟨steps, hsteps, rfl⟩ :=
    ofShape_eq_ok hgenerator (Model.symbolOf_of_isType htype) (pathOf_typeSymbol _) h
  obtain ⟨named, fields, hnamed, hfields, rfl⟩ := steps_of_struct haggregate hsteps
  exact .aggregate haggregate named fields hnamed hfields

theorem isFor_of_ofShape (h : ofShape context .standard shape = .ok passages) :
    IsFor context shape passages := by
  have hgenerator := GeneratorRegistry.forShape?_standard shape
  cases shape.kind with
  | service type enum aggregate error =>
    rw [if_pos type] at hgenerator
    obtain ⟨steps, hsteps, rfl⟩ :=
      ofShape_eq_ok hgenerator (Model.symbolOf_of_service type) pathOf_clientSymbol h
    obtain ⟨transport, htransport, rfl⟩ := steps_of_service type hsteps
    exact .service type transport htransport
  | enum type enum aggregate error =>
    rw [if_neg type, if_pos enum] at hgenerator
    have htype : shape.isType = true := by simp [Shape.isType, enum]
    have hunit : shape.typeUnit = enumsUnit := by rw [Shape.typeUnit, if_pos enum]
    obtain ⟨steps, hsteps, rfl⟩ :=
      ofShape_eq_ok hgenerator (Model.symbolOf_of_isType htype) (pathOf_typeSymbol _) h
    rw [steps_of_enum enum hsteps, hunit]
    exact .enum enum
  | error type enum aggregate error => exact isFor_of_isAggregate aggregate h
  | plain type enum aggregate error => exact isFor_of_isAggregate aggregate h
  | other type enum aggregate error =>
    rw [ofShape, hgenerator, if_neg type, enum, aggregate] at h
    obtain rfl := Except.ok.inj h
    exact .other type (by simp [Shape.isType, enum, aggregate])

/-- **A shape is declared** by its passages, in its unit and under the name of its symbol. -/
theorem declarations_of_isFor (h : IsFor context shape passages)
    (hrun : ∀ passage ∈ passages, Step.Run passage.steps) :
    passages.flatMap declarations = shape.declarations := by
  cases h with
  | service type transport http =>
    rw [List.flatMap_singleton, declarations, Declaration.declared_clientSteps _ _
      (hrun _ List.mem_cons_self), Shape.declarations, if_pos type]
    rfl
  | enum type =>
    have hservice : shape.type ≠ .service :=
      Shape.type_ne_service_of_isType (by simp [Shape.isType, type])
    rw [List.flatMap_singleton, declarations, Declaration.declared_enumSteps, Shape.declarations,
      if_neg hservice, if_pos type, Shape.name_typeSymbol]
    rfl
  | aggregate type named fields found typed =>
    have hservice : shape.type ≠ .service :=
      Shape.type_ne_service_of_isType (by simp [Shape.isType, type])
    have henum : ¬ shape.isEnum = true := by simp [Shape.not_isEnum_of_isAggregate type]
    rw [List.flatMap_singleton, declarations, Declaration.declared_structSteps, Shape.declarations,
      if_neg hservice, if_neg henum, if_pos type, Shape.name_typeSymbol]
    rfl
  | other service type =>
    obtain ⟨haggregate, henum⟩ := Bool.or_eq_false_iff.1 type
    simp [Shape.declarations, service, henum, haggregate]

theorem ofMiddleware_eq_ok {path : String} {middleware : Except Failure Middleware}
    {operation : Shape} {body : HandlerBody}
    (h : ofMiddleware path middleware operation body = .ok passages) :
    ∃ found, middleware = .ok found ∧
      passages = [⟨path, found.steps [] (body.steps operation found)⟩] := by
  obtain ⟨found, hfound, h⟩ := bind_eq_ok.1 h
  exact ⟨found, hfound, (pure_eq_ok.1 h).symm⟩

/-- An operation has two passages, one in either unit of middleware. -/
theorem ofOperation_eq_ok {bodies : ProtocolBodies} {operation : Shape}
    (htype : operation.type = .operation)
    (h : ofOperation context bodies operation = .ok passages) :
    ∃ first second, serializer bodies operation.typeName = .ok first ∧
      deserializer bodies operation.typeName = .ok second ∧
      passages = [⟨serializersUnit, first.steps [] (bodies.serialize.steps operation first)⟩,
        ⟨deserializersUnit, second.steps [] (bodies.deserialize.steps operation second)⟩] := by
  obtain ⟨symbol, hsymbol, h⟩ := bind_eq_ok.1 h
  obtain ⟨-, hname, -⟩ :=
    Shape.operationSymbol_spec ((Model.symbolOf_of_operation htype).symm.trans hsymbol)
  obtain ⟨front, hfront, h⟩ := bind_eq_ok.1 h
  obtain ⟨back, hback, h⟩ := bind_eq_ok.1 h
  obtain rfl := pure_eq_ok.1 h
  rw [hname] at hfront hback
  obtain ⟨first, hfirst, rfl⟩ := ofMiddleware_eq_ok hfront
  obtain ⟨second, hsecond, rfl⟩ := ofMiddleware_eq_ok hback
  exact ⟨first, second, hfirst, hsecond, rfl⟩

/-- **An operation declares its two middlewares.** -/
theorem declarations_ofOperation {bodies : ProtocolBodies} {operation : Shape}
    (htype : operation.type = .operation)
    (h : ofOperation context bodies operation = .ok passages) :
    passages.flatMap declarations = operation.middlewareDeclarations bodies := by
  obtain ⟨first, second, hfirst, hsecond, rfl⟩ := ofOperation_eq_ok htype h
  simp only [List.flatMap_cons, List.flatMap_nil, List.append_nil, declarations,
    Middleware.declared_steps, Middleware.identifier_of_ofStage hfirst,
    Middleware.identifier_of_ofStage hsecond, Shape.middlewareDeclarations]
  rfl

/-- A protocol without bodies has no passages; one with bodies has those of every operation. -/
theorem ofProtocol_eq_ok {protocol : Option String} {shapes : List Shape}
    (h : ofProtocol context protocol shapes = .ok passages) :
    protocol.bind (Emission.bodies? context) = none ∧ passages = [] ∨
      ∃ bodies found, protocol.bind (Emission.bodies? context) = some bodies ∧
        (shapes.filter (·.type == .operation)).mapM (ofOperation context bodies) = .ok found ∧
        passages = found.flatten := by
  unfold ofProtocol at h
  split at h
  · rename_i hnone
    exact .inl ⟨hnone, (Except.ok.inj h).symm⟩
  · rename_i bodies hbodies
    obtain ⟨found, hfound, h⟩ := bind_eq_ok.1 h
    exact .inr ⟨bodies, found, hbodies, hfound, (pure_eq_ok.1 h).symm⟩

/-- **A shape is written into one unit**, if it is declared. -/
theorem paths_of_isFor (h : IsFor context shape passages) :
    passages.flatMap (fun passage => [passage.path]) = shape.unit?.toList := by
  cases h with
  | service type transport http => simp [Shape.unit?, type]
  | enum type =>
    simp [Shape.unit?, Shape.type_eq_string_of_isEnum type, Shape.isType, Shape.typeUnit, type]
  | aggregate type named fields found typed =>
    have hservice : shape.type ≠ .service :=
      Shape.type_ne_service_of_isType (by simp [Shape.isType, type])
    simp [Shape.unit?, hservice, Shape.isType, type]
  | other service type => simp [Shape.unit?, service, type]

theorem paths_of_ofOperation {bodies : ProtocolBodies} {operation : Shape}
    (htype : operation.type = .operation)
    (h : ofOperation context bodies operation = .ok passages) :
    passages.flatMap (fun passage => [passage.path]) = [serializersUnit, deserializersUnit] := by
  obtain ⟨_, _, -, -, rfl⟩ := ofOperation_eq_ok htype h
  rfl

end Passage

/-- The bodies for a protocol are those of an integration. -/
theorem Emission.exists_integration_of_bodies? {context : Context} {protocol : Option String}
    {bodies : ProtocolBodies} (h : protocol.bind (bodies? context) = some bodies) :
    ∃ integration ∈ context.integrations, bodies ∈ integration.bodies := by
  obtain ⟨protocol, -, hfind⟩ := Option.bind_eq_some_iff.1 h
  obtain ⟨integration, hmem, hbodies⟩ := List.mem_filterMap.1 (List.mem_of_find?_eq_some hfind)
  exact ⟨integration, (List.mem_filter.1 hmem).1, hbodies⟩

namespace Outline

variable {model : Model} {settings : Settings} {integrations : IntegrationRegistry}
  {generators : GeneratorRegistry} {outline : Outline} {manifest : Manifest}

/-- The bodies that the protocol of the run has, if it has some. -/
def bodies? (outline : Outline) : Option ProtocolBodies :=
  outline.protocol.bind (Emission.bodies? outline.context)

/-- The operations that the run generates code for. -/
def operations (outline : Outline) : List Shape :=
  outline.shapes.filter (·.type == .operation)

theorem type_of_mem_operations {operation : Shape} (h : operation ∈ outline.operations) :
    operation.type = .operation := by
  simpa using (List.mem_filter.1 h).2

/-- The declarations of the run, each with the unit that holds it, in the order of writing. -/
def declarations (outline : Outline) : List (String × Declared) :=
  outline.passages.flatMap Passage.declarations

/-- The declarations of the middleware. -/
def middleware (outline : Outline) : List (String × Declared) :=
  outline.bodies?.toList.flatMap fun bodies =>
    outline.operations.flatMap (·.middlewareDeclarations bodies)

/-- The declarations in the unit of a path. -/
def declared (outline : Outline) (path : String) : List Declared :=
  (outline.stepsAt path).filterMap Step.declared?

theorem declared_eq (outline : Outline) (path : String) :
    outline.declared path = (outline.declarations.filter (·.1 == path)).map Prod.snd := by
  unfold declared stepsAt declarations Passage.stepsAt
  induction outline.passages with
  | nil => rfl
  | cons passage rest ih =>
    rw [List.flatMap_cons, List.filter_append, List.map_append, ← ih]
    by_cases hpath : passage.path = path
    · simp [Passage.declarations, hpath, List.filter_map, Function.comp_def, List.filterMap_append]
    · simp [Passage.declarations, hpath, List.filter_map, Function.comp_def]

theorem all_eq_ok_of_of (h : Outline.of model settings integrations generators = .ok outline) :
    Passage.all outline.context generators outline.protocol outline.shapes
      = .ok outline.passages := by
  obtain ⟨⟨service, protocol⟩, -, h⟩ := bind_eq_ok.1 h
  obtain ⟨shapes, -, h⟩ := bind_eq_ok.1 h
  obtain ⟨indentText, -, h⟩ := bind_eq_ok.1 h
  obtain ⟨passages, hpassages, h⟩ := bind_eq_ok.1 h
  obtain rfl := pure_eq_ok.1 h
  exact hpassages

/-- The passages of a run are those of its shapes, of its protocol and of the package. -/
theorem passages_of_of (h : Outline.of model settings integrations generators = .ok outline) :
    ∃ declared middleware,
      outline.shapes.mapM (Passage.ofShape outline.context generators) = .ok declared ∧
      Passage.ofProtocol outline.context outline.protocol outline.shapes = .ok middleware ∧
      outline.passages = declared.flatten ++ middleware ++ [Passage.ofPackage outline.context] := by
  obtain ⟨declared, hdeclared, hall⟩ := bind_eq_ok.1 (all_eq_ok_of_of h)
  obtain ⟨middleware, hmiddleware, hall⟩ := bind_eq_ok.1 hall
  exact ⟨declared, middleware, hdeclared, hmiddleware, (pure_eq_ok.1 hall).symm⟩

theorem Written.run_of_mem (h : outline.Written manifest) {passage : Passage}
    (hmem : passage ∈ outline.passages) : Step.Run passage.steps := by
  have hsteps : passage ∈ outline.passages.filter (·.path == passage.path) := by
    simpa using hmem
  obtain ⟨first, second, hsplit⟩ := List.append_of_mem hsteps
  have hrun : Step.Run (outline.stepsAt passage.path) := ⟨_, h.runs passage.path⟩
  rw [stepsAt, Passage.stepsAt, hsplit, List.flatMap_append, List.flatMap_cons] at hrun
  exact hrun.of_append.2.of_append.1

/-- Where a passage of a run comes from. -/
inductive Source (outline : Outline) : Passage → Prop where
  | shape {shape : Shape} {passage : Passage} (mem : shape ∈ outline.shapes)
      (isFor : Passage.IsFor outline.context shape [passage]) : Source outline passage
  | serializer {bodies : ProtocolBodies} {operation : Shape} {middleware : Middleware}
      (hasBodies : outline.bodies? = some bodies) (mem : operation ∈ outline.operations)
      (found : Passage.serializer bodies operation.typeName = .ok middleware) :
      Source outline
        ⟨serializersUnit, middleware.steps [] (bodies.serialize.steps operation middleware)⟩
  | deserializer {bodies : ProtocolBodies} {operation : Shape} {middleware : Middleware}
      (hasBodies : outline.bodies? = some bodies) (mem : operation ∈ outline.operations)
      (found : Passage.deserializer bodies operation.typeName = .ok middleware) :
      Source outline
        ⟨deserializersUnit, middleware.steps [] (bodies.deserialize.steps operation middleware)⟩
  | package : Source outline (Passage.ofPackage outline.context)

/-- **Every passage comes from a shape, an operation or the package.** -/
theorem source_of_mem (h : Outline.of model settings integrations = .ok outline)
    {passage : Passage} (hmem : passage ∈ outline.passages) : outline.Source passage := by
  obtain ⟨declared, middleware, hdeclared, hmiddleware, hpassages⟩ := passages_of_of h
  rw [hpassages, List.mem_append, List.mem_append, List.mem_flatten] at hmem
  rcases hmem with (⟨passages, hpassages, hmem⟩ | hmem) | hmem
  · obtain ⟨shape, hshape, hfound⟩ := exists_of_mem_mapM hdeclared hpassages
    have hfor := Passage.isFor_of_ofShape hfound
    have hsingle : passages = [passage] := by
      cases hfor <;> simp_all
    exact .shape hshape (hsingle ▸ hfor)
  · rcases Passage.ofProtocol_eq_ok hmiddleware with
      ⟨-, rfl⟩ | ⟨bodies, found, hbodies, hfound, rfl⟩
    · simp at hmem
    · obtain ⟨passages, hpassages, hmem⟩ := List.mem_flatten.1 hmem
      obtain ⟨operation, hoperation, h⟩ := exists_of_mem_mapM hfound hpassages
      obtain ⟨first, second, hfirst, hsecond, rfl⟩ :=
        Passage.ofOperation_eq_ok (type_of_mem_operations hoperation) h
      rcases List.mem_cons.1 hmem with rfl | hmem
      · exact .serializer hbodies hoperation hfirst
      · obtain rfl := List.mem_singleton.1 hmem
        exact .deserializer hbodies hoperation hsecond
  · obtain rfl := List.mem_singleton.1 hmem
    exact .package

/-- What is gathered from the passages of a run, kind by kind. -/
theorem flatMap_passages {α : Type} {gather : Passage → List α} (ofShape : Shape → List α)
    (ofOperation : ProtocolBodies → Shape → List α)
    (h : Outline.of model settings integrations = .ok outline)
    (hshape : ∀ shape ∈ outline.shapes, ∀ passages : List Passage,
      (∀ passage ∈ passages, passage ∈ outline.passages) →
      Passage.IsFor outline.context shape passages → passages.flatMap gather = ofShape shape)
    (hoperation : ∀ bodies, outline.bodies? = some bodies → ∀ operation ∈ outline.operations,
      ∀ passages, Passage.ofOperation outline.context bodies operation = .ok passages →
      passages.flatMap gather = ofOperation bodies operation) :
    outline.passages.flatMap gather
      = outline.shapes.flatMap ofShape
        ++ (outline.bodies?.toList.flatMap fun bodies =>
          outline.operations.flatMap (ofOperation bodies))
        ++ gather (Passage.ofPackage outline.context) := by
  obtain ⟨declared, middleware, hdeclared, hmiddleware, hpassages⟩ := passages_of_of h
  have hshapes : declared.flatten.flatMap gather = outline.shapes.flatMap ofShape := by
    apply flatMap_flatten_of_mapM hdeclared
    intro shape hmem passages hfound hpassage
    refine hshape shape hmem passages (fun passage hin => ?_) (Passage.isFor_of_ofShape hpassage)
    rw [hpassages]
    exact List.mem_append_left _ (List.mem_append_left _
      (List.mem_flatten.2 ⟨passages, hfound, hin⟩))
  have hoperations : middleware.flatMap gather = outline.bodies?.toList.flatMap fun bodies =>
      outline.operations.flatMap (ofOperation bodies) := by
    rcases Passage.ofProtocol_eq_ok hmiddleware with
      ⟨hnone, rfl⟩ | ⟨bodies, found, hbodies, hfound, rfl⟩
    · rw [bodies?, hnone]
      rfl
    · rw [bodies?, hbodies, Option.toList_some, List.flatMap_singleton]
      exact flatMap_flatten_of_mapM hfound fun operation hmem passages _ hpassages' =>
        hoperation bodies hbodies operation hmem passages hpassages'
  rw [hpassages, List.flatMap_append, List.flatMap_append, hshapes, hoperations,
    List.flatMap_singleton]

/-- **A run makes the declarations of its shapes and of its middleware**, and no others. -/
theorem declarations_eq (h : Outline.of model settings integrations = .ok outline)
    (hwritten : outline.Written manifest) :
    outline.declarations = outline.shapes.flatMap Shape.declarations ++ outline.middleware := by
  rw [declarations, flatMap_passages Shape.declarations
    (fun bodies operation => operation.middlewareDeclarations bodies) h]
  · exact List.append_nil _
  · intro shape _ passages hmem hfor
    exact Passage.declarations_of_isFor hfor fun passage hpassage =>
      hwritten.run_of_mem (hmem passage hpassage)
  · intro bodies _ operation hoperation passages hpassages
    exact Passage.declarations_ofOperation (type_of_mem_operations hoperation) hpassages

/-- **A run writes the units of its shapes**, those of the middleware and that of the package's
documentation. -/
theorem paths_eq (h : Outline.of model settings integrations = .ok outline) :
    outline.paths = outline.shapes.flatMap (fun shape => shape.unit?.toList)
      ++ (outline.bodies?.toList.flatMap fun _ =>
        outline.operations.flatMap fun _ => [serializersUnit, deserializersUnit])
      ++ [docUnit] := by
  have hmap : outline.paths = outline.passages.flatMap fun passage => [passage.path] := by
    rw [paths, List.map_eq_flatMap]
  rw [hmap, flatMap_passages (fun shape => shape.unit?.toList)
    (fun _ _ => [serializersUnit, deserializersUnit]) h]
  · rfl
  · exact fun _ _ _ _ hfor => Passage.paths_of_isFor hfor
  · exact fun _ _ _ hoperation _ hpassages =>
      Passage.paths_of_ofOperation (type_of_mem_operations hoperation) hpassages

theorem mem_paths_iff (h : Outline.of model settings integrations = .ok outline) {path : String} :
    path ∈ outline.paths ↔ (∃ shape ∈ outline.shapes, shape.unit? = some path) ∨
      (outline.bodies?.isSome ∧ outline.operations ≠ [] ∧
        path ∈ [serializersUnit, deserializersUnit]) ∨ path = docUnit := by
  rw [paths_eq h]
  simp only [List.mem_append, List.mem_flatMap, Option.mem_toList, List.mem_singleton, or_assoc]
  refine or_congr Iff.rfl (or_congr ?_ Iff.rfl)
  rw [Option.isSome_iff_exists]
  constructor
  · rintro ⟨bodies, hbodies, operation, hoperation, hpath⟩
    exact ⟨⟨bodies, hbodies⟩, List.ne_nil_of_mem hoperation, hpath⟩
  · rintro ⟨⟨bodies, hbodies⟩, hoperations, hpath⟩
    obtain ⟨operation, hoperation⟩ := List.exists_mem_of_ne_nil _ hoperations
    exact ⟨bodies, hbodies, operation, hoperation, hpath⟩

theorem mem_of_unit?_eq_some {shape : Shape} {path : String} (h : shape.unit? = some path) :
    path ∈ [typesUnit, errorsUnit, enumsUnit, clientUnit] := by
  unfold Shape.unit? at h
  split at h
  · simp [← Option.some.inj h]
  · split at h
    · rw [← Option.some.inj h, Shape.typeUnit]
      split
      · simp
      · split <;> simp
    · simp at h

end Outline

end ClientGen
