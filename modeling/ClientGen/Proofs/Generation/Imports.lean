import ClientGen.Proofs.Declaration.Parts
import ClientGen.Proofs.Generation.Inventory
import ClientGen.Proofs.Writer.Rendering

/-!
# The imports of a run

Code that imports a package without using it is refused, as is code that uses a package without
importing it.  Every unit of a run imports exactly the packages of the symbols that it renders, its
own package apart, if the symbols from outside are built like those of the run, and if the bodies of
handlers pass no symbol that their middleware does not render.

## Main definitions

* `Integration.IsBuilt` — the symbols of an integration are built from values and references.
* `HandlerBody.IsFrugal` — a body passes only what its middleware renders.

## Main results

* `HandlerBody.isFrugal_ofTemplates` — bodies from templates are frugal.
* `Run.imports_exact` — the imports of every unit are those of the symbols that it renders.
-/

namespace ClientGen

/-! ## Symbols -/

namespace Symbol

@[simp]
theorem isQualified_value (name : String) (dependency : Option Dependency) :
    (value name dependency).IsQualified :=
  (IsBuilt.value name dependency).isQualified

@[simp]
theorem isQualified_reference (name : String) (dependency : Option Dependency) :
    (reference name dependency).IsQualified :=
  (IsBuilt.reference name dependency).isQualified

theorem isQualified_of_none {symbol : Symbol} (h : symbol.core.dependency = none) :
    symbol.IsQualified := by
  intro dependency hdependency
  simp [h] at hdependency

end Symbol

namespace Shape

variable {shape : Shape}

theorem isQualified_declaredType (modulePath unit : String) (isPointer : Bool) :
    (shape.declaredType modulePath unit isPointer).IsQualified := by
  intro dependency h
  obtain rfl : Dependency.own (typesPath modulePath) = dependency := Option.some.inj h
  rfl

theorem isQualified_builtinType? {type : ShapeType} {symbol : Symbol}
    (h : builtinType? type = some symbol) : symbol.IsQualified := by
  cases type <;> simp only [builtinType?, Option.some.injEq, reduceCtorEq] at h <;> subst h <;> simp

theorem isQualified_ownSymbol? {modulePath : String} {symbol : Symbol}
    (h : shape.ownSymbol? modulePath = some (.ok symbol)) : symbol.IsQualified := by
  rcases ownSymbol?_cases h with hnone | ⟨unit, isPointer, rfl⟩ | hbuiltin
  · exact Symbol.isQualified_of_none hnone
  · exact isQualified_declaredType _ _ _
  · exact isQualified_builtinType? hbuiltin

end Shape

/-- **Symbols of shapes are qualified** with the names of their packages. -/
theorem Model.isQualified_symbolWithin {model : Model} {modulePath : String} {depth : Nat}
    {shape : Shape} {symbol : Symbol} (h : model.symbolWithin modulePath depth shape = .ok symbol) :
    symbol.IsQualified := by
  obtain ⟨last, own, hown, hcore⟩ := exists_ownSymbol?_of_symbolWithin h
  rw [Symbol.IsQualified, hcore]
  exact Shape.isQualified_ownSymbol? hown

/-! ## Generators -/

namespace Step

variable {own : Option String} {R : Failure → Prop}

mutual

theorem isFaithful_of_madeOf :
    ∀ {step : Step}, step.MadeOf (Part.IsFaithful own) R → step.IsFaithful own
  | .write (.parts _) | .write (.template ..) => id
  | .block (.parts _) (.parts _) _ => fun h => ⟨h.1, allFaithful_of_madeOf h.2.1, h.2.2⟩
  | .block (.template ..) _ _ => fun h => h.1.elim
  | .block (.parts _) (.template ..) _ => fun h => h.2.2.elim
  | .use _ => fun h => h.elim
  | .blank | .docs _ | .packageDocs _ | .indent _ | .dedent _ | .fail _ => fun _ => trivial
termination_by structural step => step

/-- Steps that are made of faithful parts are faithful. -/
theorem allFaithful_of_madeOf :
    ∀ {steps : List Step}, AllMadeOf (Part.IsFaithful own) R steps → AllFaithful own steps
  | [] => fun _ => trivial
  | _ :: _ => fun h => ⟨isFaithful_of_madeOf h.1, allFaithful_of_madeOf h.2⟩
termination_by structural steps => steps

end

end Step

namespace Declaration

variable {context : Context} {shape : Shape} {own : Option String}

theorem hasTexts_isFaithful : Part.HasTexts (Part.IsFaithful own) where
  text _ := trivial
  quoted _ := trivial

theorem allFaithful_clientSteps {transport : Transport}
    (hrequest : transport.request.IsQualified) (hresponse : transport.response.IsQualified)
    (hfields : ∀ integration ∈ context.integrations, ∀ field ∈ integration.fields,
      field.type.IsQualified)
    (hresolvers : ∀ integration ∈ context.integrations, ∀ resolver ∈ integration.resolver,
      resolver.IsQualified) (client : Symbol) (h : client.core.dependency = none) :
    Step.AllFaithful own (clientSteps context shape transport client) :=
  Step.allFaithful_of_madeOf (R := fun _ => True) (madeOf_clientSteps hasTexts_isFaithful
    (Symbol.isAtHome_of_none h) (Symbol.isQualified_of_none h) (Symbol.isQualified_value _ _)
    (Symbol.isQualified_value _ _) (Symbol.isQualified_reference _ _) hrequest hresponse hfields
    hresolvers fun _ _ => trivial)

theorem allFaithful_enumSteps {symbol : Symbol} {labels : List (String × EnumValue)}
    (h : symbol.IsAtHome own) : Step.AllFaithful own (enumSteps context symbol labels) :=
  Step.allFaithful_of_madeOf (R := fun _ => True) (madeOf_enumSteps hasTexts_isFaithful h)

theorem isQualified_faultSymbol {symbol : Symbol} (h : faultSymbol shape = .ok symbol) :
    symbol.IsQualified := by
  obtain ⟨name, rfl⟩ := eq_of_faultSymbol h
  exact Symbol.isQualified_value _ _

theorem allFaithful_structSteps {symbol : Symbol} {fields : List Field}
    (h : symbol.IsAtHome own) (hsymbol : symbol.IsQualified)
    (hfields : ∀ field ∈ fields, field.type.IsQualified) :
    Step.AllFaithful own
      (structSteps context shape symbol (fieldsSteps context { found := fields })) := by
  have hmethods : Step.AllMadeOf (Part.IsFaithful own) (fun _ => True)
      (errorMethods context shape symbol) :=
    madeOf_errorMethods hasTexts_isFaithful hsymbol (Symbol.isQualified_value _ _)
      (Symbol.isQualified_value _ _) (fun _ hfault => isQualified_faultSymbol hfault)
      (fun _ _ => trivial) (fun _ _ => trivial)
  have hbody : Step.AllMadeOf (Part.IsFaithful own) (fun _ => True)
      (fieldsSteps context { found := fields }) :=
    madeOf_fieldsSteps hasTexts_isFaithful hfields fun _ _ => trivial
  exact Step.allFaithful_of_madeOf
    (madeOf_structSteps hasTexts_isFaithful h hbody fun _ => hmethods)

end Declaration

/-! ## Middleware -/

namespace Middleware

variable {middleware : Middleware} {own : Option String}

theorem isBuilt_of_ofStage {stage : Stage} {identifier : String}
    (h : ofStage stage (some identifier) = .ok middleware) :
    middleware.input.IsBuilt ∧ middleware.output.IsBuilt ∧ middleware.handler.IsBuilt := by
  rw [eq_of_ofStage h]
  exact ⟨.value _ _, .value _ _, .value _ _⟩

/-- The symbols that a middleware renders whatever its handler does. -/
theorem renderedAll_steps (middleware : Middleware) (handler : List Step) :
    Step.renderedAll (middleware.steps [] handler)
      = [middleware.symbol, middleware.symbol, .contextType, middleware.input, middleware.handler,
          middleware.output, .metadataType] ++ Step.renderedAll handler := by
  simp [steps, idMethod, signature, Step.renderedAll, Step.rendered,
    Phrase.rendered, Part.rendered, Step.line]

theorem usesAll_steps (middleware : Middleware) (handler : List Step) :
    Step.usesAll (middleware.steps [] handler)
      = [Symbol.contextType, .metadataType, middleware.input, middleware.output,
          middleware.handler].flatMap Symbol.dependencies
        ++ [Symbol.contextType, middleware.input, middleware.handler, middleware.output,
          .metadataType].flatMap Symbol.dependencies ++ Step.usesAll handler := by
  simp [steps, idMethod, signature, Step.usesAll, Step.uses,
    Phrase.dependencies, Part.dependencies, Step.line, symbol, Symbol.reference,
    Symbol.dependencies]

/-- **The notes of a middleware are exact** if its handler notes what the middleware renders. -/
theorem exact_steps {handler : List Step} (hinput : middleware.input.IsQualified)
    (houtput : middleware.output.IsQualified) (hhandler : middleware.handler.IsQualified)
    (hqualified : ∀ symbol ∈ Step.renderedAll handler, symbol.IsQualified)
    (hnoted : ∀ dependency ∈ Step.usesAll handler,
      ∃ symbol ∈ Step.renderedAll (middleware.steps [] handler),
        dependency ∈ symbol.dependencies) :
    Imports.Exact own (Step.usesAll (middleware.steps [] handler))
      (Step.renderedAll (middleware.steps [] handler)) := by
  refine Imports.exact_of_forall ?_
    (fun symbol hsymbol => Step.dependencies_subset_of_mem_renderedAll hsymbol) ?_
  · rw [renderedAll_steps]
    simp only [List.forall_mem_append, List.forall_mem_cons]
    exact ⟨⟨Symbol.isQualified_reference _ _, Symbol.isQualified_reference _ _,
      Symbol.isQualified_value _ _, hinput, hhandler, houtput, Symbol.isQualified_value _ _,
      by simp⟩, hqualified⟩
  · intro dependency hdependency
    rw [usesAll_steps, List.mem_append, List.mem_append] at hdependency
    -- It notes its signature twice, once before it starts, and renders the whole of it.
    have hsignature : ∀ symbols : List Symbol, symbols ⊆ [middleware.symbol, middleware.symbol,
        .contextType, middleware.input, middleware.handler, middleware.output, .metadataType] →
        dependency ∈ symbols.flatMap Symbol.dependencies →
        ∃ symbol ∈ Step.renderedAll (middleware.steps [] handler),
          dependency ∈ symbol.dependencies := by
      intro symbols hsubset hmem
      obtain ⟨symbol, hsymbol, hmem⟩ := List.mem_flatMap.1 hmem
      refine ⟨symbol, ?_, hmem⟩
      rw [renderedAll_steps]
      exact List.mem_append_left _ (hsubset hsymbol)
    rcases hdependency with (h | h) | h
    · exact hsignature _ (by simp) h
    · exact hsignature _ (by simp) h
    · exact hnoted dependency h

end Middleware

namespace HandlerBody

/-- The body renders built symbols only, and passes only what its middleware renders. -/
def IsFrugal (body : HandlerBody) : Prop :=
  ∀ (operation : Shape) (stage : Stage) (identifier : String) (middleware : Middleware),
    Middleware.ofStage stage (some identifier) = .ok middleware →
    (∀ symbol ∈ Step.renderedAll (body.steps operation middleware), symbol.IsBuilt) ∧
      ∀ dependency ∈ Step.usesAll (body.steps operation middleware),
        ∃ symbol ∈ Step.renderedAll (middleware.steps [] (body.steps operation middleware)),
          dependency ∈ symbol.dependencies

/-- Of what templates are given, they can only write the types of the step. -/
theorem mem_of_written? {operation : String} {middleware : Middleware} {print : Print}
    {symbol : Symbol}
    (h : print.written? (("operation", .ofText operation) :: middleware.arguments) = some symbol) :
    symbol ∈ [middleware.input, middleware.output, middleware.handler] := by
  obtain ⟨value, hlookup, hwritten⟩ := Option.bind_eq_some_iff.1 h
  have hvalue : (∃ data, value = .data data) ∨ ∃ symbol, value = .symbol symbol ∧
      symbol ∈ [middleware.input, middleware.output, middleware.handler] := by
    obtain ⟨before, after, hsplit, -⟩ := List.lookup_eq_some_iff.1 hlookup
    have hmem : (print.name, value)
        ∈ ("operation", Value.ofText operation) :: middleware.arguments := by
      rw [hsplit]
      simp
    simp only [Middleware.arguments, List.mem_cons, Prod.mk.injEq, List.not_mem_nil,
      or_false] at hmem
    rcases hmem with ⟨-, rfl⟩ | ⟨-, rfl⟩ | ⟨-, rfl⟩ | ⟨-, rfl⟩ | ⟨-, rfl⟩ | ⟨-, rfl⟩
    · exact .inl ⟨_, rfl⟩
    · exact .inl ⟨_, rfl⟩
    · exact .inl ⟨_, rfl⟩
    · exact .inr ⟨_, rfl, by simp⟩
    · exact .inr ⟨_, rfl, by simp⟩
    · exact .inr ⟨_, rfl, by simp⟩
  rcases hvalue with ⟨data, rfl⟩ | ⟨found, rfl, hfound⟩
  · simp [Value.written?] at hwritten
  · rwa [Value.eq_of_written?_symbol hwritten]

theorem mem_renderedAll_body {args : Arguments} {templates : List String} {symbol : Symbol}
    (h : symbol ∈ Step.renderedAll (Middleware.body args templates)) :
    ∃ print : Print, print.written? args = some symbol := by
  rw [Middleware.body, List.map_eq_flatMap, Step.renderedAll_flatMap] at h
  obtain ⟨template, -, h⟩ := List.mem_flatMap.1 h
  simp only [Step.renderedAll, Step.rendered, Phrase.rendered, List.append_nil] at h
  split at h
  · obtain ⟨piece, -, hpiece⟩ := List.mem_filterMap.1 h
    cases piece with
    | text literal => simp at hpiece
    | print statement => exact ⟨statement, hpiece⟩
  · simp at h

theorem usesAll_body_subset (args : Arguments) (templates : List String) :
    Step.usesAll (Middleware.body args templates) ⊆ Value.dependenciesFields args := by
  intro dependency h
  rw [Middleware.body, List.map_eq_flatMap, Step.usesAll_flatMap] at h
  obtain ⟨template, -, h⟩ := List.mem_flatMap.1 h
  simpa [Step.usesAll, Step.uses, Phrase.dependencies] using h

/-- **Bodies from templates are frugal.** -/
theorem isFrugal_ofTemplates (templates : List String) : (ofTemplates templates).IsFrugal := by
  intro operation stage identifier middleware hmiddleware
  obtain ⟨hinput, houtput, hhandler⟩ := Middleware.isBuilt_of_ofStage hmiddleware
  constructor
  · intro symbol hsymbol
    obtain ⟨print, hprint⟩ := mem_renderedAll_body hsymbol
    have hmem := mem_of_written? hprint
    simp only [List.mem_cons, List.not_mem_nil, or_false] at hmem
    rcases hmem with rfl | rfl | rfl
    · exact hinput
    · exact houtput
    · exact hhandler
  · intro dependency hdependency
    have hgiven := usesAll_body_subset _ _ hdependency
    simp only [Middleware.arguments, Value.dependenciesFields, Value.dependencies, Value.ofText,
      List.nil_append, List.append_nil, List.mem_append] at hgiven
    rw [Middleware.renderedAll_steps]
    rcases hgiven with h | h | h
    · exact ⟨middleware.input, by simp, h⟩
    · exact ⟨middleware.output, by simp, h⟩
    · exact ⟨middleware.handler, by simp, h⟩

end HandlerBody

/-- The symbols of the integration are built from values and references, and its bodies are
frugal. -/
structure Integration.IsWellFormed (integration : Integration) : Prop where
  fields : ∀ field ∈ integration.fields, field.type.IsBuilt
  resolver : ∀ symbol ∈ integration.resolver, symbol.IsBuilt
  bodies : ∀ bodies ∈ integration.bodies, bodies.serialize.IsFrugal ∧ bodies.deserialize.IsFrugal

/-! ## Units -/

namespace Outline

variable {model : Model} {settings : Settings} {integrations : IntegrationRegistry}
  {outline : Outline} {manifest : Manifest}

/-- A type is at home in the units of its package. -/
theorem isAtHome_typeSymbol (outline : Outline) (shape : Shape) {path : String}
    (hpath : Units.directory path = "types") :
    (shape.typeSymbol outline.context.settings.modulePath).IsAtHome
      (some (outline.packagePath path)) := by
  rw [packagePath_of_types hpath]
  -- The path of the package of types is never empty, so it counts as the own one.
  intro dependency hdependency
  obtain rfl := List.mem_singleton.1 hdependency
  rintro (hempty | hne)
  · have hlist := congrArg String.toList hempty
    simp [Dependency.own, Dependency.of, typesPath] at hlist
  · exact hne rfl

theorem exact_middleware {body : HandlerBody} (hbody : body.IsFrugal) {stage : Stage}
    {identifier : String} {middleware : Middleware}
    (h : Middleware.ofStage stage (some identifier) = .ok middleware)
    (operation : Shape) (own : Option String) :
    Imports.Exact own (Step.usesAll (middleware.steps [] (body.steps operation middleware)))
      (Step.renderedAll (middleware.steps [] (body.steps operation middleware))) := by
  obtain ⟨hinput, houtput, hhandler⟩ := Middleware.isBuilt_of_ofStage h
  obtain ⟨hbuilt, hnoted⟩ := hbody operation stage identifier middleware h
  exact Middleware.exact_steps hinput.isQualified houtput.isQualified hhandler.isQualified
    (fun symbol hsymbol => (hbuilt symbol hsymbol).isQualified) hnoted

theorem isFrugal_of_bodies? (hstarted : outline.Started model settings integrations)
    (hintegrations : ∀ integration ∈ integrations.integrations, integration.IsWellFormed)
    {bodies : ProtocolBodies} (h : outline.bodies? = some bodies) :
    bodies.serialize.IsFrugal ∧ bodies.deserialize.IsFrugal := by
  obtain ⟨integration, hmem, hbodies⟩ := Emission.exists_integration_of_bodies? h
  rw [hstarted.context] at hmem
  exact (hintegrations integration hmem).bodies bodies hbodies

theorem allFaithful_client (hstarted : outline.Started model settings integrations)
    (hintegrations : ∀ integration ∈ integrations.integrations, integration.IsWellFormed)
    {shape : Shape} {transport : Transport}
    (http : Declaration.httpTransport outline.context shape = .ok transport) (own : Option String) :
    Step.AllFaithful own
      (Declaration.clientSteps outline.context shape transport shape.clientSymbol) := by
  have htransport : transport = .http := by
    rw [hstarted.context] at http
    exact (Except.ok.inj http).symm
  have hall : outline.context.integrations = integrations.integrations := by
    rw [hstarted.context]
  rw [htransport]
  refine Declaration.allFaithful_clientSteps (Symbol.isQualified_reference _ _)
    (Symbol.isQualified_reference _ _) ?_ ?_ _ rfl
  · rw [hall]
    exact fun integration hmem field hfield =>
      ((hintegrations integration hmem).fields field hfield).isQualified
  · rw [hall]
    exact fun integration hmem resolver hresolver =>
      ((hintegrations integration hmem).resolver resolver hresolver).isQualified

theorem isQualified_of_fieldOf {context : Context} {named : List (String × Member)}
    {fields : List Declaration.Field} (h : named.mapM context.fieldOf = .ok fields) :
    ∀ field ∈ fields, field.type.IsQualified := by
  intro field hfield
  obtain ⟨member, -, hmember⟩ := exists_of_mem_mapM h hfield
  obtain ⟨type, htype, hmember⟩ := bind_eq_ok.1 hmember
  obtain rfl := pure_eq_ok.1 hmember
  obtain ⟨target, -, hsymbol⟩ := bind_eq_ok.1 htype
  exact Model.isQualified_symbolWithin hsymbol

/-- **The notes of every passage are exact.** -/
theorem exact_of_mem (h : Outline.of model settings integrations = .ok outline)
    (hstarted : outline.Started model settings integrations)
    (hintegrations : ∀ integration ∈ integrations.integrations, integration.IsWellFormed)
    {passage : Passage} (hmem : passage ∈ outline.passages) :
    Imports.Exact (some (outline.packagePath passage.path)) (Step.usesAll passage.steps)
      (Step.renderedAll passage.steps) := by
  cases source_of_mem h hmem with
  | @shape shape _ hshape hfor =>
    cases hfor with
    | service type transport http =>
      exact Step.exact_of_allFaithful (allFaithful_client hstarted hintegrations http _)
    | enum type =>
      exact Step.exact_of_allFaithful (Declaration.allFaithful_enumSteps
        (outline.isAtHome_typeSymbol shape Units.directory_units.2.2.1))
    | aggregate type named fields found typed =>
      exact Step.exact_of_allFaithful (Declaration.allFaithful_structSteps
        (outline.isAtHome_typeSymbol shape shape.directory_typeUnit)
        (Shape.isQualified_declaredType _ _ _) (isQualified_of_fieldOf typed))
  | serializer hbodies hoperation hfound =>
    obtain ⟨hserialize, -⟩ := isFrugal_of_bodies? hstarted hintegrations hbodies
    exact exact_middleware hserialize hfound _ _
  | deserializer hbodies hoperation hfound =>
    obtain ⟨-, hdeserialize⟩ := isFrugal_of_bodies? hstarted hintegrations hbodies
    exact exact_middleware hdeserialize hfound _ _
  | package => exact .nil

/-- **The notes of every unit are exact.** -/
theorem exact_stepsAt (h : Outline.of model settings integrations = .ok outline)
    (hstarted : outline.Started model settings integrations)
    (hintegrations : ∀ integration ∈ integrations.integrations, integration.IsWellFormed)
    (path : String) :
    Imports.Exact (some (outline.packagePath path)) (Step.usesAll (outline.stepsAt path))
      (Step.renderedAll (outline.stepsAt path)) := by
  rw [stepsAt, Passage.stepsAt, Step.usesAll_flatMap, Step.renderedAll_flatMap]
  apply Imports.Exact.flatMap
  intro passage hpassage
  obtain ⟨hmem, hpath⟩ := List.mem_filter.1 hpassage
  rw [← beq_iff_eq.1 hpath]
  exact exact_of_mem h hstarted hintegrations hmem

end Outline

namespace Run

variable {model : Model} {settings : Settings} {integrations : IntegrationRegistry}
  {manifest : Manifest}

/-- **Imports are exact.**  In a successful run with well-formed integrations, the import block of a
unit lists a package exactly if the unit renders a symbol of it and the package is not the unit's
own, and it lists no package twice.  A package with an empty path never counts as the own one.  What
a unit renders of other packages stands in its lines behind the names of these packages. -/
theorem imports_exact (h : (Run.of model settings integrations).result = .ok manifest)
    (hintegrations : ∀ integration ∈ integrations.integrations, integration.IsWellFormed) :
    ∃ outline, Outline.of model settings integrations = .ok outline ∧ outline.Written manifest ∧
      ∀ path ∈ outline.paths, (outline.unit path).imports.packages.Nodup ∧
        (∀ package, package ∈ (outline.unit path).imports.packages ↔
          (package.1 = "" ∨ package.1 ≠ outline.packagePath path) ∧
            ∃ symbol ∈ Step.renderedAll (outline.stepsAt path), symbol.package? = some package) ∧
        ∀ symbol ∈ Step.renderedAll (outline.stepsAt path), ∀ package,
          symbol.package? = some package → package.1 ≠ outline.packagePath path →
            (outline.unit path).Shows (Symbol.qualified symbol.core) := by
  obtain ⟨outline, houtline, hstarted, hwritten⟩ := exists_outline h
  refine ⟨outline, houtline, hwritten, ?_⟩
  intro path _
  have hperm := (outline.unit path).imports.packages_perm_keys
  have hblank : (outline.blank path).imports.keys = [] := outline.keys_blank path
  refine ⟨hperm.nodup_iff.2 ?_, fun package => ?_, fun symbol hsymbol package hpackage hother => ?_⟩
  · rw [hwritten.imports_unit]
    exact Imports.nodup_keys_trackAll _ (by simp [hblank])
  · have hown : ∀ dependency : Dependency, (outline.blank path).imports.isOwn dependency = false ↔
        Imports.IsForeign (some (outline.packagePath path)) dependency.path := by
      intro dependency
      rw [Imports.isOwn_eq_false_iff, Outline.ownPath_blank]
    have hforeign : (package.1 = "" ∨ package.1 ≠ outline.packagePath path) ↔
        Imports.IsForeign (some (outline.packagePath path)) package.1 :=
      or_congr Iff.rfl ⟨fun hne heq => hne (Option.some.inj heq).symm,
        fun hne heq => hne (congrArg some heq.symm)⟩
    have hexact := Outline.exact_stepsAt houtline hstarted hintegrations path package
    rw [hperm.mem_iff, hwritten.imports_unit, Imports.mem_keys_trackAll, hblank, hforeign]
    simp only [List.not_mem_nil, false_or, hown]
    constructor
    · rintro ⟨dependency, hmem, rfl, hpath⟩
      exact ⟨hpath, (hexact hpath).1 ⟨dependency, hmem, rfl⟩⟩
    · rintro ⟨hpath, hrendered⟩
      obtain ⟨dependency, hmem, rfl⟩ := (hexact hpath).2 hrendered
      exact ⟨dependency, hmem, rfl, hpath⟩
  · have hshown := Writer.shows_run (outline.ownPath_blank path) (hwritten.runs path) hsymbol
    rwa [Symbol.qualified_core_relativeTo hpackage fun heq => hother (Option.some.inj heq).symm]
      at hshown

end Run

/-! ## Runs with integrations -/

namespace Sample

/-- A package of somebody else. -/
def package : Dependency := .of "example.com/auth"

/-- An integration with a field, a resolver and bodies. -/
def integration : Integration where
  name := "auth"
  fields := [{ name := "Signers", type := (Symbol.value "Signer" package).slice }]
  resolver := Symbol.value "Resolve" package
  bodies := some {
    protocol := "aws.protocols#restJson1"
    serialize := ["return next.HandleSerialize(ctx, in)"]
    deserialize := ["return next.HandleDeserialize(ctx, in)"] }

/-- The settings for a run with the bodies of the integration. -/
def protocolSettings : Settings :=
  { settings with protocol := .str "aws.protocols#restJson1" }

/-- A package with an empty path. -/
def pathless : Dependency := .of "" "z"

/-- An integration with a field from the package without a path. -/
def pathlessIntegration : Integration where
  name := "pathless"
  fields := [{ name := "F", type := .value "T" pathless }]

/-- The settings for a module with an empty path. -/
def pathlessSettings : Settings :=
  { settings with moduleName := .str "" }

theorem isWellFormed_integration : integration.IsWellFormed where
  fields := by
    simp only [integration, List.mem_singleton, forall_eq]
    exact .slice (.value _ _)
  resolver := by
    simp only [integration, Option.mem_def, Option.some.injEq, forall_eq']
    exact .value _ _
  bodies := by
    simp only [integration, Option.mem_def, Option.some.injEq, forall_eq']
    exact ⟨HandlerBody.isFrugal_ofTemplates _, HandlerBody.isFrugal_ofTemplates _⟩

theorem isWellFormed_pathlessIntegration : pathlessIntegration.IsWellFormed where
  fields := by
    simp only [pathlessIntegration, List.mem_singleton, forall_eq]
    exact .value _ _
  resolver := by simp [pathlessIntegration]
  bodies := by simp [pathlessIntegration]

end Sample

namespace Run

theorem imports_exact_sample : ∃ manifest,
    (Run.of Sample.model Sample.protocolSettings { integrations := [Sample.integration] }).result
        = .ok manifest ∧
      (∀ integration ∈ [Sample.integration], integration.IsWellFormed) ∧
      ∃ outline, Outline.of Sample.model Sample.protocolSettings
          { integrations := [Sample.integration] } = .ok outline ∧ outline.Written manifest ∧
        ∀ path ∈ outline.paths, (outline.unit path).imports.packages.Nodup ∧
          (∀ package, package ∈ (outline.unit path).imports.packages ↔
            (package.1 = "" ∨ package.1 ≠ outline.packagePath path) ∧
              ∃ symbol ∈ Step.renderedAll (outline.stepsAt path),
                symbol.package? = some package) ∧
          ∀ symbol ∈ Step.renderedAll (outline.stepsAt path), ∀ package,
            symbol.package? = some package → package.1 ≠ outline.packagePath path →
              (outline.unit path).Shows (Symbol.qualified symbol.core) := by
  have hchosen : choose Sample.model Sample.protocolSettings
      = .ok (Sample.service, some "aws.protocols#restJson1") :=
    choose_of_traits_eq_nil rfl rfl rfl rfl
  have hwellFormed : ∀ integration ∈ [Sample.integration], integration.IsWellFormed := by
    simpa using Sample.isWellFormed_integration
  obtain ⟨_, manifest, h, -⟩ := Run.exists_manifest { integrations := [Sample.integration] } hchosen
    rfl Sample.closure_eq (by decide +kernel)
  exact ⟨manifest, h, hwellFormed, imports_exact h hwellFormed⟩

/-- The package without a path is that of the client in a module without a path, and the unit of the
client imports it nevertheless. -/
theorem imports_own_package : ∃ outline manifest,
    (Run.of Sample.model Sample.pathlessSettings
        { integrations := [Sample.pathlessIntegration] }).result = .ok manifest ∧
      Outline.of Sample.model Sample.pathlessSettings
        { integrations := [Sample.pathlessIntegration] } = .ok outline ∧
      outline.Written manifest ∧
      (∀ integration ∈ [Sample.pathlessIntegration], integration.IsWellFormed) ∧
      clientUnit ∈ outline.paths ∧
      Sample.pathless.path = outline.packagePath clientUnit ∧
      Sample.pathless.key ∈ (outline.unit clientUnit).imports.packages := by
  have hchosen : choose Sample.model Sample.pathlessSettings = .ok (Sample.service, none) :=
    choose_of_traits_eq_nil rfl rfl rfl rfl
  obtain ⟨outline, manifest, h, houtline, hwritten, hcontext, hprotocol, hshapes⟩ :=
    Run.exists_manifest { integrations := [Sample.pathlessIntegration] } hchosen rfl
      Sample.closure_eq (by decide +kernel)
  have hpassages := Outline.all_eq_ok_of_of houtline
  rw [hcontext, hprotocol, hshapes] at hpassages
  have hpath : clientUnit ∈ outline.paths := by
    refine (Outline.mem_paths_iff houtline).2 (.inl ⟨Sample.service, ?_, rfl⟩)
    rw [hshapes]
    exact List.mem_filter.2 ⟨by simp, rfl⟩
  have hnoted : Sample.pathless ∈ Step.usesAll (outline.stepsAt clientUnit) := by
    have hread := congrArg (Except.map fun passages =>
      decide (Sample.pathless ∈ Step.usesAll (Passage.stepsAt passages clientUnit))) hpassages
    exact of_decide_eq_true (Except.ok.inj hread).symm
  refine ⟨outline, manifest, h, houtline, hwritten,
    by simpa using Sample.isWellFormed_pathlessIntegration, hpath, ?_, ?_⟩
  · rw [Outline.packagePath, hcontext]
    decide +kernel
  · -- The paths are equal, but an empty path is never the own one.
    rw [(outline.unit clientUnit).imports.packages_perm_keys.mem_iff, hwritten.imports_unit,
      Imports.mem_keys_trackAll]
    exact .inr ⟨Sample.pathless, hnoted, rfl, Imports.isOwn_eq_false_iff.2 (.inl rfl)⟩

end Run

end ClientGen
