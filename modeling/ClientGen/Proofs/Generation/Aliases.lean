import ClientGen.Proofs.Generation.Imports

/-!
# The names that imports bind

An import block binds a name for every package, and code that is qualified with a name means the
package that the name is bound to.  Imports are told apart by path and name together, so two
packages of one name are both imported.  The packages that generated code knows by itself have
different names; a clash takes a package that an integration brings along.

## Main definitions

* `Dependency.known` — the packages that generated code knows by itself.
* `Integration.Contributes` — the packages that an integration brings along.
* `Outline.Refers` — a unit uses a package other than its own.

## Main results

* `Outline.known_or_contributed` — everything that a unit uses is known or contributed.
* `Run.names_bound_once_iff` — a unit binds every name once exactly if no two packages that it uses
  share a name, and then its qualified names have one meaning.
-/

namespace ClientGen

/-! ## Known packages -/

namespace Dependency

/-- The packages that the generated code of a module knows by itself. -/
def known (modulePath : String) : List Dependency :=
  [context, fmt, mathBig, netHttp, time, smithy, smithyMiddleware, own (typesPath modulePath)]

/-- **Known packages have different names.** -/
theorem nodup_names_known (modulePath : String) : ((known modulePath).map name).Nodup := by
  simp only [known, List.map_cons, List.map_nil, name_own_typesPath]
  decide +kernel

theorem eq_of_mem_known {modulePath : String} {first second : Dependency}
    (hfirst : first ∈ known modulePath) (hsecond : second ∈ known modulePath)
    (hname : first.name = second.name) : first = second :=
  List.inj_on_of_nodup_map (nodup_names_known modulePath) hfirst hsecond hname

end Dependency

/-! ## Contributed packages -/

/-- The integration brings a package along: with the type of a field, with its resolver, or with
what its bodies use. -/
inductive Integration.Contributes (integration : Integration) (dependency : Dependency) : Prop where
  | field {field : ConfigField} (mem : field ∈ integration.fields)
      (uses : dependency ∈ field.type.dependencies)
  | resolver {symbol : Symbol} (found : symbol ∈ integration.resolver)
      (uses : dependency ∈ symbol.dependencies)
  | body {bodies : ProtocolBodies} (found : bodies ∈ integration.bodies) {body : HandlerBody}
      (mem : body = bodies.serialize ∨ body = bodies.deserialize) {operation : Shape}
      {middleware : Middleware}
      (uses : dependency ∈ Step.usesAll (body.steps operation middleware))

/-- The generated code knows the package by itself or from an integration. -/
def Context.Accounts (context : Context) (dependency : Dependency) : Prop :=
  dependency ∈ Dependency.known context.settings.modulePath ∨
    ∃ integration ∈ context.integrations, integration.Contributes dependency

/-! ## Symbols -/

/-- All packages that the symbol needs are of one kind. -/
def Symbol.NeedsOnly (P : Dependency → Prop) (symbol : Symbol) : Prop :=
  ∀ dependency ∈ symbol.dependencies, P dependency

namespace Symbol

variable {P : Dependency → Prop} {symbol : Symbol}

theorem needsOnly_of_none (h : symbol.core.dependency = none) : symbol.NeedsOnly P := by
  simp [NeedsOnly, dependencies_eq_core, h]

theorem needsOnly_of_some {dependency : Dependency} (h : symbol.core.dependency = some dependency)
    (hkind : P dependency) : symbol.NeedsOnly P := by
  simpa [NeedsOnly, dependencies_eq_core, h] using hkind

theorem needsOnly_congr {other : Symbol} (h : symbol.core = other.core)
    (hother : other.NeedsOnly P) : symbol.NeedsOnly P := by
  rwa [NeedsOnly, dependencies_eq_core, h, ← dependencies_eq_core]

end Symbol

namespace Shape

variable {modulePath : String} {shape : Shape} {symbol : Symbol}

theorem needsOnly_known_builtinType? {type : ShapeType} (h : builtinType? type = some symbol) :
    symbol.NeedsOnly (· ∈ Dependency.known modulePath) := by
  have htime : Dependency.time ∈ Dependency.known modulePath := by simp [Dependency.known]
  have hbig : Dependency.mathBig ∈ Dependency.known modulePath := by simp [Dependency.known]
  cases type <;> simp only [builtinType?, Option.some.injEq, reduceCtorEq] at h <;> subst h <;>
    first
      | exact Symbol.needsOnly_of_none rfl
      | exact Symbol.needsOnly_of_some rfl htime
      | exact Symbol.needsOnly_of_some rfl hbig

theorem needsOnly_known_ownSymbol? (h : shape.ownSymbol? modulePath = some (.ok symbol)) :
    symbol.NeedsOnly (· ∈ Dependency.known modulePath) := by
  rcases ownSymbol?_cases h with hnone | ⟨unit, isPointer, rfl⟩ | hbuiltin
  · exact Symbol.needsOnly_of_none hnone
  · exact Symbol.needsOnly_of_some rfl (by simp [Dependency.known])
  · exact needsOnly_known_builtinType? hbuiltin

end Shape

/-- **Symbols of shapes need known packages only.** -/
theorem Model.needsOnly_known_symbolWithin {model : Model} {modulePath : String} {depth : Nat}
    {shape : Shape} {symbol : Symbol} (h : model.symbolWithin modulePath depth shape = .ok symbol) :
    symbol.NeedsOnly (· ∈ Dependency.known modulePath) := by
  obtain ⟨last, own, hown, hcore⟩ := exists_ownSymbol?_of_symbolWithin h
  exact Symbol.needsOnly_congr hcore (Shape.needsOnly_known_ownSymbol? hown)

/-! ## Generators -/

/-- All packages that the part needs are of one kind. -/
def Part.NeedsOnly (P : Dependency → Prop) (part : Part) : Prop :=
  ∀ dependency ∈ part.dependencies, P dependency

theorem Part.hasTexts_needsOnly {P : Dependency → Prop} : HasTexts (NeedsOnly P) where
  text := by simp [NeedsOnly, dependencies]
  quoted := by simp [NeedsOnly, dependencies]

theorem Phrase.dependencies_of_madeOf {P : Dependency → Prop} {phrase : Phrase}
    (h : phrase.MadeOf (Part.NeedsOnly P)) : ∀ dependency ∈ phrase.dependencies, P dependency := by
  cases phrase with
  | parts found =>
    intro dependency hmem
    obtain ⟨part, hpart, hmem⟩ := List.mem_flatMap.1 hmem
    exact h part hpart dependency hmem
  | template source args => exact h.elim

namespace Step

variable {P : Dependency → Prop} {R : Failure → Prop}

mutual

theorem uses_of_madeOf :
    ∀ {step : Step}, step.MadeOf (Part.NeedsOnly P) R → ∀ dependency ∈ step.uses, P dependency
  | .write _ => fun h => Phrase.dependencies_of_madeOf h
  | .block _ _ _ => fun h => List.forall_mem_append.2 ⟨Phrase.dependencies_of_madeOf h.1,
      List.forall_mem_append.2 ⟨usesAll_of_madeOf h.2.1, Phrase.dependencies_of_madeOf h.2.2⟩⟩
  | .blank | .docs _ | .fail _ => fun _ _ hmem => by simp [uses] at hmem
  | .packageDocs _ | .indent _ | .dedent _ | .use _ => fun h => h.elim
termination_by structural step => step

/-- Steps use what their parts need. -/
theorem usesAll_of_madeOf : ∀ {steps : List Step}, AllMadeOf (Part.NeedsOnly P) R steps →
    ∀ dependency ∈ usesAll steps, P dependency
  | [] => fun _ _ hmem => by simp [usesAll] at hmem
  | _ :: _ => fun h => List.forall_mem_append.2 ⟨uses_of_madeOf h.1, usesAll_of_madeOf h.2⟩
termination_by structural steps => steps

end

end Step

namespace Generator

variable {context : Context} {shape : Shape}

theorem needsOnly_of_symbolOf {symbol : Symbol} (h : context.symbolOf shape = .ok symbol) :
    symbol.NeedsOnly context.Accounts :=
  fun dependency hmem => .inl (Model.needsOnly_known_symbolWithin h dependency hmem)

theorem needsOnly_of_fieldOf {named : List (String × Member)} {fields : List Declaration.Field}
    (h : named.mapM context.fieldOf = .ok fields) :
    ∀ field ∈ fields, field.type.NeedsOnly context.Accounts := by
  intro field hfield
  obtain ⟨member, -, hmember⟩ := exists_of_mem_mapM h hfield
  obtain ⟨type, htype, hmember⟩ := bind_eq_ok.1 hmember
  obtain rfl := pure_eq_ok.1 hmember
  obtain ⟨target, -, hsymbol⟩ := bind_eq_ok.1 htype
  exact needsOnly_of_symbolOf hsymbol

/-- A symbol of a known package, by the package. -/
theorem needsOnly_of_known {symbol : Symbol} {dependency : Dependency}
    (h : symbol.core.dependency = some dependency)
    (hknown : dependency ∈ Dependency.known context.settings.modulePath) :
    symbol.NeedsOnly context.Accounts :=
  Symbol.needsOnly_of_some h (.inl hknown)

/-- A client uses the stack and the transport, and what integrations contribute. -/
theorem accounts_of_serviceSteps {steps : List Step} (htransport : context.transport = some .http)
    (h : service.steps context shape = .ok steps) :
    ∀ dependency ∈ Step.usesAll steps, context.Accounts dependency := by
  obtain ⟨transport, hfound, h⟩ := bind_eq_ok.1 h
  obtain ⟨client, hclient, h⟩ := bind_eq_ok.1 h
  obtain rfl := pure_eq_ok.1 h
  obtain rfl : .http = transport := by
    rw [Declaration.httpTransport, htransport] at hfound
    exact Except.ok.inj hfound
  have hneeds := needsOnly_of_symbolOf hclient
  have hnone : ∀ name, (Symbol.value name).NeedsOnly context.Accounts :=
    fun name => Symbol.needsOnly_of_none rfl
  refine Step.usesAll_of_madeOf (R := fun _ => True) (Declaration.madeOf_clientSteps
    Part.hasTexts_needsOnly hneeds hneeds (hnone _) (hnone _) ?_ ?_ ?_ ?_ ?_ fun _ _ => trivial)
  · exact needsOnly_of_known rfl (by simp [Dependency.known])
  · exact needsOnly_of_known rfl (by simp [Dependency.known])
  · exact needsOnly_of_known rfl (by simp [Dependency.known])
  · intro integration hmem field hfield dependency huses
    exact .inr ⟨integration, hmem, .field hfield huses⟩
  · intro integration hmem resolver hresolver dependency huses
    exact .inr ⟨integration, hmem, .resolver hresolver huses⟩

/-- A structure uses the types of its fields, and an error what the runtime has for errors. -/
theorem accounts_of_structSteps {steps : List Step}
    (h : struct.steps context shape = .ok steps) :
    ∀ dependency ∈ Step.usesAll steps, context.Accounts dependency := by
  obtain ⟨symbol, hsymbol, h⟩ := bind_eq_ok.1 h
  obtain ⟨named, -, h⟩ := bind_eq_ok.1 h
  obtain ⟨fields, hfields, h⟩ := bind_eq_ok.1 h
  obtain rfl := pure_eq_ok.1 h
  have hneeds := needsOnly_of_symbolOf hsymbol
  have hsmithy : .smithy ∈ Dependency.known context.settings.modulePath := by
    simp [Dependency.known]
  refine Step.usesAll_of_madeOf (R := fun _ => True) (Declaration.madeOf_structSteps
    Part.hasTexts_needsOnly hneeds (Declaration.madeOf_fieldsSteps Part.hasTexts_needsOnly
      (needsOnly_of_fieldOf hfields) fun _ _ => trivial)
    fun _ => Declaration.madeOf_errorMethods Part.hasTexts_needsOnly hneeds ?_ ?_ ?_
      (fun _ _ => trivial) fun _ _ => trivial)
  · exact needsOnly_of_known rfl (by simp [Dependency.known])
  · exact needsOnly_of_known rfl hsmithy
  · intro fault hfault
    obtain ⟨name, rfl⟩ := Declaration.eq_of_faultSymbol hfault
    exact needsOnly_of_known rfl hsmithy

/-- **Generators use known and contributed packages only.** -/
theorem accounts_of_steps {generator : Generator} {steps : List Step}
    (htransport : context.transport = some .http) (h : generator.steps context shape = .ok steps) :
    ∀ dependency ∈ Step.usesAll steps, context.Accounts dependency := by
  have htexts := Part.hasTexts_needsOnly (P := context.Accounts)
  cases generator with
  | service => exact accounts_of_serviceSteps htransport h
  | enum =>
    obtain ⟨symbol, hsymbol, h⟩ := bind_eq_ok.1 h
    obtain ⟨labels, -, h⟩ := bind_eq_ok.1 h
    obtain rfl := pure_eq_ok.1 h
    exact Step.usesAll_of_madeOf (R := fun _ => True)
      (Declaration.madeOf_enumSteps htexts (needsOnly_of_symbolOf hsymbol))
  | struct => exact accounts_of_structSteps h
  | remark type =>
    obtain ⟨symbol, hsymbol, h⟩ := bind_eq_ok.1 h
    obtain rfl := pure_eq_ok.1 h
    refine Step.usesAll_of_madeOf (R := fun _ => True) ?_
    have hname : Part.NeedsOnly context.Accounts (.name symbol) := needsOnly_of_symbolOf hsymbol
    simp [Step.line, hname, htexts.text]

end Generator

/-- **Middleware uses known packages**, and what its handler uses. -/
theorem Middleware.accounts_of_steps {context : Context} {stage : Stage} {identifier : String}
    {middleware : Middleware} (h : ofStage stage (some identifier) = .ok middleware)
    {handler : List Step}
    (hhandler : ∀ dependency ∈ Step.usesAll handler, context.Accounts dependency) :
    ∀ dependency ∈ Step.usesAll (middleware.steps [] handler), context.Accounts dependency := by
  have hknown : ∀ symbol ∈ [Symbol.contextType, .metadataType, middleware.input,
      middleware.output, middleware.handler], symbol.NeedsOnly context.Accounts := by
    have hcontext : context.Accounts .context := .inl (by simp [Dependency.known])
    have hstack : context.Accounts .smithyMiddleware := .inl (by simp [Dependency.known])
    rw [eq_of_ofStage h]
    simp only [List.forall_mem_cons]
    exact ⟨Symbol.needsOnly_of_some rfl hcontext, Symbol.needsOnly_of_some rfl hstack,
      Symbol.needsOnly_of_some rfl hstack, Symbol.needsOnly_of_some rfl hstack,
      Symbol.needsOnly_of_some rfl hstack, by simp⟩
  intro dependency hmem
  rw [usesAll_steps, List.mem_append, List.mem_append] at hmem
  rcases hmem with (hmem | hmem) | hmem
  · obtain ⟨symbol, hsymbol, hmem⟩ := List.mem_flatMap.1 hmem
    exact hknown symbol hsymbol dependency hmem
  · -- The signature names the same symbols in another order.
    obtain ⟨symbol, hsymbol, hmem⟩ := List.mem_flatMap.1 hmem
    refine hknown symbol ?_ dependency hmem
    simp only [List.mem_cons] at hsymbol ⊢
    tauto
  · exact hhandler dependency hmem

/-! ## Units -/

namespace Outline

variable {model : Model} {settings : Settings} {integrations : IntegrationRegistry}
  {generators : GeneratorRegistry} {outline : Outline}

theorem accounts_of_mem (h : Outline.of model settings integrations generators = .ok outline)
    (hstarted : outline.Started model settings integrations) {passage : Passage}
    (hmem : passage ∈ outline.passages) :
    ∀ dependency ∈ Step.usesAll passage.steps, outline.context.Accounts dependency := by
  obtain ⟨declared, middleware, hdeclared, hmiddleware, hpassages⟩ := passages_of_of h
  rw [hpassages, List.mem_append, List.mem_append, List.mem_flatten] at hmem
  rcases hmem with (⟨passages, hfound, hmem⟩ | hmem) | hmem
  · -- The passage declares a shape.
    obtain ⟨shape, -, hshape⟩ := exists_of_mem_mapM hdeclared hfound
    unfold Passage.ofShape at hshape
    split at hshape
    · obtain rfl := Except.ok.inj hshape
      simp at hmem
    · obtain ⟨symbol, -, hshape⟩ := bind_eq_ok.1 hshape
      obtain ⟨path, -, hshape⟩ := bind_eq_ok.1 hshape
      obtain ⟨steps, hsteps, hshape⟩ := bind_eq_ok.1 hshape
      obtain rfl := pure_eq_ok.1 hshape
      obtain rfl := List.mem_singleton.1 hmem
      exact Generator.accounts_of_steps (by rw [hstarted.context]) hsteps
  · -- It declares a middleware of an operation.
    rcases Passage.ofProtocol_eq_ok hmiddleware with
      ⟨-, rfl⟩ | ⟨bodies, found, hbodies, hfound, rfl⟩
    · simp at hmem
    · obtain ⟨integration, hintegration, hcontributes⟩ :=
        Emission.exists_integration_of_bodies? hbodies
      obtain ⟨passages, hmiddlewares, hmem⟩ := List.mem_flatten.1 hmem
      obtain ⟨operation, hoperation, hpassages⟩ := exists_of_mem_mapM hfound hmiddlewares
      obtain ⟨first, second, hfirst, hsecond, rfl⟩ :=
        Passage.ofOperation_eq_ok (type_of_mem_operations hoperation) hpassages
      rcases List.mem_cons.1 hmem with rfl | hmem
      · exact Middleware.accounts_of_steps hfirst fun dependency huses =>
          .inr ⟨integration, hintegration, .body hcontributes (.inl rfl) huses⟩
      · obtain rfl := List.mem_singleton.1 hmem
        exact Middleware.accounts_of_steps hsecond fun dependency huses =>
          .inr ⟨integration, hintegration, .body hcontributes (.inr rfl) huses⟩
  · obtain rfl := List.mem_singleton.1 hmem
    simp [Passage.ofPackage, Step.usesAll, Step.uses]

/-- **Everything that a unit uses is known or contributed.** -/
theorem known_or_contributed (h : Outline.of model settings integrations generators = .ok outline)
    (hstarted : outline.Started model settings integrations) {path : String}
    {dependency : Dependency} (hmem : dependency ∈ Step.usesAll (outline.stepsAt path)) :
    outline.context.Accounts dependency := by
  rw [stepsAt, Passage.stepsAt, Step.usesAll_flatMap] at hmem
  obtain ⟨passage, hpassage, hmem⟩ := List.mem_flatMap.1 hmem
  exact accounts_of_mem h hstarted (List.mem_filter.1 hpassage).1 dependency hmem

/-- The unit of a path uses a package that is not its own. -/
def Refers (outline : Outline) (path : String) (dependency : Dependency) : Prop :=
  Imports.IsForeign (some (outline.packagePath path)) dependency.path ∧
    dependency ∈ Step.usesAll (outline.stepsAt path)

theorem Written.mem_packages_iff {manifest : Manifest} (h : outline.Written manifest)
    {path : String} {package : String × String} :
    package ∈ (outline.unit path).imports.packages ↔
      ∃ dependency, outline.Refers path dependency ∧ dependency.key = package := by
  rw [(outline.unit path).imports.packages_perm_keys.mem_iff, h.imports_unit,
    Imports.mem_keys_trackAll, keys_blank]
  simp only [List.not_mem_nil, false_or, Imports.isOwn_eq_false_iff, ownPath_blank, Refers]
  constructor
  · rintro ⟨dependency, hmem, hkey, hforeign⟩
    exact ⟨dependency, ⟨hforeign, hmem⟩, hkey⟩
  · rintro ⟨dependency, ⟨hforeign, hmem⟩, hkey⟩
    exact ⟨dependency, hmem, hkey, hforeign⟩

theorem Written.nodup_packages {manifest : Manifest} (h : outline.Written manifest)
    (path : String) : (outline.unit path).imports.packages.Nodup := by
  rw [(outline.unit path).imports.packages_perm_keys.nodup_iff, h.imports_unit]
  exact Imports.nodup_keys_trackAll _ (by simp [keys_blank])

end Outline

/-- The names that the import block binds, line by line. -/
def Imports.names (imports : Imports) : List String :=
  imports.packages.map Prod.snd

namespace Run

variable {model : Model} {settings : Settings} {integrations : IntegrationRegistry}
  {generators : GeneratorRegistry} {manifest : Manifest}

/-- **A unit binds every name once** exactly if no two packages that it uses share a name; its own
package does not count.  Of two packages that share a name, one is brought along by an integration.
Where every name is bound once, a qualified name means the one package whose import binds it. -/
theorem names_bound_once_iff
    (h : (Run.of model settings integrations generators).result = .ok manifest) :
    ∃ outline, Outline.of model settings integrations generators = .ok outline ∧
      outline.Written manifest ∧
      ∀ path ∈ outline.paths,
        ((outline.unit path).imports.names.Nodup ↔ ∀ first second, outline.Refers path first →
          outline.Refers path second → first.name = second.name → first.path = second.path) ∧
        (∀ first second, outline.Refers path first → outline.Refers path second →
          first.name = second.name → first.path ≠ second.path →
          ∃ integration ∈ integrations.integrations,
            integration.Contributes first ∨ integration.Contributes second) ∧
        ((outline.unit path).imports.names.Nodup →
          ∀ symbol ∈ Step.renderedAll (outline.stepsAt path), symbol.IsQualified →
            ∀ package, symbol.package? = some package →
              Imports.IsForeign (some (outline.packagePath path)) package.1 →
              ∀ other, (other ∈ (outline.unit path).imports.packages ∧ other.2 = package.2) ↔
                other = package) := by
  obtain ⟨outline, houtline, hstarted, hwritten⟩ := exists_outline h
  refine ⟨outline, houtline, hwritten, fun path _ => ⟨?_, ?_, ?_⟩⟩
  · rw [Imports.names, List.nodup_map_iff_inj_on (hwritten.nodup_packages path)]
    constructor
    · intro hinj first second hfirst hsecond hname
      have hkey := hinj first.key (hwritten.mem_packages_iff.2 ⟨first, hfirst, rfl⟩) second.key
        (hwritten.mem_packages_iff.2 ⟨second, hsecond, rfl⟩) hname
      exact congrArg Prod.fst hkey
    · intro hclear package hpackage other hother hname
      obtain ⟨first, hfirst, rfl⟩ := hwritten.mem_packages_iff.1 hpackage
      obtain ⟨second, hsecond, rfl⟩ := hwritten.mem_packages_iff.1 hother
      exact Prod.ext (hclear first second hfirst hsecond hname) hname
  · intro first second hfirst hsecond hname hpath
    have hall : outline.context.integrations = integrations.integrations := by
      rw [hstarted.context]
    rw [← hall]
    -- Known packages have different names, so not both of them are known.
    rcases Outline.known_or_contributed houtline hstarted hfirst.2 with
      hknown | ⟨integration, hmem, hcontributes⟩
    · rcases Outline.known_or_contributed houtline hstarted hsecond.2 with
        hknown' | ⟨integration, hmem, hcontributes⟩
      · exact absurd (congrArg Dependency.path (Dependency.eq_of_mem_known hknown hknown' hname))
          hpath
      · exact ⟨integration, hmem, .inr hcontributes⟩
    · exact ⟨integration, hmem, .inl hcontributes⟩
  · intro hnodup symbol hsymbol hqualified package hpackage hforeign other
    obtain ⟨dependency, hmem, rfl⟩ := hqualified.package?_eq_some_iff.1 hpackage
    have huses := Step.dependencies_subset_of_mem_renderedAll hsymbol hmem
    have hlisted : dependency.key ∈ (outline.unit path).imports.packages :=
      hwritten.mem_packages_iff.2 ⟨dependency, ⟨hforeign, huses⟩, rfl⟩
    constructor
    · rintro ⟨hother, hname⟩
      exact List.inj_on_of_nodup_map hnodup hother hlisted hname
    · rintro rfl
      exact ⟨hlisted, rfl⟩

end Run

/-! ## Two packages of one name -/

namespace Sample

/-- Two packages of the standard library whose paths end alike. -/
def textTemplate : Dependency := .of "text/template"

def htmlTemplate : Dependency := .of "html/template"

/-- An integration with a field from either package. -/
def templating : Integration where
  name := "templating"
  fields := [{ name := "A", type := .value "T" textTemplate },
    { name := "B", type := .value "T" htmlTemplate }]

theorem exists_templating_manifest : ∃ outline manifest,
    (Run.of model settings { integrations := [templating] }).result = .ok manifest ∧
      Outline.of model settings { integrations := [templating] } = .ok outline ∧
      outline.Written manifest ∧
      outline.context = { context with integrations := [templating] } ∧ outline.protocol = none ∧
      outline.shapes = [input, operation, service] :=
  exists_manifest_of_writes { integrations := [templating] } (by decide +kernel)

end Sample

namespace Run

theorem names_bound_once_iff_templating : ∃ manifest,
    (Run.of Sample.model Sample.settings { integrations := [Sample.templating] }).result
        = .ok manifest ∧
      ∃ outline, Outline.of Sample.model Sample.settings { integrations := [Sample.templating] }
          = .ok outline ∧
        outline.Written manifest ∧
        ∀ path ∈ outline.paths,
          ((outline.unit path).imports.names.Nodup ↔ ∀ first second, outline.Refers path first →
            outline.Refers path second → first.name = second.name → first.path = second.path) ∧
          (∀ first second, outline.Refers path first → outline.Refers path second →
            first.name = second.name → first.path ≠ second.path →
            ∃ integration ∈ [Sample.templating],
              integration.Contributes first ∨ integration.Contributes second) ∧
          ((outline.unit path).imports.names.Nodup →
            ∀ symbol ∈ Step.renderedAll (outline.stepsAt path), symbol.IsQualified →
              ∀ package, symbol.package? = some package →
                Imports.IsForeign (some (outline.packagePath path)) package.1 →
                ∀ other, (other ∈ (outline.unit path).imports.packages ∧ other.2 = package.2) ↔
                  other = package) := by
  obtain ⟨_, manifest, h, -⟩ := Sample.exists_templating_manifest
  exact ⟨manifest, h, names_bound_once_iff h⟩

/-- The unit of the client imports two packages under one name. -/
theorem names_bound_twice : ∃ outline manifest,
    (Run.of Sample.model Sample.settings { integrations := [Sample.templating] }).result
        = .ok manifest ∧
      Outline.of Sample.model Sample.settings { integrations := [Sample.templating] }
        = .ok outline ∧
      outline.Written manifest ∧ clientUnit ∈ outline.paths ∧
      ("text/template", "template") ∈ (outline.unit clientUnit).imports.packages ∧
      ("html/template", "template") ∈ (outline.unit clientUnit).imports.packages := by
  obtain ⟨outline, manifest, h, houtline, hwritten, hcontext, hprotocol, hshapes⟩ :=
    Sample.exists_templating_manifest
  have hpassages := Outline.all_eq_ok_of_of houtline
  rw [hcontext, hprotocol, hshapes] at hpassages
  have hpath : clientUnit ∈ outline.paths := by
    refine (Outline.mem_paths_iff houtline).2 (.inl ⟨Sample.service, ?_, rfl⟩)
    rw [hshapes]
    simp
  have hnoted := congrArg (Except.map fun passages =>
    decide (∀ dependency ∈ [Sample.textTemplate, Sample.htmlTemplate],
      dependency ∈ Step.usesAll (Passage.stepsAt passages clientUnit))) hpassages
  replace hnoted := of_decide_eq_true (Except.ok.inj hnoted).symm
  have hforeign : ∀ dependency ∈ [Sample.textTemplate, Sample.htmlTemplate],
      Imports.IsForeign (some (outline.packagePath clientUnit)) dependency.path := by
    rw [Outline.packagePath, hcontext]
    simp only [List.forall_mem_cons]
    exact ⟨.inr (by decide +kernel), .inr (by decide +kernel), by simp⟩
  refine ⟨outline, manifest, h, houtline, hwritten, hpath, ?_, ?_⟩
  · exact hwritten.mem_packages_iff.2
      ⟨Sample.textTemplate, ⟨hforeign _ (by simp), hnoted _ (by simp)⟩, rfl⟩
  · exact hwritten.mem_packages_iff.2
      ⟨Sample.htmlTemplate, ⟨hforeign _ (by simp), hnoted _ (by simp)⟩, rfl⟩

end Run

end ClientGen
