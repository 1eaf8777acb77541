import ClientGen.Proofs.Declaration.Client
import ClientGen.Proofs.Generation.Documentation
import ClientGen.Proofs.Generation.Imports
import ClientGen.Proofs.Generation.Names
import ClientGen.Proofs.Model.Document
import Mathlib.Data.List.Basic

/-!
# What integrations contribute

An integration contributes to a run through the client of a service: it adds fields to the options
and a resolver to the constructor, and it may have the bodies of the protocol.  For the constructor
and the bodies it must count for the service that the settings name, for the options it must count
for the service whose client is declared.  As a rule these are one service, and then integrations
that do not count for it can be left out.  They differ if the settings name a built-in service,
which has no client of its own, and another service can be reached from it.

## Main definitions

* `Context.keeping` — the context of a run with some of its integrations.
* `Outline.services` — the services that the run declares clients for.
* `Outline.DeclaresClient` — what integrations contribute to the client of a service.

## Main results

* `Emission.of_keeping` — integrations that count for no service of a run can be left out.
* `Run.contributions` — what integrations contribute to a successful run.
* `Declaration.options_isLegal_iff` — when the options with these fields are a legal type.
-/

namespace ClientGen

/-! ## Fewer integrations -/

namespace Integration

/-- Leaving out what does not count for a service does not change what counts for it. -/
theorem filter_applies_filter {integrations : List Integration} {keep : Integration → Bool}
    {service : Shape} (h : ∀ integration ∈ integrations, keep integration = false →
      integration.applies service = false) :
    (integrations.filter keep).filter (·.applies service)
      = integrations.filter (·.applies service) := by
  rw [List.filter_filter]
  apply List.filter_congr
  intro integration hmem
  cases hkeep : keep integration with
  | true => rw [Bool.and_true]
  | false => rw [h integration hmem hkeep, Bool.false_and]

theorem collectFields_filter {integrations : List Integration} {keep : Integration → Bool}
    {service : Shape} (h : ∀ integration ∈ integrations, keep integration = false →
      integration.applies service = false) :
    collectFields (integrations.filter keep) service = collectFields integrations service := by
  rw [collectFields, filter_applies_filter h, collectFields]

end Integration

namespace Context

/-- The context with the integrations that are kept. -/
def keeping (context : Context) (keep : Integration → Bool) : Context :=
  { context with integrations := context.integrations.filter keep }

/-- What is not kept counts for none of the services. -/
def Spares (context : Context) (keep : Integration → Bool) (services : List Shape) : Prop :=
  ∀ integration ∈ context.integrations, keep integration = false →
    ∀ service ∈ services, integration.applies service = false

variable {context : Context} {keep : Integration → Bool} {services : List Shape} {shape : Shape}

theorem Spares.matching (h : context.Spares keep services) (hmem : context.service ∈ services) :
    (context.keeping keep).matching = context.matching :=
  Integration.filter_applies_filter fun integration hintegration hkeep =>
    h integration hintegration hkeep _ hmem

theorem Spares.collectFields (h : context.Spares keep services) (hmem : shape ∈ services) :
    Integration.collectFields (context.keeping keep).integrations shape
      = Integration.collectFields context.integrations shape :=
  Integration.collectFields_filter fun integration hintegration hkeep =>
    h integration hintegration hkeep _ hmem

end Context

namespace Declaration

variable {context : Context} {keep : Integration → Bool} {services : List Shape} {shape : Shape}

/-- A client is declared as with all integrations. -/
theorem ofService_keeping (h : context.Spares keep services) (hservice : context.service ∈ services)
    (hshape : shape ∈ services) :
    ofService (context.keeping keep) shape = ofService context shape := by
  have hsteps : ∀ transport client, clientSteps (context.keeping keep) shape transport client
      = clientSteps context shape transport client := by
    intro transport client
    rw [clientSteps, clientConstructor, constructorBody, h.matching hservice,
      h.collectFields hshape]
    rfl
  simp only [ofService, hsteps]
  rfl

theorem typed_keeping (context : Context) (keep : Integration → Bool) :
    typed (context.keeping keep) = typed context := by
  funext table named
  induction named generalizing table with
  | nil => rfl
  | cons head rest ih =>
    simp only [typed, ih]
    rfl

theorem ofStruct_keeping (context : Context) (keep : Integration → Bool) (shape : Shape) :
    ofStruct (context.keeping keep) shape = ofStruct context shape := by
  rw [ofStruct, typed_keeping]
  rfl

end Declaration

namespace Emission

open Declaration

variable {context : Context} {keep : Integration → Bool} {services shapes : List Shape}
  {generators : GeneratorRegistry}

theorem declare_keeping (h : context.Spares keep services) (hservice : context.service ∈ services)
    {shape : Shape} (generator : Generator) (hshape : generator = .service → shape ∈ services) :
    declare (context.keeping keep) generator shape = declare context generator shape := by
  have hdeclare : generator.declare (context.keeping keep) shape
      = generator.declare context shape := by
    cases generator with
    | service => exact ofService_keeping h hservice (hshape rfl)
    | enum => rfl
    | struct => exact ofStruct_keeping context keep shape
    | remark type => rfl
  simp only [declare, hdeclare]
  rfl

theorem bodies?_keeping (h : context.Spares keep services) (hservice : context.service ∈ services) :
    bodies? (context.keeping keep) = bodies? context := by
  funext protocol
  rw [bodies?, h.matching hservice, bodies?]

/-- **Integrations that count for no service of a run can be left out**: all units are written as
with them. -/
theorem of_keeping (h : context.Spares keep services) (hservice : context.service ∈ services)
    (hshapes : ∀ shape ∈ shapes, generators.forShape? shape = some .service → shape ∈ services)
    (protocol : Option String) (start : Emission) :
    of (context.keeping keep) generators protocol shapes start
      = of context generators protocol shapes start := by
  -- Only clients, and the bodies for the protocol, look at integrations.
  have hdeclare : declareAll (context.keeping keep) generators shapes start
      = declareAll context generators shapes start := by
    apply List.foldl_ext
    intro emission shape hmem
    congr 1
    funext emission
    dsimp only
    split
    · rename_i generator hgenerator
      rw [declare_keeping h hservice generator fun heq => hshapes shape hmem (heq ▸ hgenerator)]
    · rfl
  have hprotocol : writeProtocol (context.keeping keep) protocol shapes
      = writeProtocol context protocol shapes := by
    funext emission
    simp only [writeProtocol, bodies?_keeping h hservice]
    rfl
  rw [of, hdeclare, hprotocol]
  rfl

end Emission

/-! ## Runs -/

theorem GeneratorRegistry.type_of_forShape? {generators : GeneratorRegistry} {shape : Shape}
    (h : generators.forShape? shape = some .service) : shape.type = .service := by
  obtain ⟨entry, hentry, hgenerator⟩ := Option.map_eq_some_iff.1 h
  have htakes := List.find?_some hentry
  rw [hgenerator] at htakes
  simpa [Generator.takes] using htakes

namespace Outline

/-- The services that the run declares clients for. -/
def services (outline : Outline) : List Shape :=
  outline.shapes.filter (·.type == .service)

/-- What integrations contribute to the client of a service: the constructor copies the options,
calls the resolvers of the integrations that count for the service of the run, in their order, each
of which can end it with an error, and returns the client; the options have the fields of the
integrations that count for the service itself, in their order, between two of their own. -/
structure DeclaresClient (outline : Outline) (service : Shape) (steps : List Step) : Prop where
  constructor : ∃ body, steps.filterMap Step.function? = [("New", body)] ∧
    Step.statements? body
      = some (.copy :: (outline.context.matching.filterMap (·.resolver)).map .resolve
        ++ [.build service.clientSymbol, .finish])
  fields : Step.fieldsOf "Options" steps = Declaration.optionFields
    (Integration.contributed outline.context.integrations service)

variable {model : Model} {settings : Settings} {integrations : IntegrationRegistry}
  {generators : GeneratorRegistry} {outline : Outline} {manifest : Manifest}

theorem declaresClient (h : Outline.of model settings integrations generators = .ok outline)
    (hwritten : outline.Written manifest) {service : Shape} (hmem : service ∈ outline.services)
    (hgenerator : generators.forShape? service = some .service) :
    ∃ steps, ⟨clientUnit, steps⟩ ∈ outline.passages ∧ outline.DeclaresClient service steps := by
  have htype := GeneratorRegistry.type_of_forShape? hgenerator
  obtain ⟨declared, middleware, hdeclared, -, hpassages⟩ := passages_of_of h
  obtain ⟨passages, hfound, hpassage⟩ :=
    exists_mem_of_mapM hdeclared (List.mem_filter.1 hmem).1
  obtain ⟨steps, hsteps, rfl⟩ := Passage.ofShape_eq_ok hgenerator
    (Model.symbolOf_of_service htype) Passage.pathOf_clientSymbol hpassage
  obtain ⟨transport, -, rfl⟩ := Passage.steps_of_service htype hsteps
  have hin : ⟨clientUnit, Declaration.clientSteps outline.context service transport
      service.clientSymbol⟩ ∈ outline.passages := by
    rw [hpassages]
    exact List.mem_append_left _ (List.mem_append_left _
      (List.mem_flatten.2 ⟨_, hfound, List.mem_singleton.2 rfl⟩))
  have hrun := hwritten.run_of_mem hin
  have hname : service.clientSymbol.name ≠ "Options" := by
    simp [Shape.clientSymbol, Symbol.name]
  exact ⟨_, hin, ⟨_, Declaration.functions_clientSteps hrun,
    Declaration.statements_constructorBody _⟩, Declaration.fieldsOf_options hname hrun⟩

/-- A client has one service. -/
theorem Started.eq_of_mem_services (hstarted : outline.Started model settings integrations)
    (hreadable : ∀ shape ∈ outline.shapes, shape.id.IsReadable) {s t : Shape}
    (hs : s ∈ outline.services) (ht : t ∈ outline.services) : s = t := by
  obtain ⟨table, hreserved⟩ := hstarted.reserved
  obtain ⟨hs, hstype⟩ := List.mem_filter.1 hs
  obtain ⟨ht, httype⟩ := List.mem_filter.1 ht
  have howner : ∀ shape ∈ outline.shapes, shape.type = .service →
      table.owner? "." "Client" = some shape.id.text := by
    intro shape hmem htype
    exact (hreserved shape hmem).client ("Client", shape.id.text)
      (by simp [Shape.clientClaims, htype])
  have htext : s.id.text = t.id.text :=
    Option.some.inj ((howner s hs (by simpa using hstype)).symm.trans
      (howner t ht (by simpa using httype)))
  have hnodup : (outline.shapes.map (·.id.text)).Nodup :=
    List.pairwise_map.2 (hstarted.pairwise_text_ne hreadable)
  exact List.inj_on_of_nodup_map hnodup hs ht htext

/-- **The only client is that of the service that the settings name**, unless that is built in. -/
theorem Started.mem_services_iff (hstarted : outline.Started model settings integrations)
    (hreadable : ∀ shape ∈ outline.shapes, shape.id.IsReadable)
    (hbuiltin : outline.context.service.isBuiltin = false) {service : Shape} :
    service ∈ outline.services ↔ service = outline.context.service := by
  obtain ⟨hshape, htype⟩ := Run.choose_spec hstarted.chosen
  have hown : outline.context.service ∈ outline.services := by
    refine List.mem_filter.2 ⟨(hstarted.isClosure.mem_iff _).2 ⟨hbuiltin, _, .refl, hshape⟩, ?_⟩
    simpa using htype
  exact ⟨fun h => hstarted.eq_of_mem_services hreadable h hown, fun h => h ▸ hown⟩

end Outline

namespace Run

variable {model : Model} {settings : Settings} {integrations : IntegrationRegistry}
  {generators : GeneratorRegistry} {outline : Outline} {manifest : Manifest}

/-- **Integrations that count for no service of a successful run can be left out.** -/
theorem result_keeping (h : (Run.of model settings integrations generators).result = .ok manifest)
    (houtline : Outline.of model settings integrations generators = .ok outline)
    {keep : Integration → Bool}
    (hspares : outline.context.Spares keep (outline.context.service :: outline.services)) :
    (Run.of model settings
      { integrations with integrations := integrations.integrations.filter keep }
      generators).result = .ok manifest := by
  obtain ⟨context, protocol, shapes, emission, hchosen, hcontext, hstart, hok, hfinish⟩ :=
    stages_of_result h
  obtain ⟨other, hother, -, ⟨hcontext', -, hshapes⟩, -⟩ :=
    outline_of_stages hchosen hcontext hstart hok
  obtain rfl := Except.ok.inj (hother.symm.trans houtline)
  rw [hcontext'] at hspares
  have hsame : Emission.of (context.keeping keep) generators protocol shapes emission
      = Emission.of context generators protocol shapes emission := by
    refine Emission.of_keeping hspares List.mem_cons_self (fun shape hmem hgenerator => ?_) _ _
    have htype := GeneratorRegistry.type_of_forShape? hgenerator
    exact List.mem_cons_of_mem _ (List.mem_filter.2 ⟨hshapes ▸ hmem, by simp [htype]⟩)
  have hstart' : start (context.keeping keep) = .ok (shapes, emission) := hstart
  have hkept : context.keeping keep = {
      model, settings, service := context.service,
      integrations := integrations.integrations.filter keep, transport := some .http } := by
    rw [hcontext]
    rfl
  rw [hkept] at hstart' hsame
  simp only [Run.of, hchosen, IntegrationRegistry.close, hstart', hsame]
  rw [hok, hfinish]

/-- **What integrations contribute.**  A successful run stays the same without integrations that
count for none of its services; every client has the resolvers of the integrations that count for
the service of the run, and the fields of those that count for its own service.  The client's own
service is the service of the run unless that is built in, among ids that are read from texts. -/
theorem contributions (h : (Run.of model settings integrations generators).result = .ok manifest) :
    ∃ outline, Outline.of model settings integrations generators = .ok outline ∧
      outline.Started model settings integrations ∧ outline.Written manifest ∧
      (∀ keep, outline.context.Spares keep (outline.context.service :: outline.services) →
        (Run.of model settings
          { integrations with integrations := integrations.integrations.filter keep }
          generators).result = .ok manifest) ∧
      (∀ service ∈ outline.services, generators.forShape? service = some .service →
        ∃ steps, ⟨clientUnit, steps⟩ ∈ outline.passages ∧ outline.DeclaresClient service steps) ∧
      (model.HasReadableIds → outline.context.service.isBuiltin = false →
        ∀ service, service ∈ outline.services ↔ service = outline.context.service) := by
  obtain ⟨outline, houtline, hstarted, hwritten⟩ := exists_outline h
  have hmodel : outline.context.model = model := by rw [hstarted.context]
  refine ⟨outline, houtline, hstarted, hwritten, fun keep hspares =>
    result_keeping h houtline hspares, fun service hmem hgenerator =>
    Outline.declaresClient houtline hwritten hmem hgenerator, ?_⟩
  intro hreadable hbuiltin service
  exact hstarted.mem_services_iff (fun shape hmem => hreadable _ _
    (hmodel ▸ shape?_of_mem_shapes hstarted.shapes hmem)) hbuiltin

end Run

namespace Sample

/-- An integration that counts for one service only, which is not the sample's. -/
def distant : Integration where
  name := "distant"
  fields := [{ name := "Region", type := .value "string" }]
  condition := .services [(otherService []).id.text]

end Sample

namespace Run

theorem contributions_sample : ∃ manifest,
    (Run.of Sample.model Sample.protocolSettings
      { integrations := [Sample.distant, Sample.integration] }).result = .ok manifest ∧
    (Run.of Sample.model Sample.protocolSettings
      { integrations := [Sample.integration] }).result = .ok manifest ∧
    ∃ outline, Outline.of Sample.model Sample.protocolSettings
        { integrations := [Sample.distant, Sample.integration] } = .ok outline ∧
      outline.Written manifest ∧ outline.services = [Sample.service] ∧
      ∃ steps, ⟨clientUnit, steps⟩ ∈ outline.passages ∧
        outline.DeclaresClient Sample.service steps := by
  have hchosen : choose Sample.model Sample.protocolSettings
      = .ok (Sample.service, some "aws.protocols#restJson1") :=
    choose_of_traits_eq_nil rfl rfl rfl rfl
  obtain ⟨other, manifest, h, hother, -, hcontext, -, hshapes⟩ :=
    Run.exists_manifest { integrations := [Sample.distant, Sample.integration] } hchosen rfl
      Sample.closure_eq (by decide +kernel)
  obtain ⟨outline, houtline, -, hwritten, hremoved, hdeclared, -⟩ := contributions h
  obtain rfl := Except.ok.inj (hother.symm.trans houtline)
  have hservices : other.services = [Sample.service] := by
    rw [Outline.services, hshapes]
    rfl
  have hspares : other.context.Spares (·.name != "distant")
      (other.context.service :: other.services) := by
    rw [hservices, hcontext, Context.Spares]
    decide
  exact ⟨manifest, h, hremoved _ hspares, other, houtline, hwritten, hservices,
    hdeclared _ (by simp [hservices]) rfl⟩

end Run

/-! ### A service that the settings do not name -/

namespace Run

/-- The options of the only client have a field of an integration that does not count for the
service of the run. -/
theorem contributions_of_other : ∃ outline manifest,
    (Run.of (Sample.otherModel []) Sample.builtinSettings
      { integrations := [Sample.distant] }).result = .ok manifest ∧
      Outline.of (Sample.otherModel []) Sample.builtinSettings
        { integrations := [Sample.distant] } = .ok outline ∧
      outline.Written manifest ∧ outline.context.matching = [] ∧
      ∃ steps, ⟨clientUnit, steps⟩ ∈ outline.passages ∧
        Step.fieldsOf "Options" steps = [("APIOptions", "[]APIOptionFunc"), ("Region", "string"),
          ("HTTPClient", "HTTPClient")] := by
  obtain ⟨outline, manifest, h, houtline, hwritten, hcontext, -, hshapes⟩ :=
    exists_manifest { integrations := [Sample.distant] } (Sample.choose_otherModel []) rfl
      (Sample.closure_otherModel []) (by decide +kernel)
  have hother : Sample.otherService [] ∈ outline.services := by
    rw [Outline.services, hshapes]
    exact List.mem_filter.2 ⟨List.mem_filter.2 ⟨List.mem_cons_self, rfl⟩, rfl⟩
  obtain ⟨steps, hsteps, -, hfields⟩ := Outline.declaresClient houtline hwritten hother rfl
  refine ⟨outline, manifest, h, houtline, hwritten, ?_, steps, hsteps, ?_⟩
  · rw [hcontext]
    decide +kernel
  · rw [hfields, hcontext]
    decide +kernel

end Run

/-! ## Legal options -/

namespace Declaration

open Step

variable {context : Context} {shape : Shape}

/-- **The options of a client are a legal type** exactly if no integration contributes a field of
the name of the method that copies them.  Their fields have different names, those of the client
first and last, but the collection of fields does not know of the method. -/
theorem options_isLegal_iff {table table' : SymbolTable} {steps : List Step} {writer : Writer}
    (hservice : shape.type = .service) (hshape : context.model.shape? shape.id = some shape)
    (hknows : context.Knows table) (h : ofService context shape table = (steps, table'))
    (hrun : (writer.run steps).2 = none) :
    (fieldsOf "Options" steps).map Prod.fst
        = "APIOptions" :: (Integration.contributed context.integrations shape).map (·.name)
          ++ ["HTTPClient"] ∧
      ((fieldsOf "Options" steps).map Prod.fst).Nodup ∧
      methodsOf "Options" steps = ["Copy"] ∧
      (IsLegal "Options" steps ↔
        "Copy" ∉ (Integration.contributed context.integrations shape).map (·.name)) := by
  have hruns : Step.Run steps := ⟨writer, hrun⟩
  have hdeclare : Generator.service.declare context shape table = (steps, table') := h
  obtain ⟨hsteps, -⟩ := Generator.declare_spec hknows hshape hdeclare hruns
  obtain ⟨transport, -, rfl⟩ := Passage.steps_of_service hservice hsteps
  obtain ⟨fields, hfields⟩ := collectFields_of_run hruns
  have hname : shape.clientSymbol.name ≠ "Options" := by
    simp [Shape.clientSymbol, Symbol.name]
  rw [isLegal_clientSteps hname hruns, fieldsOf_options hname hruns, methodsOf_options hname hruns]
  exact ⟨map_fst_optionFields _, nodup_optionFields hfields, rfl, Iff.rfl⟩

end Declaration

namespace Sample

/-- The context of the sample's run with integrations. -/
def contextWith (integrations : List Integration) : Context :=
  { context with integrations }

/-- An integration whose field has the name of a method. -/
def copying : Integration where
  name := "one"
  fields := [{ name := "Copy", type := .value "string" }]

/-- The steps of the client with the fields of integrations. -/
def clientStepsWith (integrations : List Integration) : List Step :=
  Declaration.clientSteps (contextWith integrations) service .http service.clientSymbol

/-- The empty client unit. -/
def clientWriter : Writer :=
  .start clientUnit "m" (some "m")

end Sample

namespace Declaration

open Step

theorem options_isLegal_iff_sample : ∃ table' steps,
    (Sample.contextWith [Sample.integration]).model.shape? Sample.service.id = some Sample.service ∧
      (Sample.contextWith [Sample.integration]).Knows {} ∧
      ofService (Sample.contextWith [Sample.integration]) Sample.service {} = (steps, table') ∧
      (Sample.clientWriter.run steps).2 = none ∧
      (fieldsOf "Options" steps).map Prod.fst = "APIOptions" :: (Integration.contributed
          (Sample.contextWith [Sample.integration]).integrations Sample.service).map (·.name)
        ++ ["HTTPClient"] ∧
      ((fieldsOf "Options" steps).map Prod.fst).Nodup ∧ methodsOf "Options" steps = ["Copy"] ∧
      (IsLegal "Options" steps ↔ "Copy" ∉ (Integration.contributed
        (Sample.contextWith [Sample.integration]).integrations Sample.service).map (·.name)) := by
  have hrun : (Sample.clientWriter.run (Sample.clientStepsWith [Sample.integration])).2 = none :=
    Option.isNone_iff_eq_none.1 (by decide +kernel)
  exact ⟨_, _, rfl, SymbolTable.Sound.empty, rfl, hrun,
    options_isLegal_iff rfl rfl SymbolTable.Sound.empty rfl hrun⟩

/-- A field may have the name of the method that copies the options: they are declared, but they are
no legal type. -/
theorem options_not_isLegal : ∃ table' steps,
    ofService (Sample.contextWith [Sample.copying]) Sample.service {} = (steps, table') ∧
      (Sample.clientWriter.run steps).2 = none ∧ ¬ IsLegal "Options" steps := by
  have hrun : (Sample.clientWriter.run (Sample.clientStepsWith [Sample.copying])).2 = none :=
    Option.isNone_iff_eq_none.1 (by decide +kernel)
  have hname : Sample.service.clientSymbol.name ≠ "Options" := by
    decide
  have hlegal := isLegal_clientSteps hname ⟨_, hrun⟩
  exact ⟨_, _, rfl, hrun, fun h => hlegal.1 h (by decide)⟩

end Declaration

end ClientGen
