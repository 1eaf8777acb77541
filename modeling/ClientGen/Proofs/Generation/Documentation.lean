import ClientGen.Proofs.Generation.Order
import ClientGen.Proofs.Shape.Documentation

/-!
# Documentation is no code

Models, settings and integrations document shapes, members, values of enums and fields, and the
settings say whether comments are written.  All of it ends up in comments: it can be exchanged for
any other documentation, left out or added, and what is generated keeps its files and, in each of
them, its lines of code.  Nor does documentation decide whether a run succeeds.

There is one way for documentation to be more than that.  Conditions of integrations and bodies of
handlers see the shapes of the model, so they may ask for its trait.  A condition that does can be
met by one of two models only, and then the field that its integration adds is in one client only,
or clashes there.

## Main definitions

* `Manifest.SameCode` — the files of two runs hold the same code.
* `Integration.IgnoresDocumentation` — an integration does the same for two models.

## Main results

* `Run.same_code_of_undocumented` — runs that differ in documentation have the same code.
* `Run.documentation_decides` — a condition that asks for documentation decides a run.
-/

namespace ClientGen

variable {model model' : Model}

/-! ## The code of files -/

/-- The files of two runs hold the same code: they have the same paths, the manifest of the module
is the same, and the lines of code of every file are. -/
structure Manifest.SameCode (manifest manifest' : Manifest) : Prop where
  paths : manifest.paths = manifest'.paths
  module : manifest.get? moduleUnit = manifest'.get? moduleUnit
  code : ∀ path, (manifest.get? path).map Text.codeLines = (manifest'.get? path).map Text.codeLines

theorem Manifest.Alike.sameCode {manifest manifest' : Manifest}
    (h : manifest.Alike .code manifest') : manifest.SameCode manifest' where
  paths := by
    have hsorted : List.Forall₂ (fun file file' => file.1 = file'.1 ∧ View.lines .code [file.2]
        = View.lines .code [file'.2]) manifest.files manifest'.files :=
      forall₂_mergeSort h.files fun _ _ hfile _ _ hfile' => by rw [hfile.1, hfile'.1]
    exact map_eq_map_iff_forall₂.2 (hsorted.imp fun _ _ hfile => hfile.1)
  module := h.module
  code := by
    intro path
    have hfound := rel_lookup (R := fun content content' => View.lines .code [content]
      = View.lines .code [content']) h.files path
    rw [get?, get?]
    generalize manifest.entries.lookup path = found, manifest'.entries.lookup path = found'
      at hfound
    cases hfound with
    | none => rfl
    | some hlines => simpa [View.lines] using hlines

/-! ## Integrations -/

/-- A field without documentation. -/
def ConfigField.undocumented (field : ConfigField) : ConfigField :=
  { field with documentation := .null }

namespace Integration

/-- An integration without documentation. -/
def undocumented (integration : Integration) : Integration :=
  { integration with fields := integration.fields.map ConfigField.undocumented }

/-- An integration does the same for two models: it counts for the same services, and the bodies of
its handlers hold the same code for the same operations. -/
structure IgnoresDocumentation (integration : Integration) (model model' : Model) : Prop where
  applies : ∀ id service service', model.shape? id = some service →
    model'.shape? id = some service' → service.type = .service →
    integration.applies service = integration.applies service'
  bodies : ∀ bodies ∈ integration.bodies, ∀ id operation operation',
    model.shape? id = some operation → model'.shape? id = some operation' →
    operation.type = .operation → ∀ middleware,
      Step.seenAll .code (bodies.serialize.steps operation middleware)
          = Step.seenAll .code (bodies.serialize.steps operation' middleware) ∧
        Step.seenAll .code (bodies.deserialize.steps operation middleware)
          = Step.seenAll .code (bodies.deserialize.steps operation' middleware)

/-- Integrations that differ in documentation only look alike on shapes of one id, if the first of
them does the same for both models. -/
theorem IgnoresDocumentation.alike {integration integration' : Integration}
    (h : integration.IgnoresDocumentation model model')
    (hsame : integration.undocumented = integration'.undocumented) {P : Shape → Shape → Prop}
    (hpairs : ∀ shape shape', P shape shape' →
      ∃ id, model.shape? id = some shape ∧ model'.shape? id = some shape') :
    integration.Alike .code P integration' := by
  have hcondition : integration.condition = integration'.condition :=
    show integration.undocumented.condition = integration'.undocumented.condition from
      congrArg _ hsame
  have hsources : integration.bodies = integration'.bodies :=
    show integration.undocumented.bodies = integration'.undocumented.bodies from congrArg _ hsame
  refine {
    name := show integration.undocumented.name = integration'.undocumented.name from
      congrArg _ hsame
    fields := ?_
    resolver := show integration.undocumented.resolver = integration'.undocumented.resolver from
      congrArg _ hsame
    applies := ?_
    bodies := ?_ }
  · have hfields : integration.fields.map ConfigField.undocumented
        = integration'.fields.map ConfigField.undocumented := congrArg Integration.fields hsame
    exact (map_eq_map_iff_forall₂.1 hfields).imp fun field field' hfield => {
      name := show field.undocumented.name = field'.undocumented.name from congrArg _ hfield
      type := show field.undocumented.type = field'.undocumented.type from congrArg _ hfield
      documentation := rfl }
  · intro service service' hpair htype
    obtain ⟨id, hheld, hheld'⟩ := hpairs _ _ hpair
    rw [h.applies id service service' hheld hheld' htype, Integration.applies, hcondition,
      Integration.applies]
  · have hbodies := h.bodies
    rw [← hsources]
    generalize integration.bodies = bodies at hbodies
    cases bodies with
    | none => exact .none
    | some bodies =>
      refine .some ⟨rfl, ?_, ?_⟩
      all_goals
        intro operation operation' hpair htype middleware
        obtain ⟨id, hheld, hheld'⟩ := hpairs _ _ hpair
      · exact (hbodies bodies rfl id _ _ hheld hheld' htype middleware).1
      · exact (hbodies bodies rfl id _ _ hheld hheld' htype middleware).2

end Integration

/-- A condition does not ask for documentation: it is one of the library's own, and does not look
for the trait. -/
def Condition.AsksForNoDocumentation : Condition → Prop
  | .protocols traits => Trait.documentation ∉ traits
  | .custom _ => False
  | _ => True

theorem Condition.AsksForNoDocumentation.holds_eq {condition : Condition}
    (h : condition.AsksForNoDocumentation) {service service' : Shape}
    (hsame : service.SameUndocumented service') :
    condition.holds service = condition.holds service' := by
  cases condition with
  | always | constant => rfl
  | protocols traits =>
    rw [holds, holds, Bool.eq_iff_iff, List.any_eq_true, List.any_eq_true]
    refine exists_congr fun trait => and_congr_right fun hmem => ?_
    rw [hsame.hasTrait fun heq => h (heq ▸ hmem)]
  | services ids => rw [holds, holds, hsame.id]
  | custom test => exact h.elim

/-- **Integrations of the common form ignore documentation**: their condition does not ask for it,
and their bodies are made of templates, which see the name of an operation only. -/
theorem Integration.ignoresDocumentation_of_templates {integration : Integration}
    (hcondition : integration.condition.AsksForNoDocumentation)
    (hbodies : ∀ bodies ∈ integration.bodies, ∃ first second,
      bodies.serialize = .ofTemplates first ∧ bodies.deserialize = .ofTemplates second)
    (hmodels : ∀ id, Option.Rel Shape.SameUndocumented (model.shape? id) (model'.shape? id)) :
    integration.IgnoresDocumentation model model' := by
  have hpair : ∀ {id shape shape'}, model.shape? id = some shape → model'.shape? id = some shape' →
      shape.SameUndocumented shape' := by
    intro id shape shape' hheld hheld'
    have hshapes := hmodels id
    rw [hheld, hheld'] at hshapes
    cases hshapes with
    | some hshape => exact hshape
  constructor
  · intro id service service' hheld hheld' _
    exact hcondition.holds_eq (hpair hheld hheld')
  · intro bodies hmem id operation operation' hheld hheld' _ middleware
    obtain ⟨first, second, hfirst, hsecond⟩ := hbodies bodies hmem
    have hname : operation.name = operation'.name := by
      rw [Shape.name, Shape.name, (hpair hheld hheld').id]
    simp only [hfirst, hsecond, HandlerBody.ofTemplates, hname, and_self]

/-! ## Runs -/

namespace Run

variable {settings settings' : Settings} {integrations integrations' : IntegrationRegistry}

/-- **Documentation is no code.**  If two models hold the same shapes but for documentation, and the
settings and integrations are the same but for documentation and comments, then the runs succeed
together, with the same code, or fail together, for the same reason.  The service keeps the traits
that it has, indentation shows nothing, and integrations do not ask for documentation. -/
theorem same_code_of_undocumented (generators : GeneratorRegistry)
    (hmodels : ∀ id, Option.Rel Shape.SameUndocumented (model.shape? id) (model'.shape? id))
    (hservice : ∀ service service', model.expectWritten settings.service.text = .ok service →
      model'.expectWritten settings.service.text = .ok service' →
      Entries.keys service.traits = Entries.keys service'.traits)
    (hsettings : { settings with addComments := .null } = { settings' with addComments := .null })
    (hintegrations : integrations.integrations.map Integration.undocumented
      = integrations'.integrations.map Integration.undocumented)
    (hignores : ∀ integration ∈ integrations.integrations,
      integration.IgnoresDocumentation model model')
    (hindent : ∀ text, settings.indentText = .str text → Text.IsIndent text) :
    Agree (Failure.Alike .code) Manifest.SameCode
      (Run.of model settings integrations generators).result
      (Run.of model' settings' integrations' generators).result := by
  -- Whether a trait is a protocol is read from the traits of its shape, not from what it says.
  have hprotocols : ∀ traits, Shape.protocolsAmong model traits
      = Shape.protocolsAmong model' traits := fun traits =>
    Shape.protocolsAmong_eq (fun _ _ hshape => hshape.hasTrait (by decide))
      fun _ _ id _ => hmodels id
  have hcomparable : Comparable .code Shape.SameUndocumented (Failure.Alike .code) model model'
      settings settings' integrations integrations' := {
    alike := fun _ _ h => h.alike
    targets := fun _ _ h id => by rw [h.targets]
    failure := fun _ _ h => h
    settingsAlike := hsettings
    indents := by
      intro text htext
      unfold Settings.indent at htext
      split at htext
      · rename_i found hfound
        exact Except.ok.inj htext ▸ hindent found hfound
      · cases htext
    models := fun _ _ id _ => hmodels id
    protocols := by
      intro service service' _ hfound hfound'
      rw [Shape.protocols, Shape.protocols, hservice service service' hfound hfound', hprotocols]
      exact Failure.Alike.agree_self _
    closure := fun root _ => (Model.Matches.closure_agree_of_targets (fun id _ => hmodels id)
      fun _ _ h => h.targets).imp (fun _ _ heq => heq ▸ rfl) fun _ _ h => h
    integrationsAlike := forall₂_imp_of_mem
      (map_eq_map_iff_forall₂.1 hintegrations) fun integration hmem _ _ hsame =>
      (hignores integration hmem).alike hsame fun shape shape' hpair =>
        ⟨shape.id, hpair.2.1, hpair.1.id ▸ hpair.2.2⟩ }
  exact (hcomparable.result_agree generators).imp (fun _ _ h => h) fun _ _ h => h.sameCode

end Run

/-! ### Runs with and without documentation -/

namespace Sample

def grade : Shape where
  id := { ns := "z", name := "Grade" }
  type := .string
  traits := [(Trait.enum, .arr [.obj [("value", .str "a"), ("name", .str "A")]])]

def documentedService (about : Json) : Shape :=
  { service with traits := [(Trait.documentation, about)] }

/-- The shapes of the sample with an enum, and the same documentation on the input, its member, the
enum and its value. -/
def gradedShapes (docs : Traits) (entry : List (String × Json)) (about : Json) : List Shape :=
  [{ grade with
      traits := (Trait.enum, .arr [.obj ([("value", .str "a"), ("name", .str "A")] ++ entry)])
        :: docs },
    { input with
      traits := docs
      members := [{ name := "grade", container := input.id, target := grade.id, traits := docs }] },
    operation, documentedService about]

/-- A documentation that ends its line and goes on like code. -/
def remark : Json :=
  .str "An end.\n\npackage other\nfunc New() \x7b\x7d\r\n"

def plainModel : Model :=
  .ofShapes (gradedShapes [] [] .null)

def remarkedModel : Model :=
  .ofShapes (gradedShapes [(Trait.documentation, remark)] [("documentation", remark)] remark)

/-- The integration of the sample with a documentation of its field. -/
def remarkedSpeaker : Integration :=
  { speaker with
    fields := [{ name := "Region", type := .value "string", documentation := remark }] }

theorem sameUndocumented_gradedModel (id : ShapeId) :
    Option.Rel Shape.SameUndocumented (plainModel.shape? id) (remarkedModel.shape? id) := by
  have hshapes : List.Forall₂ Shape.SameUndocumented (gradedShapes [] [] .null)
      (gradedShapes [(Trait.documentation, remark)] [("documentation", remark)] remark) :=
    .cons rfl (.cons rfl (.cons rfl (.cons rfl .nil)))
  exact Model.rel_shape?_ofShapes hshapes (fun _ _ h => h.id) (fun _ _ => rfl) id

theorem exists_plain_manifest : ∃ manifest,
    (Run.of plainModel busySettings { integrations := [speaker] }).result = .ok manifest := by
  let service := documentedService .null
  let input := { input with
    members := [{ name := "grade", container := input.id, target := grade.id }] }
  have hchosen : Run.choose plainModel busySettings
      = .ok (service, some "aws.protocols#restJson1") :=
    Run.choose_of_protocolsAmong_eq_nil rfl rfl rfl rfl
  have hsearch : plainModel.search 8 service.id = some [grade, input, operation, service] := rfl
  have hclosure := Model.closure_eq_ok_of_search hsearch (by decide +kernel) (by decide +kernel)
  obtain ⟨_, manifest, h, -⟩ :=
    Run.exists_manifest { integrations := [speaker] } hchosen rfl hclosure (by decide +kernel)
  exact ⟨manifest, h⟩

end Sample

namespace Run

theorem same_code_of_undocumented_sample : ∃ manifest manifest',
    (Run.of Sample.plainModel Sample.busySettings { integrations := [Sample.speaker] }).result
        = .ok manifest ∧
      (Run.of Sample.remarkedModel { Sample.busySettings with addComments := .bool true }
        { integrations := [Sample.remarkedSpeaker] }).result = .ok manifest' ∧
      manifest.SameCode manifest' := by
  obtain ⟨manifest, h⟩ := Sample.exists_plain_manifest
  have hagree : Agree (Failure.Alike .code) Manifest.SameCode
      (Run.of Sample.plainModel Sample.busySettings { integrations := [Sample.speaker] }).result
      (Run.of Sample.remarkedModel { Sample.busySettings with addComments := .bool true }
        { integrations := [Sample.remarkedSpeaker] }).result := by
    refine same_code_of_undocumented .standard Sample.sameUndocumented_gradedModel ?_ rfl rfl ?_ ?_
    · intro service service' hservice hservice'
      have hfound : Sample.plainModel.expectWritten Sample.busySettings.service.text
          = .ok (Sample.documentedService .null) := rfl
      have hfound' : Sample.remarkedModel.expectWritten Sample.busySettings.service.text
          = .ok (Sample.documentedService Sample.remark) := rfl
      obtain rfl := Except.ok.inj (hservice.symm.trans hfound)
      obtain rfl := Except.ok.inj (hservice'.symm.trans hfound')
      rfl
    · intro integration hintegration
      obtain rfl := List.mem_singleton.1 hintegration
      refine Integration.ignoresDocumentation_of_templates trivial ?_
        Sample.sameUndocumented_gradedModel
      intro bodies hbodies
      obtain rfl := Option.some.inj hbodies
      exact ⟨_, _, rfl, rfl⟩
    · intro text htext c hc
      obtain rfl := Json.str.inj htext
      simp at hc
      exact .inr hc
  rw [h] at hagree
  generalize hresult : (Run.of Sample.remarkedModel _ _).result = result at hagree
  cases hagree with
  | @ok _ manifest' hcode => exact ⟨manifest, manifest', h, rfl, hcode⟩

end Run

/-! ### A condition that asks for documentation -/

namespace Sample

/-- A service for which a client is generated, though the settings name another one. -/
def otherService (docs : Traits) : Shape where
  id := { ns := "a", name := "Other" }
  type := .service
  traits := docs

/-- A service of the built-in namespace, which has no client of its own. -/
def builtinService : Shape where
  id := { ns := Trait.prelude, name := "Svc" }
  type := .service
  resources := [(otherService []).id]

def otherModel (docs : Traits) : Model :=
  .ofShapes [otherService docs, builtinService]

def builtinSettings : Settings :=
  { settings with service := .str "smithy.api#Svc" }

/-- An integration for documented services, with a field that every client has already. -/
def curious : Integration where
  name := "curious"
  fields := [{ name := "HTTPClient", type := .value "string" }]
  condition := .protocols [Trait.documentation]

theorem sameUndocumented_otherModel (id : ShapeId) : Option.Rel Shape.SameUndocumented
    ((otherModel []).shape? id) ((otherModel [(Trait.documentation, remark)]).shape? id) := by
  have hshapes : List.Forall₂ Shape.SameUndocumented [otherService [], builtinService]
      [otherService [(Trait.documentation, remark)], builtinService] :=
    .cons rfl (.cons rfl .nil)
  exact Model.rel_shape?_ofShapes hshapes (fun _ _ h => h.id) (fun _ _ => rfl) id

theorem choose_otherModel (docs : Traits) :
    Run.choose (otherModel docs) builtinSettings = .ok (builtinService, none) :=
  Run.choose_of_traits_eq_nil rfl rfl rfl rfl

theorem closure_otherModel (docs : Traits) :
    (otherModel docs).closure builtinService.id = .ok [otherService docs, builtinService] := by
  have hsearch : (otherModel docs).search 4 builtinService.id
      = some [otherService docs, builtinService] := rfl
  have hids : [otherService docs, builtinService].map Shape.id
      = [(otherService []).id, builtinService.id] := rfl
  exact Model.closure_eq_ok_of_search hsearch (by rw [hids]; decide) (by rw [hids]; decide)

end Sample

namespace Run

/-- Documentation of a service that the settings do not name decides whether the run succeeds, since
the condition of an integration asks for it. -/
theorem documentation_decides :
    (∀ id, Option.Rel Shape.SameUndocumented ((Sample.otherModel []).shape? id)
      ((Sample.otherModel [(Trait.documentation, Sample.remark)]).shape? id)) ∧
    (∀ docs, (Sample.otherModel docs).expectWritten Sample.builtinSettings.service.text
      = .ok Sample.builtinService) ∧
    (∃ manifest, (Run.of (Sample.otherModel []) Sample.builtinSettings
      { integrations := [Sample.curious] }).result = .ok manifest) ∧
    ∃ failure, (Run.of (Sample.otherModel [(Trait.documentation, Sample.remark)])
      Sample.builtinSettings { integrations := [Sample.curious] }).result = .error failure := by
  refine ⟨Sample.sameUndocumented_otherModel, fun _ => rfl, ?_, ?_⟩
  · obtain ⟨_, manifest, h, -⟩ := exists_manifest { integrations := [Sample.curious] }
      (Sample.choose_otherModel []) rfl (Sample.closure_otherModel []) (by decide +kernel)
    exact ⟨manifest, h⟩
  · exact exists_failure { integrations := [Sample.curious] } (Sample.choose_otherModel _) rfl
      (Sample.closure_otherModel _) (by decide +kernel)

end Run

end ClientGen
