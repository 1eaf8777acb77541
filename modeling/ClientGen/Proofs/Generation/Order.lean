import ClientGen.Proofs.Generation.Locality
import ClientGen.Proofs.Shape.Protocol

/-!
# Orders that do not show

A shape lists the operations, resources and errors that it refers to, and shapes and members have
traits, in some order.  No such order shows in what a run produces.  The lists decide only in which
order the search visits shapes, and the closure is sorted; traits are looked up by their ids, and
the protocols among those of the service are sorted by name.  What the order may change is which of
several faults a run that fails reports.

A custom condition, and a body of a handler that is not made of templates, see the shape as it is.
They are left out here, or must not look at the orders.  The traits are those of a model, where
every trait has one value.  A document may give a trait twice, once by its full id and once by its
name in the prelude; there the order decides which of the two values the model has.

## Main definitions

* `Shape.Reordered` — two shapes differ in these orders only.
* `Integration.IgnoresOrder` — an integration does the same for such shapes.

## Main results

* `Run.result_eq_ok_iff_of_reordered` — reordering changes neither success nor the files.
* `Run.order_decides` — it may, if a body asks for the order or a trait is given twice.
-/

namespace ClientGen

/-! ## Reordered shapes -/

/-- The same traits in another order. -/
def Traits.Reordered (traits traits' : Traits) : Prop :=
  traits.Perm traits' ∧ (Entries.keys traits).Nodup

/-- Two members differ in the order of their traits only. -/
structure Member.Reordered (member member' : Member) : Prop where
  name : member.name = member'.name
  container : member.container = member'.container
  target : member.target = member'.target
  traits : Traits.Reordered member.traits member'.traits

/-- Two shapes differ only in the order of traits, of their own and of their members, and in the
order of what they list as operations, resources and errors. -/
structure Shape.Reordered (shape shape' : Shape) : Prop where
  id : shape.id = shape'.id
  type : shape.type = shape'.type
  traits : Traits.Reordered shape.traits shape'.traits
  members : List.Forall₂ Member.Reordered shape.members shape'.members
  version : shape.version = shape'.version
  operations : shape.operations.Perm shape'.operations
  resources : shape.resources.Perm shape'.resources
  input : shape.input = shape'.input
  output : shape.output = shape'.output
  errors : shape.errors.Perm shape'.errors

theorem Traits.Reordered.lookup {traits traits' : Traits} (h : Traits.Reordered traits traits')
    (trait : String) : traits.lookup trait = traits'.lookup trait := by
  have hnodup : (Entries.keys traits').Nodup := (h.1.map Prod.fst).nodup_iff.1 h.2
  refine Option.ext fun value => ?_
  rw [Entries.lookup_eq_some_iff_mem h.2, Entries.lookup_eq_some_iff_mem hnodup, h.1.mem_iff]

theorem Member.Reordered.alike {view : View} {member member' : Member}
    (h : member.Reordered member') : member.Alike view member' where
  name := h.name
  container := h.container
  target := h.target
  documentation := by
    rw [Member.documentation, Member.documentation, Traits.documentation, Traits.documentation,
      h.traits.lookup]

theorem Shape.Reordered.refl {shape : Shape} (htraits : (Entries.keys shape.traits).Nodup)
    (hmembers : ∀ member ∈ shape.members, (Entries.keys member.traits).Nodup) :
    shape.Reordered shape where
  id := rfl
  type := rfl
  traits := ⟨.refl _, htraits⟩
  members := List.forall₂_same.2 fun member hmember =>
    ⟨rfl, rfl, rfl, .refl _, hmembers member hmember⟩
  version := rfl
  operations := .refl _
  resources := .refl _
  input := rfl
  output := rfl
  errors := .refl _

namespace Shape.Reordered

variable {view : View} {shape shape' : Shape} (h : shape.Reordered shape')
include h

theorem trait? (trait : String) : shape.trait? trait = shape'.trait? trait :=
  h.traits.lookup trait

theorem hasTrait (trait : String) : shape.hasTrait trait = shape'.hasTrait trait := by
  rw [Shape.hasTrait, Shape.hasTrait, has_eq_isSome_lookup, has_eq_isSome_lookup, h.traits.lookup]

theorem alike : shape.Alike view shape' where
  id := h.id
  type := h.type
  members := h.members.imp fun _ _ hmember => hmember.alike
  trait? := fun trait _ _ => h.trait? trait
  hasEnum := h.hasTrait Trait.enum
  enumValues := by
    have hvalues : shape.enumValues = shape'.enumValues := by
      rw [Shape.enumValues, Shape.enumValues, expectTrait, expectTrait, h.trait?, h.id]
    rw [hvalues]
    exact (Shape.Alike.refl shape').enumValues
  documentation := by
    rw [Shape.documentation, Shape.documentation, Traits.documentation, Traits.documentation,
      h.traits.lookup]

theorem mem_targets_iff (id : ShapeId) : id ∈ shape.targets ↔ id ∈ shape'.targets := by
  have hmembers : shape.members.map Member.target = shape'.members.map Member.target :=
    map_eq_map_iff_forall₂.2 (h.members.imp fun _ _ hmember => hmember.target)
  simp only [targets, List.mem_append, hmembers, h.operations.mem_iff, h.resources.mem_iff, h.input,
    h.output, h.errors.mem_iff]

end Shape.Reordered

/-! ## Protocols -/

namespace Shape

variable {model : Model}

/-- The protocols among traits do not depend on the order, save for the order of the protocols. -/
theorem protocolsAmong_agree_of_perm {traits traits' : List String} (h : traits.Perm traits') :
    Agree (fun _ _ => True) List.Perm (protocolsAmong model traits)
      (protocolsAmong model traits') := by
  induction h with
  | nil => exact .ok .nil
  | cons trait _ ih =>
    rw [protocolsAmong, protocolsAmong]
    cases isProtocol model trait with
    | error failure => exact .error trivial
    | ok holds =>
      refine ih.bind fun others others' hothers => .ok ?_
      cases holds with
      | false => exact hothers
      | true => exact hothers.cons trait
  | swap first second rest =>
    simp only [protocolsAmong]
    cases isProtocol model first with
    | error failure => cases isProtocol model second <;> exact .error trivial
    | ok holds =>
      cases isProtocol model second with
      | error failure => exact .error trivial
      | ok holds' =>
        cases protocolsAmong model rest with
        | error failure => exact .error trivial
        | ok others =>
          refine .ok ?_
          cases holds <;> cases holds' <;> first | exact .refl _ | exact .swap _ _ _
  | trans _ _ ih ih' =>
    exact ih.trans (fun _ _ _ _ _ => trivial) (fun _ _ _ => List.Perm.trans) ih'

/-- **Reordered services offer the same protocols**, or it cannot be said of either. -/
theorem Reordered.protocols_agree {model' : Model} {service service' : Shape}
    (h : service.Reordered service')
    (hmodels : ∀ id, Option.Rel Shape.Reordered (model.shape? id) (model'.shape? id)) :
    Agree (fun _ _ => True) Eq (service.protocols model) (service'.protocols model') := by
  have hsame : protocolsAmong model' (Entries.keys service'.traits)
      = protocolsAmong model (Entries.keys service'.traits) := by
    exact (protocolsAmong_eq (fun _ _ hshape => hshape.hasTrait _) fun _ _ id _ => hmodels id).symm
  rw [protocols, protocols, hsame]
  refine (protocolsAmong_agree_of_perm (h.traits.1.map Prod.fst)).bind
    fun offered offered' hoffered => .ok ?_
  refine List.Perm.eq_of_pairwise ?_ (pairwise_le_mergeSort _) (pairwise_le_mergeSort _)
    ((List.mergeSort_perm _ _).trans (hoffered.trans (List.mergeSort_perm _ _).symm))
  exact fun a b _ _ => String.le_antisymm

end Shape

/-! ## Integrations -/

/-- A body writes the same for operations that are reordered. -/
def HandlerBody.IgnoresOrder (body : HandlerBody) : Prop :=
  ∀ operation operation' : Shape, operation.Reordered operation' → ∀ middleware,
    body.steps operation middleware = body.steps operation' middleware

/-- **Templates ignore the order**: of an operation they see the name only. -/
theorem HandlerBody.ignoresOrder_ofTemplates (templates : List String) :
    (ofTemplates templates).IgnoresOrder := by
  intro operation operation' h middleware
  simp only [ofTemplates, Shape.name, h.id]

/-- Whether a condition is one of the library's own. -/
def Condition.isPlain : Condition → Bool
  | .custom _ => false
  | _ => true

theorem Condition.holds_eq_of_reordered {condition : Condition} (hplain : condition.isPlain = true)
    {service service' : Shape} (h : service.Reordered service') :
    condition.holds service = condition.holds service' := by
  cases condition with
  | always | constant => rfl
  | protocols traits =>
    have htraits : service.hasTrait = service'.hasTrait := funext h.hasTrait
    rw [holds, holds, htraits]
  | services ids => rw [holds, holds, h.id]
  | custom test => simp [isPlain] at hplain

/-- An integration has a condition of the library's own, and its bodies ignore the order. -/
structure Integration.IgnoresOrder (integration : Integration) : Prop where
  condition : integration.condition.isPlain = true
  bodies : ∀ bodies ∈ integration.bodies,
    bodies.serialize.IgnoresOrder ∧ bodies.deserialize.IgnoresOrder

theorem Integration.IgnoresOrder.alike {view : View} {integration : Integration}
    (h : integration.IgnoresOrder) {P : Shape → Shape → Prop}
    (hpairs : ∀ shape shape', P shape shape' → shape.Reordered shape') :
    integration.Alike view P integration where
  name := rfl
  fields := ConfigField.alike_self _
  resolver := rfl
  applies := fun hpair _ => Condition.holds_eq_of_reordered h.condition (hpairs _ _ hpair)
  bodies := by
    have hbodies := h.bodies
    generalize integration.bodies = bodies at hbodies
    cases bodies with
    | none => exact .none
    | some bodies =>
      obtain ⟨hserialize, hdeserialize⟩ := hbodies bodies rfl
      exact .some ⟨rfl, fun hpair _ middleware => by rw [hserialize _ _ (hpairs _ _ hpair)],
        fun hpair _ middleware => by rw [hdeserialize _ _ (hpairs _ _ hpair)]⟩

/-! ## Runs -/

namespace Run

variable {model model' : Model} {settings : Settings} {integrations : IntegrationRegistry}

/-- **Reordering does not show.**  If two models hold the same shapes up to the order of traits and
the order of operations, resources and errors, runs on them with the same settings and integrations
succeed together, and with the same files. -/
theorem result_eq_ok_iff_of_reordered (generators : GeneratorRegistry)
    (hmodels : ∀ id, Option.Rel Shape.Reordered (model.shape? id) (model'.shape? id))
    (hintegrations : ∀ integration ∈ integrations.integrations, integration.IgnoresOrder)
    (manifest : Manifest) :
    (Run.of model settings integrations generators).result = .ok manifest ↔
      (Run.of model' settings integrations generators).result = .ok manifest := by
  have htargets : ∀ shape shape' : Shape, shape.Reordered shape' →
      ∀ id, id ∈ shape.targets ↔ id ∈ shape'.targets :=
    fun _ _ h => h.mem_targets_iff
  -- Failures are not compared: another order may bring another one up first.
  have hcomparable : Comparable .files Shape.Reordered (fun _ _ => True) model model' settings
      settings integrations integrations := {
    alike := fun _ _ h => h.alike
    targets := htargets
    failure := fun _ _ _ => trivial
    settingsAlike := rfl
    indents := fun _ _ => trivial
    models := fun _ _ id _ => hmodels id
    protocols := fun _ _ h _ _ => h.protocols_agree hmodels
    closure := fun _ _ => Model.Matches.closure_agree (fun id _ => hmodels id) htargets
    integrationsAlike := List.forall₂_same.2 fun integration hintegration =>
      (hintegrations integration hintegration).alike fun _ _ hpair => hpair.1 }
  have hagree := hcomparable.result_agree generators
  generalize (Run.of model settings integrations generators).result = result,
    (Run.of model' settings integrations generators).result = result' at hagree
  cases hagree with
  | ok hmanifest => rw [hmanifest.eq]
  | error => simp

end Run

/-! ### A run of reordered shapes -/

namespace Sample

def retry : Shape where
  id := { ns := "z", name := "Retry" }
  type := .operation

/-- The sample with a second operation, in some order of the operations and of the traits of the
input. -/
def busyModel (operations : List ShapeId) (traits : Traits) : Model :=
  .ofShapes [foreign, { input with traits }, operation, retry, { service with operations }]

/-- An integration that writes the bodies of the protocol from templates. -/
def speaker : Integration where
  name := "speaker"
  fields := [{ name := "Region", type := .value "string" }]
  condition := .services ["z#Svc"]
  bodies := some {
    protocol := "aws.protocols#restJson1"
    serialize := ["return next.\x7b\x7b method \x7d\x7d(ctx, in)"]
    deserialize := ["// \x7b\x7b operation \x7d\x7d"] }

def busySettings : Settings :=
  { settings with protocol := .str "aws.protocols#restJson1" }

/-- The traits of the input in one order. -/
def busyTraits : Traits :=
  [(Trait.title, .str "In"), (Trait.required, .null)]

theorem reordered_busyModel (id : ShapeId) : Option.Rel Shape.Reordered
    ((busyModel [operation.id, retry.id] busyTraits).shape? id)
    ((busyModel [retry.id, operation.id] busyTraits.reverse).shape? id) := by
  have hinput : Shape.Reordered { input with traits := busyTraits }
      { input with traits := busyTraits.reverse } :=
    { (.refl (by decide) (by decide) : Shape.Reordered input input) with
      traits := ⟨(List.reverse_perm _).symm, by decide⟩ }
  have hservice : Shape.Reordered { service with operations := [operation.id, retry.id] }
      { service with operations := [retry.id, operation.id] } :=
    { (.refl (by decide) (by decide) : Shape.Reordered service service) with
      operations := .swap _ _ [] }
  refine Model.rel_shape?_ofShapes (.cons (.refl (by decide) (by decide)) (.cons hinput
    (.cons (.refl (by decide) (by decide)) (.cons (.refl (by decide) (by decide))
      (.cons hservice .nil))))) (fun _ _ h => h.id) ?_ id
  intro entry hentry
  obtain ⟨_, _, rfl⟩ := List.mem_map.1 hentry
  exact .refl List.nodup_nil (by simp)

theorem exists_busy_manifest : ∃ manifest, (Run.of (busyModel [operation.id, retry.id] busyTraits)
    busySettings { integrations := [speaker] }).result = .ok manifest := by
  let service := { service with operations := [operation.id, retry.id] }
  let input := { input with traits := busyTraits }
  let model := busyModel [operation.id, retry.id] busyTraits
  have hchosen : Run.choose model busySettings = .ok (service, some "aws.protocols#restJson1") :=
    Run.choose_of_traits_eq_nil rfl rfl rfl rfl
  have hsearch : model.search 9 service.id = some [foreign, input, operation, retry, service] := rfl
  have hclosure := Model.closure_eq_ok_of_search hsearch (by decide +kernel) (by decide +kernel)
  obtain ⟨_, manifest, h, -⟩ :=
    Run.exists_manifest { integrations := [speaker] } hchosen rfl hclosure (by decide +kernel)
  exact ⟨manifest, h⟩

end Sample

namespace Run

theorem result_eq_ok_iff_of_reordered_sample : ∃ manifest,
    (Run.of (Sample.busyModel [Sample.operation.id, Sample.retry.id] Sample.busyTraits)
      Sample.busySettings { integrations := [Sample.speaker] }).result = .ok manifest ∧
    (Run.of (Sample.busyModel [Sample.retry.id, Sample.operation.id] Sample.busyTraits.reverse)
      Sample.busySettings { integrations := [Sample.speaker] }).result = .ok manifest := by
  obtain ⟨manifest, h⟩ := Sample.exists_busy_manifest
  refine ⟨manifest, h, (result_eq_ok_iff_of_reordered .standard ?_ ?_ manifest).1 h⟩
  · exact Sample.reordered_busyModel
  · intro integration hintegration
    obtain rfl := List.mem_singleton.1 hintegration
    refine ⟨rfl, ?_⟩
    rintro bodies hbodies
    obtain rfl := Option.some.inj hbodies
    exact ⟨HandlerBody.ignoresOrder_ofTemplates _, HandlerBody.ignoresOrder_ofTemplates _⟩

end Run

/-! ### Orders that show -/

namespace Sample

/-- The operation with two traits, in some order. -/
def marked (traits : Traits) : Shape :=
  { operation with traits }

def markedModel (traits : Traits) : Model :=
  .ofShapes [foreign, input, marked traits, service]

/-- An integration whose bodies are for operations on which the title comes first. -/
def choosy : Integration where
  name := "choosy"
  bodies := some {
    protocol := "aws.protocols#restJson1"
    serialize := { steps := fun operation _ =>
      if (Entries.keys operation.traits).head? == some Trait.title then []
      else [.fail (.step "unexpected order")] } }

theorem reordered_markedModel (id : ShapeId) : Option.Rel Shape.Reordered
    ((markedModel busyTraits).shape? id) ((markedModel busyTraits.reverse).shape? id) := by
  have hmarked : Shape.Reordered (marked busyTraits) (marked busyTraits.reverse) :=
    { (.refl (by decide) (by decide) : Shape.Reordered operation operation) with
      traits := ⟨(List.reverse_perm _).symm, by decide⟩ }
  refine Model.rel_shape?_ofShapes (.cons (.refl (by decide) (by decide))
    (.cons (.refl (by decide) (by decide)) (.cons hmarked
    (.cons (.refl (by decide) (by decide)) .nil)))) (fun _ _ h => h.id) ?_ id
  intro entry hentry
  obtain ⟨_, _, rfl⟩ := List.mem_map.1 hentry
  exact .refl List.nodup_nil (by simp)

theorem choose_markedModel (traits : Traits) :
    Run.choose (markedModel traits) busySettings
      = .ok (service, some "aws.protocols#restJson1") :=
  Run.choose_of_traits_eq_nil rfl rfl rfl rfl

theorem closure_markedModel (traits : Traits) :
    (markedModel traits).closure service.id = .ok [foreign, input, marked traits, service] := by
  have hsearch : (markedModel traits).search 8 service.id
      = some [foreign, input, marked traits, service] := rfl
  have hids : [foreign, input, marked traits, service].map Shape.id
      = [foreign.id, input.id, operation.id, service.id] := rfl
  exact Model.closure_eq_ok_of_search hsearch (by rw [hids]; decide) (by rw [hids]; decide)

/-- A document with an error, whose traits are given. -/
def errorDocument (traits : List (String × Json)) : Json :=
  .obj [("shapes", .obj [
    ("z#Gone", .obj [("type", .str "structure"), ("traits", .obj traits)]),
    ("z#Op", .obj [("type", .str "operation"), ("errors", .arr [.str "z#Gone"])]),
    ("z#Svc", .obj [("type", .str "service"), ("operations", .arr [.str "z#Op"])])])]

/-- One trait by its name and by its id; no fault can be looked up by the second value. -/
def errorTraits : List (String × Json) :=
  [("error", .str "client"), (Trait.error, .arr [])]

def gone (value : Json) : Shape where
  id := { ns := "z", name := "Gone" }
  type := .struct
  traits := [(Trait.error, value)]

/-- An operation without input that may end in the error. -/
def goingOperation : Shape :=
  { operation with input := none, errors := [(gone .null).id] }

/-- The model of the document, where the trait has one value. -/
def errorModel (value : Json) : Model :=
  .ofShapes [gone value, goingOperation, service]

theorem choose_errorModel (value : Json) :
    Run.choose (errorModel value) settings = .ok (service, none) :=
  Run.choose_of_traits_eq_nil rfl rfl rfl rfl

theorem closure_errorModel (value : Json) :
    (errorModel value).closure service.id = .ok [gone value, goingOperation, service] := by
  have hsearch : (errorModel value).search 6 service.id
      = some [gone value, goingOperation, service] := rfl
  have hids : [gone value, goingOperation, service].map Shape.id
      = [(gone .null).id, operation.id, service.id] := rfl
  exact Model.closure_eq_ok_of_search hsearch (by rw [hids]; decide) (by rw [hids]; decide)

end Sample

namespace Run

/-- An order shows in what a run does if a body of an integration asks for the order of the traits,
and in documents that give a trait of a shape twice, where the value that stands last counts. -/
theorem order_decides :
    ((∀ id, Option.Rel Shape.Reordered ((Sample.markedModel Sample.busyTraits).shape? id)
        ((Sample.markedModel Sample.busyTraits.reverse).shape? id)) ∧
      Sample.choosy.condition = .always ∧
      (∃ manifest, (Run.of (Sample.markedModel Sample.busyTraits) Sample.busySettings
        { integrations := [Sample.choosy] }).result = .ok manifest) ∧
      ∃ failure, (Run.of (Sample.markedModel Sample.busyTraits.reverse) Sample.busySettings
        { integrations := [Sample.choosy] }).result = .error failure) ∧
    ∃ model model', Model.ofDocument (Sample.errorDocument Sample.errorTraits) = .ok model ∧
      Model.ofDocument (Sample.errorDocument Sample.errorTraits.reverse) = .ok model' ∧
      (∃ failure, (Run.of model Sample.settings {}).result = .error failure) ∧
      ∃ manifest, (Run.of model' Sample.settings {}).result = .ok manifest := by
  refine ⟨⟨Sample.reordered_markedModel, rfl, ?_, ?_⟩, Sample.errorModel (.arr []),
    Sample.errorModel (.str "client"), rfl, rfl, ?_, ?_⟩
  · obtain ⟨_, manifest, h, -⟩ := exists_manifest { integrations := [Sample.choosy] }
      (Sample.choose_markedModel Sample.busyTraits) rfl (Sample.closure_markedModel _)
      (by decide +kernel)
    exact ⟨manifest, h⟩
  · exact exists_failure { integrations := [Sample.choosy] }
      (Sample.choose_markedModel Sample.busyTraits.reverse) rfl (Sample.closure_markedModel _)
      (by decide +kernel)
  · exact exists_failure {} (Sample.choose_errorModel (.arr [])) rfl (Sample.closure_errorModel _)
      (by decide +kernel)
  · obtain ⟨_, manifest, h, -⟩ := exists_manifest {} (Sample.choose_errorModel (.str "client")) rfl
      (Sample.closure_errorModel _) (by decide +kernel)
    exact ⟨manifest, h⟩

end Run

end ClientGen
