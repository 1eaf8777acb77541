import ClientGen.Proofs.Generation.Failing
import ClientGen.Proofs.Symbol.Failing

/-!
# Lookups behind the walk

A run walks its model once, from the service along all references.  Behind the walk it looks up
shapes in three places: the provider follows the elements of lists and maps, a structure asks for
the types of its fields, and an error looks for the text among its members that holds the message.
All of them go from a shape that was walked along one of its members, so they never leave the
closure, and nothing that stands in a closure is missing.  That a list, set or map has a member for
its elements at all is not due to the walk but to the reader of documents.

What is left is no lookup: the name of an operation may collide, and elements may come back to
themselves.

## Main definitions

* `Failure.IsRefusal` — a shape is refused a symbol, although every lookup succeeds.
* `Model.Serves` — what is looked up from some shapes is found among them.
* `Failure.isLookup` — a shape was looked up that the model lacks.
* `Integration.AnyRaises` — the body of a handler ends in a failure.
* `Failure.IsOwn` — the failures that the stages of a run have while they write.

## Main results

* `Model.serves_closure` — the model of a document serves its closures.
* `Run.lookups_succeed` — it does, and no run fails by a lookup unless a handler does.
-/

namespace ClientGen

/-- A shape is refused a symbol, although every lookup succeeds. -/
inductive Failure.IsRefusal : Failure → Prop where
  /-- The name of an operation is one of the client's own. -/
  | collision (clash : Collision) : IsRefusal (.collision clash)
  /-- Elements come back to themselves, or are nested deeper than a bound. -/
  | endless : IsRefusal (.malformed .endless)

/-- A shape was looked up that the model lacks. -/
def Failure.isLookup : Failure → Bool
  | .model (.shapeNotFound _) => true
  | _ => false

theorem Failure.IsRefusal.not_isLookup {failure : Failure} (h : failure.IsRefusal) :
    failure.isLookup = false := by
  cases h <;> rfl

theorem Failure.IsOfEnum.not_isLookup {failure : Failure} (h : failure.IsOfEnum) :
    failure.isLookup = false := by
  cases h <;> rfl

/-- A table refuses a symbol for a collision, or because the provider does. -/
theorem Context.Refuses.isRefusal {context : Context} {shape : Shape} {failure : Failure}
    (h : context.Refuses shape failure)
    (hsymbol : context.symbolOf shape = .error failure → failure.IsRefusal) :
    failure.IsRefusal := by
  rcases h with h | ⟨_, clash, -, rfl, -⟩
  · exact hsymbol h
  · exact .collision clash

/-! ## Shapes of a closure -/

namespace Model

/-- What is looked up from the shapes is found, and found among them. -/
structure Serves (model : Model) (shapes : List Shape) : Prop where
  targets : ∀ shape ∈ shapes, ∀ member ∈ shape.members,
    ∃ target ∈ shapes, model.expect member.target = .ok target
  elements : ∀ shape ∈ shapes, shape.type ∈ [.list, .set, .map] →
    ∃ member, shape.member? shape.elementName = some member ∧
      ∃ element ∈ shapes, model.expect member.target = .ok element
  /-- The provider, as deep as it follows elements. -/
  symbols : ∀ shape ∈ shapes, ∀ modulePath depth failure,
    model.symbolWithin modulePath depth shape = .error failure → failure.IsRefusal
  /-- The types of fields, whatever is remembered. -/
  fields : ∀ context : Context, context.model = model → ∀ shape ∈ shapes,
    ∀ member ∈ shape.members, ∀ table failure,
      Declaration.memberSymbol context table member = .error failure → failure.IsRefusal
  /-- The message of an error. -/
  messages : ∀ shape ∈ shapes, ∃ field, Declaration.messageField model shape.members = .ok field

variable {model : Model} {shapes : List Shape} {shape : Shape} {modulePath : String}
  {failure : Failure}

section Closed

variable (htargets : ∀ shape ∈ shapes, ∀ member ∈ shape.members,
    ∃ target ∈ shapes, model.expect member.target = .ok target)
  (helements : ∀ shape ∈ shapes, shape.HasElement)
include htargets helements

theorem exists_element (hmem : shape ∈ shapes) (htype : shape.type ∈ [.list, .set, .map]) :
    ∃ member, shape.member? shape.elementName = some member ∧
      ∃ element ∈ shapes, model.expect member.target = .ok element := by
  obtain ⟨member, hmember⟩ := Option.isSome_iff_exists.1 (helements shape hmem htype)
  exact ⟨member, hmember, htargets shape hmem member (List.mem_of_find?_eq_some hmember)⟩

/-- **Following elements** from one of the shapes never looks for a shape in vain. -/
theorem isRefusal_of_symbolWithin {depth : Nat} (hmem : shape ∈ shapes)
    (h : model.symbolWithin modulePath depth shape = .error failure) : failure.IsRefusal := by
  -- On the depth: the element of one of the shapes is one of the shapes again.
  induction depth generalizing shape with
  | zero =>
    obtain rfl := Except.error.inj h
    exact .endless
  | succ depth ih =>
    cases hown : shape.ownSymbol? modulePath with
    | some symbol =>
      rw [symbolWithin, hown] at h
      obtain ⟨clash, rfl⟩ := Shape.exists_clash_of_ownSymbol? (hown.trans (congrArg some h))
      exact .collision clash
    | none =>
      obtain ⟨member, hmember, element, hinside, hexpect⟩ :=
        exists_element htargets helements hmem (Shape.type_mem_of_ownSymbol?_eq_none hown)
      have helement : shape.element model = .ok element := by
        rw [Shape.elementName] at hmember
        rw [Shape.element, hmember]
        exact hexpect
      have hnext : model.next? modulePath shape = some element := by
        rw [next?, hown, helement]
      rw [symbolWithin_of_next? hnext] at h
      rcases bind_eq_error.1 h with h | ⟨symbol, -, h⟩
      · exact ih hinside h
      · exact absurd h pure_ne_error

/-- **Shapes that are closed under members are served**, if those with elements have a member for
them. -/
theorem serves_of_closed : model.Serves shapes where
  targets := htargets
  elements _ := exists_element htargets helements
  symbols _ hmem _ _ _ := isRefusal_of_symbolWithin htargets helements hmem
  fields := by
    rintro context rfl shape hmem member hmember table failure h
    obtain ⟨target, hinside, htarget⟩ := htargets shape hmem member hmember
    rw [Declaration.memberSymbol, htarget] at h
    exact Context.Refuses.isRefusal (SymbolTable.resolve_eq_error h)
      fun h => isRefusal_of_symbolWithin htargets helements hinside h
  messages := by
    intro shape hmem
    refine Declaration.exists_messageField fun member hmember => ?_
    obtain ⟨target, -, htarget⟩ := htargets shape hmem member hmember
    exact ⟨target, htarget⟩

end Closed

/-- **The model of a document serves its closures.** -/
theorem serves_closure (hmodel : model.HasElements) {root : ShapeId}
    (hclosure : model.closure root = .ok shapes) : model.Serves shapes := by
  refine serves_of_closed ?_ fun shape hmem => hmodel _ _ (shape?_of_mem_closure hclosure hmem)
  intro shape hmem member hmember
  obtain ⟨target, hinside, htarget⟩ :=
    exists_target_mem_closure hclosure hmem (target_mem_targets hmember)
  exact ⟨target, hinside, expect_eq_ok.2 htarget⟩

end Model

/-! ## Runs -/

/-- The body of a handler, run for one of the operations, ends in the failure. -/
def Integration.AnyRaises (integrations : List Integration) (operations : List Shape)
    (failure : Failure) : Prop :=
  ∃ integration ∈ integrations, ∃ bodies ∈ integration.bodies, ∃ operation ∈ operations,
    ∃ (body : HandlerBody) (middleware : Middleware) (writer : Writer),
      (body = bodies.serialize ∨ body = bodies.deserialize) ∧
        (writer.run (body.steps operation middleware)).2 = some failure

/-- A failure that a stage of a run has by itself while it writes. -/
inductive Failure.IsOwn : Failure → Prop where
  | indentation (levels level : Int) (unit : String) : IsOwn (.indentation levels level unit)
  | transport (protocol : Json) (id : ShapeId) : IsOwn (.model (.protocolNotHttp protocol id))
  | undeclared (symbol : String) : IsOwn (.undeclared symbol)
  | incomplete (generator : String) (missing : List String) : IsOwn (.incomplete generator missing)
  /-- Two fields of integrations have one name. -/
  | collision (clash : Collision) : IsOwn (.collision clash)
  /-- The fault of an error is of no known kind. -/
  | kind : IsOwn (.malformed .kind)

namespace Run

variable {context : Context} {closure shapes : List Shape} {shape : Shape} {failure : Failure}

/-- Reserving one of the shapes looks nothing up in vain. -/
theorem not_isLookup_of_reserveShape (hserves : context.model.Serves closure)
    (hmem : shape ∈ closure) {table : SymbolTable}
    (h : reserveShape context table shape = .error failure) : failure.isLookup = false := by
  rcases reserveShape_eq_error h with h | ⟨-, typeName, h⟩ | ⟨clash, rfl⟩
  · exact (h.isRefusal (hserves.symbols shape hmem _ _ _)).not_isLookup
  · exact (Shape.isOfEnum_of_labels h).not_isLookup
  · rfl

/-- Before a run writes, it looks nothing up in vain. -/
theorem not_isLookup_of_start (hserves : context.model.Serves closure)
    (hclosure : context.model.closure context.service.id = .ok closure)
    (h : start context = .error failure) : failure.isLookup = false := by
  rcases start_eq_error h with h | ⟨shapes, hshapes, table, shape, hmem, h⟩ | h
  · rw [hclosure] at h
    simp at h
  · rw [Run.shapes, hclosure] at hshapes
    rw [← pure_eq_ok.1 hshapes] at hmem
    exact not_isLookup_of_reserveShape hserves (List.mem_filter.1 hmem).1 h
  · unfold Settings.indent at h
    split at h
    · simp at h
    · obtain rfl := Except.error.inj h
      rfl

/-- **While a run writes, only the body of a handler can end in a failure of a kind** that is not
among those of the stages, and with which no type of a field is refused. -/
theorem permits_raised {isOfKind : Failure → Bool}
    (hown : ∀ failure, failure.IsOwn → isOfKind failure = false)
    (htargets : ∀ shape ∈ shapes, ∀ member ∈ shape.members, ∀ target,
      context.model.expect member.target = .ok target → ∀ failure,
        context.Refuses target failure → isOfKind failure = false)
    (hsub : ∀ shape ∈ shapes, shape.type = .operation → shape ∈ closure) :
    context.Permits shapes (fun _ _ => True)
      fun failure => isOfKind failure = true →
        Integration.AnyRaises context.integrations closure failure where
  levels := Writer.levels_any fun level unit => by simp [hown _ (.indentation 1 level unit)]
  start := trivial
  transport protocol id := by simp [hown _ (.transport protocol id)]
  undeclared symbol := by simp [hown _ (.undeclared symbol)]
  incomplete generator missing := by simp [hown _ (.incomplete generator missing)]
  options := fun _ _ _ clash _ => by simp [hown _ (.collision clash)]
  targets := by
    intro shape hmem _ member hmember target htarget _ failure hrefused hkind
    simp [htargets shape hmem member hmember target htarget failure hrefused] at hkind
  faults := by
    intro shape _ _ failure hfailure hkind
    obtain ⟨-, rfl⟩ := Declaration.faultSymbol_eq_error hfailure
    simp [hown _ .kind] at hkind
  bodies := by
    intro integration hintegration bodies hmem operation hoperation htype middleware
    have hends : ∀ body, body = bodies.serialize ∨ body = bodies.deserialize →
        Step.EndWell (fun _ _ => True)
          (fun failure => isOfKind failure = true →
            Integration.AnyRaises context.integrations closure failure)
          (body.steps operation middleware) := by
      -- What a body runs is unknown: its failure is its own, and raised for this operation.
      refine fun body hbody => Step.endWell_any fun writer failure hfailure _ => ?_
      exact ⟨integration, hintegration, bodies, hmem, operation, hsub operation hoperation htype,
        body, middleware, writer, hbody, hfailure⟩
    exact ⟨hends _ (.inl rfl), hends _ (.inr rfl)⟩

/-- While a run writes, only the body of a handler can end in a failed lookup. -/
theorem permits_lookups (hserves : context.model.Serves closure)
    (hsub : ∀ shape ∈ shapes, shape ∈ closure) :
    context.Permits shapes (fun _ _ => True)
      fun failure => failure.isLookup = true →
        Integration.AnyRaises context.integrations closure failure := by
  refine permits_raised (fun failure hown => by cases hown <;> rfl) ?_ fun shape hmem _ =>
    hsub shape hmem
  intro shape hmem member hmember target htarget failure hrefused
  obtain ⟨found, hinside, hfound⟩ := hserves.targets shape (hsub shape hmem) member hmember
  obtain rfl := Except.ok.inj (hfound.symm.trans htarget)
  exact (hrefused.isRefusal (hserves.symbols found hinside _ _ _)).not_isLookup

/-- A run for a service whose closure is served fails by a lookup only if a handler does. -/
theorem anyRaises_of_isLookup {model : Model} {settings : Settings} {service : Shape}
    {protocol : Option String} {integrations : IntegrationRegistry}
    {generators : GeneratorRegistry} (hserves : model.Serves closure)
    (hclosure : model.closure service.id = .ok closure)
    (hchosen : choose model settings = .ok (service, protocol))
    (h : (Run.of model settings integrations generators).result = .error failure)
    (hlookup : failure.isLookup = true) :
    Integration.AnyRaises integrations.integrations closure failure := by
  have hstages := Run.stages model settings integrations generators
  generalize Run.of model settings integrations generators = run at h hstages
  -- The service is chosen, so the run fails when it reserves, when it writes, or when it lays out.
  cases hstages with
  | choosing chosen =>
    rw [hchosen] at chosen
    simp at chosen
  | @starting context _ _ chosen eq started =>
    obtain rfl := Except.error.inj h
    obtain ⟨rfl, -⟩ := Prod.mk.inj (Except.ok.inj (hchosen.symm.trans chosen))
    have hmodel : context.model = model := by rw [eq]
    rw [not_isLookup_of_start (hmodel ▸ hserves) (hmodel ▸ hclosure) started] at hlookup
    simp at hlookup
  | @writing context protocol shapes emission _ chosen eq started failed finished =>
    obtain ⟨rfl, -⟩ := Prod.mk.inj (Except.ok.inj (hchosen.symm.trans chosen))
    have hmodel : context.model = model := by rw [eq]
    have hintegrations : context.integrations = integrations.integrations := by rw [eq]
    obtain ⟨hshapes, -⟩ := start_spec started
    have hsub : ∀ shape ∈ shapes, shape ∈ closure := by
      intro shape hmem
      rw [Run.shapes, hmodel, hclosure] at hshapes
      rw [← pure_eq_ok.1 hshapes] at hmem
      exact (List.mem_filter.1 hmem).1
    rcases permitted_or_repeated started (permits_lookups (hmodel ▸ hserves) hsub) failed finished h
      with hraises | ⟨path, rfl⟩
    · rw [← hintegrations]
      exact hraises hlookup
    · simp [Failure.isLookup] at hlookup

/-- **Behind the walk nothing is looked up in vain**: if a shape of a document's model has a
closure, everything that is looked up from the closure is found in it, and a run for the shape fails
by a lookup only if the body of a handler does so itself. -/
theorem lookups_succeed {document : Json} {model : Model} {root : ShapeId}
    (hmodel : Model.ofDocument document = .ok model)
    (hclosure : model.closure root = .ok closure) :
    model.Serves closure ∧
      ∀ (settings : Settings) (integrations : IntegrationRegistry)
        (generators : GeneratorRegistry) (service : Shape) (protocol : Option String)
        (failure : Failure), choose model settings = .ok (service, protocol) → service.id = root →
          (Run.of model settings integrations generators).result = .error failure →
          failure.isLookup = true →
            Integration.AnyRaises integrations.integrations closure failure := by
  have hserves := Model.serves_closure (Model.hasElements_of_ofDocument hmodel) hclosure
  refine ⟨hserves, ?_⟩
  rintro settings integrations generators service protocol failure hchosen rfl hresult hlookup
  exact anyRaises_of_isLookup hserves hclosure hchosen hresult hlookup

end Run

/-! ## A reading room -/

namespace ReadingRoom

/-- Books by title. -/
def books : Shape :=
  let id : ShapeId := { ns := "a", name := "Books" }
  { id
    type := .map
    members := [
      { name := "key", container := id, target := { ns := "smithy.api", name := "String" } },
      { name := "value", container := id, target := { ns := "smithy.api", name := "String" } }] }

/-- Shelves full of books. -/
def shelves : Shape :=
  let id : ShapeId := { ns := "a", name := "Shelves" }
  { id
    type := .list
    members := [{ name := "member", container := id, target := books.id }] }

def input : Shape :=
  let id : ShapeId := { ns := "a", name := "Visit" }
  { id
    type := .struct
    members := [{ name := "shelves", container := id, target := shelves.id }] }

/-- An error with a message. -/
def closed : Shape :=
  let id : ShapeId := { ns := "z", name := "Closed" }
  { id
    type := .struct
    traits := [(Trait.error, .str "client")]
    members := [{
      name := "Message"
      container := id
      target := { ns := "smithy.api", name := "String" } }] }

def operation : Shape where
  id := { ns := "z", name := "Enter" }
  type := .operation
  input := input.id
  errors := [closed.id]

def service : Shape where
  id := { ns := "z", name := "House" }
  type := .service
  operations := [operation.id]

def text : Shape where
  id := { ns := "smithy.api", name := "String" }
  type := .string

def model : Model :=
  .ofShapes [service, operation, input, shelves, books, closed]

/-- The document that the model is read from. -/
def document : Json :=
  .obj [("shapes", .obj [
    ("z#House", .obj [("type", .str "service"), ("operations", .arr [.str "z#Enter"])]),
    ("z#Enter", .obj [("type", .str "operation"), ("input", .str "a#Visit"),
      ("errors", .arr [.str "z#Closed"])]),
    ("a#Visit", .obj [("type", .str "structure"),
      ("members", .obj [("shelves", .obj [("target", .str "a#Shelves")])])]),
    ("a#Shelves", .obj [("type", .str "list"), ("member", .obj [("target", .str "a#Books")])]),
    ("a#Books", .obj [("type", .str "map"), ("key", .obj [("target", .str "String")]),
      ("value", .obj [("target", .str "String")])]),
    ("z#Closed", .obj [("type", .str "structure"), ("traits", .obj [("error", .str "client")]),
      ("members", .obj [("Message", .obj [("target", .str "String")])])])])]

def closure : List Shape :=
  [books, shelves, input, text, closed, operation, service]

theorem ofDocument_document : Model.ofDocument document = .ok model :=
  rfl

theorem closure_eq : model.closure service.id = .ok closure := by
  have hsearch : model.search 12 service.id = some closure := rfl
  exact Model.closure_eq_ok_of_search hsearch (by decide) (by decide)

end ReadingRoom

namespace Run

theorem lookups_succeed_sample :
    Model.ofDocument ReadingRoom.document = .ok ReadingRoom.model ∧
      ReadingRoom.model.closure ReadingRoom.service.id = .ok ReadingRoom.closure ∧
      ReadingRoom.model.Serves ReadingRoom.closure ∧
      ∀ (settings : Settings) (integrations : IntegrationRegistry)
        (generators : GeneratorRegistry) (service : Shape) (protocol : Option String)
        (failure : Failure), choose ReadingRoom.model settings = .ok (service, protocol) →
          service.id = ReadingRoom.service.id →
          (Run.of ReadingRoom.model settings integrations generators).result = .error failure →
          failure.isLookup = true →
            Integration.AnyRaises integrations.integrations ReadingRoom.closure failure :=
  ⟨ReadingRoom.ofDocument_document, ReadingRoom.closure_eq,
    lookups_succeed ReadingRoom.ofDocument_document ReadingRoom.closure_eq⟩

end Run

end ClientGen
