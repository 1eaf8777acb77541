import ClientGen.Proofs.Generation.Failing
import ClientGen.Proofs.Generation.Inventory

/-!
# Collisions and the units of a run

Reserving is meant to find every collision before a unit is started.  It finds those of the names
that shapes declare and of the fields of structures; a run that ends in one of these has no units.
Three kinds of collision come later: the fields that integrations add to the options of a client are
collected while the client is written, a shape of the prelude's namespace gets its symbol when a
field first refers to it, and the body of a handler may end in whatever its author wants.

## Main definitions

* `Context.LateClash` — the collisions that a run finds only while it writes.

## Main results

* `Run.late_of_collision` — a collision leaves no units, or it is a late one.
-/

namespace ClientGen

/-- A collision that a run finds only while it writes. -/
inductive Context.LateClash (context : Context) (shapes : List Shape) (clash : Collision) : Prop where
  /-- Two fields of the options of a client. -/
  | options {shape : Shape} (mem : shape ∈ shapes) (type : shape.type = .service)
    (collected : Integration.collectFields context.integrations shape = .error clash)
  /-- The type of a field, if it is a built-in shape. -/
  | target {shape target : Shape} {member : Member} (mem : shape ∈ shapes)
    (aggregate : shape.isAggregate = true) (member_mem : member ∈ shape.members)
    (found : context.model.expect member.target = .ok target) (builtin : target.isBuiltin = true)
    (refused : context.Refuses target (.collision clash))
  /-- The body of a handler. -/
  | body {integration : Integration} {bodies : ProtocolBodies} {body : HandlerBody}
    {operation : Shape} {middleware : Middleware} {writer : Writer}
    (integration_mem : integration ∈ context.integrations) (mem : bodies ∈ integration.bodies)
    (which : body = bodies.serialize ∨ body = bodies.deserialize) (operation_mem : operation ∈ shapes)
    (failed : (writer.run (body.steps operation middleware)).2 = some (.collision clash))

namespace Run

variable {context : Context} {shapes : List Shape}

/-- While a run writes, collisions are late and everything else is of no account. -/
theorem permits_lateClash : context.Permits shapes (fun _ _ => True)
    fun failure => ∀ clash, failure = .collision clash → context.LateClash shapes clash where
  levels := Writer.levels_any (by simp)
  start := trivial
  transport := by simp
  undeclared := by simp
  incomplete := by simp
  options := by
    intro shape hmem htype clash hcollected _ heq
    obtain rfl := Failure.collision.inj heq
    exact .options hmem htype hcollected
  targets := by
    intro shape hmem haggregate member hmember target hfound hbuiltin failure hrefused clash heq
    exact .target hmem haggregate hmember hfound hbuiltin (heq ▸ hrefused)
  faults := by
    intro shape _ _ failure hfailure clash heq
    obtain ⟨-, rfl⟩ := Declaration.faultSymbol_eq_error hfailure
    simp at heq
  bodies := by
    intro integration hintegration bodies hmem operation hoperation _ middleware
    have hends : ∀ body, body = bodies.serialize ∨ body = bodies.deserialize →
        Step.EndWell (fun _ _ => True)
          (fun failure => ∀ clash, failure = .collision clash → context.LateClash shapes clash)
          (body.steps operation middleware) := by
      refine fun body hbody => Step.endWell_any fun writer failure hfailure clash heq => ?_
      exact .body hintegration hmem hbody hoperation (heq ▸ hfailure)
    exact ⟨hends _ (.inl rfl), hends _ (.inr rfl)⟩

/-- **A collision leaves no units, or it is a late one.**  In the first case it was found by
reserving or before; in the second the run had reserved all its names. -/
theorem late_of_collision {model : Model} {settings : Settings}
    {integrations : IntegrationRegistry} {generators : GeneratorRegistry} {clash : Collision}
    (h : (Run.of model settings integrations generators).result = .error (.collision clash)) :
    (Run.of model settings integrations generators).units.writers = [] ∨
      ∃ (context : Context) (protocol : Option String) (shapes : List Shape) (table : SymbolTable),
        choose model settings = .ok (context.service, protocol) ∧
        context = {
          model, settings, service := context.service, integrations := integrations.integrations,
          transport := some .http } ∧
        Run.shapes context = .ok shapes ∧ reserve context shapes = .ok table ∧
        context.LateClash shapes clash := by
  have hstages := Run.stages model settings integrations generators
  generalize Run.of model settings integrations generators = run at h hstages ⊢
  cases hstages with
  | choosing => exact .inl rfl
  | starting => exact .inl rfl
  | @writing context protocol shapes emission _ chosen eq started failed finished =>
    obtain ⟨hshapes, htable, -⟩ := start_spec started
    refine .inr ⟨context, protocol, shapes, emission.table, chosen, eq, hshapes, htable, ?_⟩
    rcases permitted_or_repeated started permits_lateClash failed finished h with
      hlate | ⟨path, hpath⟩
    · exact hlate clash rfl
    · cases hpath

end Run

/-! ## Two fields of one name -/

/-- Whether the shapes can be reserved, but writing them ends in a collision after a unit was
started. -/
def Context.collides (context : Context) (protocol : Option String) (shapes : List Shape) : Bool :=
  match Run.reserve context shapes, context.settings.indent with
  | .ok table, .ok indentText =>
    let emission := Emission.of context .standard protocol shapes
      { units := Run.noUnits context.settings indentText, table }
    match emission.failure with
    | some (.collision _) => !emission.units.writers.isEmpty
    | _ => false
  | _, _ => false

namespace Run

/-- A run that collides while it writes leaves its units behind. -/
theorem exists_collision {model : Model} {settings : Settings} (integrations : IntegrationRegistry)
    {context : Context} {protocol : Option String} {shapes : List Shape}
    (hchosen : choose model settings = .ok (context.service, protocol))
    (hcontext : context = {
      model, settings, service := context.service, integrations := integrations.integrations,
      transport := some .http })
    (hshapes : Run.shapes context = .ok shapes) (hcollides : context.collides protocol shapes = true) :
    ∃ clash, (Run.of model settings integrations).result = .error (.collision clash) ∧
      (Run.of model settings integrations).units.writers ≠ [] := by
  unfold Context.collides at hcollides
  split at hcollides
  · rename_i table indentText htable hindent
    have hstart : start context
        = .ok (shapes, { units := noUnits context.settings indentText, table }) := by
      rw [start, hindent]
      exact bind_eq_ok.2 ⟨shapes, hshapes, bind_eq_ok.2 ⟨table, htable, rfl⟩⟩
    dsimp only at hcollides
    split at hcollides
    · rename_i clash hfailure
      rw [hcontext] at hstart hfailure hcollides
      refine ⟨clash, ?_, ?_⟩
      · simp only [Run.of, hchosen, IntegrationRegistry.close, hstart]
        rw [hfailure]
      · simp only [Run.of, hchosen, IntegrationRegistry.close, hstart]
        intro hempty
        rw [hempty] at hcollides
        simp at hcollides
    · simp at hcollides
  · simp at hcollides

end Run

namespace Sample

/-- An integration with a field of a common name. -/
def regional (name : String) : Integration where
  name
  fields := [{ name := "Region", type := .value "string" }]

def overlapping : IntegrationRegistry where
  integrations := [regional "one", regional "two"]

theorem exists_overlapping_collision :
    ∃ clash, (Run.of model settings overlapping).result = .error (.collision clash) ∧
      (Run.of model settings overlapping).units.writers ≠ [] := by
  have hchosen : Run.choose model settings = .ok (service, none) :=
    Run.choose_of_traits_eq_nil rfl rfl rfl rfl
  have hshapes : Run.shapes { context with integrations := overlapping.integrations }
      = .ok [input, operation, service] := by
    have hclosure := closure_eq
    rw [Run.shapes]
    exact bind_eq_ok.2 ⟨_, hclosure, rfl⟩
  exact Run.exists_collision overlapping hchosen rfl hshapes (by decide +kernel)

end Sample

namespace Run

theorem late_of_collision_overlapping : ∃ clash,
    (Run.of Sample.model Sample.settings Sample.overlapping).result = .error (.collision clash) ∧
      ((Run.of Sample.model Sample.settings Sample.overlapping).units.writers = [] ∨
        ∃ (context : Context) (protocol : Option String) (shapes : List Shape)
          (table : SymbolTable),
          choose Sample.model Sample.settings = .ok (context.service, protocol) ∧
          context = {
            model := Sample.model, settings := Sample.settings, service := context.service,
            integrations := Sample.overlapping.integrations, transport := some .http } ∧
          Run.shapes context = .ok shapes ∧ reserve context shapes = .ok table ∧
          context.LateClash shapes clash) := by
  obtain ⟨clash, h, -⟩ := Sample.exists_overlapping_collision
  exact ⟨clash, h, late_of_collision h⟩

/-- Two integrations with a field of one name collide when the unit of the client is started. -/
theorem units_despite_collision : ∃ clash,
    (Run.of Sample.model Sample.settings Sample.overlapping).result = .error (.collision clash) ∧
      (Run.of Sample.model Sample.settings Sample.overlapping).units.writers ≠ [] :=
  Sample.exists_overlapping_collision

end Run

end ClientGen
