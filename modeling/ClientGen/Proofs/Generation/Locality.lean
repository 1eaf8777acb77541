import ClientGen.Proofs.Generation.Matching

/-!
# A run depends on what its service reaches

A run reads its model in few places: the shapes that the service reaches and the shapes that the
traits of the service name.  Two models that hold the same there, or lack the same, give the same
result, files and failures alike.  So neither the order of the shapes in a model nor any shape that
is not reached has an effect.

## Main results

* `Run.result_eq_of_reached` — the result depends on the reached shapes and the protocols only.
-/

namespace ClientGen

variable {view : View} {model model' : Model} {settings : Settings}
  {integrations : IntegrationRegistry}

/-! ## A shape looks like itself -/

theorem Shape.Alike.refl (shape : Shape) : shape.Alike view shape where
  id := rfl
  type := rfl
  members := List.forall₂_same.2 fun _ _ => ⟨rfl, rfl, rfl, rfl⟩
  trait? := fun _ _ _ => rfl
  hasEnum := rfl
  enumValues := (Failure.Alike.agree_self shape.enumValues).imp (fun _ _ h => h)
    fun _ _ heq => heq ▸ List.forall₂_same.2 fun _ _ => ⟨rfl, rfl, rfl⟩
  documentation := rfl

theorem ConfigField.alike_self (fields : List ConfigField) :
    List.Forall₂ (ConfigField.Alike view) fields fields :=
  List.forall₂_same.2 fun _ _ => ⟨rfl, rfl, rfl⟩

theorem Integration.Alike.refl {P : Shape → Shape → Prop} (integration : Integration)
    (hsame : ∀ shape shape', P shape shape' → shape = shape') :
    integration.Alike view P integration where
  name := rfl
  fields := ConfigField.alike_self _
  resolver := rfl
  applies := fun hpair _ => by rw [hsame _ _ hpair]
  bodies := by
    cases integration.bodies with
    | none => exact .none
    | some bodies => exact .some ⟨rfl, fun hpair _ _ => by rw [hsame _ _ hpair],
        fun hpair _ _ => by rw [hsame _ _ hpair]⟩

/-! ## Files that look the same in full -/

theorem Manifest.Alike.eq {manifest manifest' : Manifest} (h : manifest.Alike .files manifest') :
    manifest = manifest' := by
  obtain ⟨entries⟩ := manifest
  obtain ⟨entries'⟩ := manifest'
  have hentries : entries = entries' := by
    rw [← List.forall₂_eq_eq_eq]
    exact h.files.imp fun file file' hfile => Prod.ext hfile.1 (List.singleton_inj.1 hfile.2)
  rw [hentries]

theorem Failure.Alike.eq {failure failure' : Failure} (h : failure.Alike .files failure') :
    failure = failure' := by
  rw [← failure.seen_files, h, failure'.seen_files]

/-! ## Locality -/

namespace Run

/-- **A run depends on what its service reaches.**  Two models that hold the same shapes, or lack
them alike, under every id that the service reaches and under the ids of its traits, give the same
result with the same settings and integrations: the same files, or the same failure. -/
theorem result_eq_of_reached (generators : GeneratorRegistry)
    (hreached : ∀ root, ShapeId.read settings.service.text = .ok root →
      ∀ id, model.Reaches root id → model.shape? id = model'.shape? id)
    (htraits : ∀ service, model.expectWritten settings.service.text = .ok service →
      ∀ trait ∈ Entries.keys service.traits, ∀ id, ShapeId.read trait = .ok id →
        model.shape? id = model'.shape? id) :
    (Run.of model settings integrations generators).result
      = (Run.of model' settings integrations generators).result := by
  have hrel : ∀ found found' : Option Shape, found = found' → Option.Rel Eq found found' := by
    rintro found _ rfl
    cases found with
    | none => exact .none
    | some shape => exact .some rfl
  have hmodels : ∀ root, ShapeId.read settings.service.text = .ok root →
      Model.Matches Eq root model model' :=
    fun root hread id hid => hrel _ _ (hreached root hread id hid)
  have hcomparable : Comparable .files Eq Eq model model' settings settings integrations
      integrations := {
    alike := fun shape _ heq => heq ▸ .refl shape
    targets := fun _ _ heq _ => heq ▸ Iff.rfl
    failure := fun _ _ h => h.eq
    settingsAlike := rfl
    indents := fun _ _ => trivial
    models := hmodels
    protocols := by
      rintro service _ rfl hservice -
      -- A trait need not be reached: its shape is looked up under the name of the trait.
      have hsame : Shape.protocolsAmong model (Entries.keys service.traits)
          = Shape.protocolsAmong model' (Entries.keys service.traits) :=
        Shape.protocolsAmong_eq (R := Eq) (fun _ _ heq => heq ▸ rfl) fun trait htrait id hread =>
          hrel _ _ (htraits service hservice trait htrait id hread)
      rw [Shape.protocols, Shape.protocols, hsame]
      exact .refl (fun _ => rfl) (fun _ => rfl) _
    closure := fun root hread =>
      (hmodels root hread).closure_agree_of_targets fun _ _ heq => heq ▸ rfl
    integrationsAlike := List.forall₂_same.2 fun integration _ =>
      .refl integration fun _ _ hpair => hpair.1 }
  exact ((hcomparable.result_agree generators).imp (fun _ _ h => h) fun _ _ h => h.eq).eq

end Run

namespace Sample

/-- A shape that nothing refers to, with a member whose target is missing. -/
def stray : Shape :=
  let id : ShapeId := { ns := "z", name := "Stray" }
  { id
    type := .struct
    members := [{ name := "lost", container := id, target := { ns := "z", name := "Lost" } }] }

/-- The shapes of the sample in another order, and the stray one. -/
def strayModel : Model :=
  .ofShapes [service, stray, operation, input, foreign]

theorem shape?_strayModel {id : ShapeId} (hid : Sample.model.Reaches service.id id) :
    Sample.model.shape? id = strayModel.shape? id := by
  obtain ⟨shape, hshape⟩ :=
    Option.isSome_iff_exists.1 ((Model.exists_closure_iff.1 ⟨_, closure_eq⟩).1 id hid)
  have hmem := (Model.mem_closure_iff closure_eq).2 ⟨id, hid, hshape⟩
  obtain rfl := Model.id_eq_of_shape? hshape
  simp only [List.mem_cons, List.not_mem_nil, or_false] at hmem
  rcases hmem with rfl | rfl | rfl | rfl <;> rfl

end Sample

namespace Run

theorem result_eq_of_reached_sample : Sample.strayModel.shape? Sample.stray.id = some Sample.stray ∧
    (∃ manifest, (Run.of Sample.model Sample.settings {}).result = .ok manifest) ∧
      (Run.of Sample.model Sample.settings {}).result
        = (Run.of Sample.strayModel Sample.settings {}).result := by
  obtain ⟨_, manifest, h, -⟩ := Sample.exists_manifest
  refine ⟨rfl, ⟨manifest, h⟩, result_eq_of_reached .standard ?_ ?_⟩
  · intro root hread id hid
    have hroot : ShapeId.read Sample.settings.service.text = .ok Sample.service.id := rfl
    obtain rfl := Except.ok.inj (hread.symm.trans hroot)
    exact Sample.shape?_strayModel hid
  · intro service hservice
    have hfound : Sample.model.expectWritten Sample.settings.service.text
        = .ok Sample.service := rfl
    obtain rfl := Except.ok.inj (hservice.symm.trans hfound)
    simp [Sample.service, Entries.keys]

end Run

end ClientGen
