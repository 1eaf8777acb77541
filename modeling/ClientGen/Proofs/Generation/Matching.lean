import ClientGen.Proofs.Generation.Comparison
import ClientGen.Proofs.Model.Comparison

/-!
# Runs on models that match

A run reads its model in three places: the service is looked up, then the shapes that its traits
name, and then everything that the service reaches.  If two models hold related shapes there, the
runs on them choose alike, find closures that list related shapes, and so are in step.  How alike
the results are depends on the relation, and so do the failures of the first stages, which are
compared by a relation of their own.

## Main definitions

* `Run.Comparable` — two runs whose models match where they are read.

## Main results

* `Run.Comparable.result_agree` — comparable runs have results that look alike.
-/

namespace ClientGen

variable {view : View} {R : Shape → Shape → Prop} {F : Failure → Failure → Prop}
  {model model' : Model} {settings settings' : Settings}
  {integrations integrations' : IntegrationRegistry}

/-! ## In step -/

/-- Two models that match below a root are in step on the related shapes of the two closures. -/
theorem Model.Matches.inStep {root : ShapeId} (hmodels : Matches R root model model')
    (halike : ∀ shape shape', R shape shape' → shape.Alike view shape')
    (htargets : ∀ shape shape', R shape shape' → ∀ id, id ∈ shape.targets ↔ id ∈ shape'.targets)
    {shapes shapes' : List Shape} (hclosure : model.closure root = .ok shapes)
    (hclosure' : model'.closure root = .ok shapes') :
    InStep view (fun shape shape' => R shape shape' ∧ shape ∈ shapes ∧ shape' ∈ shapes')
      model model' where
  alike := fun hpair => halike _ _ hpair.1
  held := fun hpair => shape?_of_mem_closure hclosure hpair.2.1
  held' := fun hpair => shape?_of_mem_closure hclosure' hpair.2.2
  closed := by
    rintro shape shape' ⟨hrel, hmem, hmem'⟩ member hmember
    have htarget := target_mem_targets hmember
    obtain ⟨id, hid, hheld⟩ := (mem_closure_iff hclosure).1 hmem
    obtain ⟨target, hfound⟩ := Option.isSome_iff_exists.1
      ((Model.exists_closure_iff.1 ⟨shapes, hclosure⟩).1 _ (hid.tail ⟨shape, hheld, htarget⟩))
    have htargetMem := target_mem_closure hclosure hmem htarget hfound
    obtain ⟨target', htargetMem', hpair⟩ :=
      exists_of_forall₂ (hmodels.forall₂_closure htargets hclosure hclosure') htargetMem
    exact ⟨target, target', ⟨hpair, htargetMem, htargetMem'⟩, id_eq_of_shape? hfound⟩

/-! ## Choosing -/

section

variable (htrait : ∀ shape shape' : Shape, R shape shape' →
  shape.hasTrait Trait.protocolDefinition = shape'.hasTrait Trait.protocolDefinition)
include htrait

/-- Whether a trait selects a protocol depends on the shape of its id only. -/
theorem Shape.isProtocol_eq {trait : String}
    (h : ∀ id, ShapeId.read trait = .ok id → Option.Rel R (model.shape? id) (model'.shape? id)) :
    isProtocol model trait = isProtocol model' trait := by
  unfold isProtocol Model.find?
  split
  · rfl
  · cases hread : ShapeId.read trait with
    | error failure => rfl
    | ok id =>
      have hshape := h id hread
      simp only [bind, Except.bind, pure, Except.pure]
      generalize model.shape? id = found, model'.shape? id = found' at hshape
      cases hshape with
      | none => rfl
      | some hrel => simp only [htrait _ _ hrel]

/-- The protocols among traits depend on the shapes of their ids only. -/
theorem Shape.protocolsAmong_eq {traits : List String}
    (h : ∀ trait ∈ traits, ∀ id, ShapeId.read trait = .ok id →
      Option.Rel R (model.shape? id) (model'.shape? id)) :
    protocolsAmong model traits = protocolsAmong model' traits := by
  induction traits with
  | nil => rfl
  | cons trait rest ih =>
    obtain ⟨hfirst, hrest⟩ := List.forall_mem_cons.1 h
    rw [protocolsAmong, protocolsAmong, isProtocol_eq htrait hfirst, ih hrest]

end

namespace Run

/-- Two runs can be compared by a relation between shapes: their settings look alike, and their
models match where a run reads them. -/
structure Comparable (view : View) (R : Shape → Shape → Prop) (F : Failure → Failure → Prop)
    (model model' : Model) (settings settings' : Settings)
    (integrations integrations' : IntegrationRegistry) : Prop where
  alike : ∀ shape shape', R shape shape' → shape.Alike view shape'
  targets : ∀ shape shape', R shape shape' → ∀ id, id ∈ shape.targets ↔ id ∈ shape'.targets
  failure : ∀ failure failure', failure.Alike view failure' → F failure failure'
  settingsAlike : settings.Alike view settings'
  indents : ∀ text, settings.indent = .ok text → view.Indents text
  models : ∀ root, ShapeId.read settings.service.text = .ok root →
    Model.Matches R root model model'
  /-- The two services offer the same protocols, or it cannot be said of either. -/
  protocols : ∀ service service', R service service' →
    model.expectWritten settings.service.text = .ok service →
    model'.expectWritten settings.service.text = .ok service' →
    Agree F Eq (service.protocols model) (service'.protocols model')
  closure : ∀ root, ShapeId.read settings.service.text = .ok root →
    Agree F (List.Forall₂ R) (model.closure root) (model'.closure root)
  integrationsAlike : List.Forall₂ (Integration.Alike view fun shape shape' => R shape shape' ∧
      model.shape? shape.id = some shape ∧ model'.shape? shape'.id = some shape')
    integrations.integrations integrations'.integrations

namespace Comparable

variable (h : Comparable view R F model model' settings settings' integrations integrations')
include h

theorem refl_failure (failure : Failure) : F failure failure :=
  h.failure _ _ rfl

/-- Both models hold the service of the run under one root, or neither does. -/
theorem expectWritten_agree :
    Agree F (fun service service' => R service service' ∧
        ∃ root, ShapeId.read settings.service.text = .ok root ∧
          model.shape? root = some service ∧ model'.shape? root = some service')
      (model.expectWritten settings.service.text) (model'.expectWritten settings.service.text) := by
  unfold Model.expectWritten Model.find?
  cases hread : ShapeId.read settings.service.text with
  | error failure => exact .error (h.refl_failure failure)
  | ok root =>
    have hservice := h.models root hread root .refl
    simp only [bind, Except.bind, pure, Except.pure]
    cases hfound : model.shape? root with
    | none =>
      rw [hfound] at hservice
      generalize model'.shape? root = found' at hservice
      cases hservice with
      | none => exact .error (h.refl_failure _)
    | some service =>
      obtain ⟨service', hfound', hrel⟩ := (h.models root hread).exists_shape? .refl hfound
      rw [hfound']
      exact .ok ⟨hrel, root, rfl, hfound, hfound'⟩

theorem chooseAmong_eq {service service' : Shape} (hrel : R service service') (wanted : Json)
    (offered : List String) :
    service.chooseAmong wanted offered = service'.chooseAmong wanted offered := by
  have hid := (h.alike _ _ hrel).id
  have hhttp : ∀ protocol, service.overHttp protocol = service'.overHttp protocol := by
    intro protocol
    cases protocol <;> simp only [Shape.overHttp, hid]
  simp only [Shape.chooseAmong, hhttp, hid]

/-- **Comparable runs choose alike.** -/
theorem choose_agree :
    Agree F (fun chosen chosen' => chosen.2 = chosen'.2 ∧ R chosen.1 chosen'.1 ∧
        chosen.1.type = .service ∧ ∃ root, ShapeId.read settings.service.text = .ok root ∧
          model.shape? root = some chosen.1 ∧ model'.shape? root = some chosen'.1)
      (choose model settings) (choose model' settings') := by
  have hservice : settings'.service = settings.service :=
    (h.settingsAlike.congr Settings.service fun _ => rfl).symm
  have hprotocol : settings'.protocol = settings.protocol :=
    (h.settingsAlike.congr Settings.protocol fun _ => rfl).symm
  have hexpect := h.expectWritten_agree
  have hprotocols := h.protocols
  unfold choose
  rw [hservice, hprotocol]
  generalize model.expectWritten settings.service.text = found at hexpect hprotocols ⊢
  generalize model'.expectWritten settings.service.text = found' at hexpect hprotocols ⊢
  cases hexpect with
  | error hfailure => exact .error hfailure
  | @ok service service' hfound =>
    obtain ⟨hrel, hroot⟩ := hfound
    have hoffered := hprotocols service service' hrel rfl rfl
    have halike := h.alike _ _ hrel
    simp only [bind, Except.bind, pure, Except.pure, Shape.chooseProtocol, ← halike.type,
      ← halike.id]
    split
    · exact .error (h.refl_failure _)
    · rename_i htype
      generalize service.protocols model = offered at hoffered ⊢
      generalize service'.protocols model' = offered' at hoffered ⊢
      cases hoffered with
      | error hfailure => exact .error hfailure
      | @ok offered offered' heq =>
        subst heq
        dsimp only
        rw [← h.chooseAmong_eq hrel]
        cases service.chooseAmong settings.protocol offered with
        | error failure => exact .error (h.refl_failure _)
        | ok protocol => exact .ok ⟨rfl, hrel, by simpa using htype, hroot⟩

/-! ## Results -/

omit h in
theorem result_of_closure_eq_error {service : Shape} {protocol : Option String}
    (generators : GeneratorRegistry) (hchosen : choose model settings = .ok (service, protocol))
    {failure : Failure} (hclosure : model.closure service.id = .error failure) :
    (Run.of model settings integrations generators).result = .error failure := by
  simp only [Run.of, hchosen, start, shapes, hclosure]
  rfl

/-- **Comparable runs have results that look alike.** -/
theorem result_agree (generators : GeneratorRegistry) :
    Agree F (Manifest.Alike view) (Run.of model settings integrations generators).result
      (Run.of model' settings' integrations' generators).result := by
  have hchosen := h.choose_agree
  generalize hchoose : choose model settings = chosen at hchosen
  generalize hchoose' : choose model' settings' = chosen' at hchosen
  cases hchosen with
  | error hfailure =>
    simp only [Run.of, hchoose, hchoose']
    exact .error hfailure
  | @ok chosen chosen' hchosen =>
    obtain ⟨service, protocol⟩ := chosen
    obtain ⟨service', protocol'⟩ := chosen'
    obtain ⟨rfl, hrel, htype, root, hread, hheld, hheld'⟩ := hchosen
    dsimp only at hchoose' hrel htype hheld hheld'
    obtain rfl := Model.id_eq_of_shape? hheld
    have hid := Model.id_eq_of_shape? hheld'
    have hclosure := h.closure _ hread
    generalize hshapes : model.closure service.id = shapes at hclosure
    generalize hshapes' : model'.closure service.id = shapes' at hclosure
    cases hclosure with
    | error hfailure =>
      rw [result_of_closure_eq_error generators hchoose hshapes,
        result_of_closure_eq_error generators hchoose' (hid ▸ hshapes')]
      exact .error hfailure
    | @ok shapes shapes' hforall =>
      have hmem : service ∈ shapes := (Model.mem_closure_iff hshapes).2 ⟨_, .refl, hheld⟩
      have hmem' : service' ∈ shapes' := (Model.mem_closure_iff hshapes').2 ⟨_, .refl, hheld'⟩
      have hpairs : List.Forall₂ (fun shape shape' => R shape shape' ∧ shape ∈ shapes ∧
          shape' ∈ shapes') shapes shapes' :=
        forall₂_imp_of_mem hforall fun _ hmem _ hmem' hrel => ⟨hrel, hmem, hmem'⟩
      refine (Run.result_agree generators hchoose hchoose' (P := fun shape shape' =>
        R shape shape' ∧ shape ∈ shapes ∧ shape' ∈ shapes') ?_ ?_ h.indents).imp h.failure
          fun _ _ hmanifest => hmanifest
      · refine {
          models := (h.models _ hread).inStep h.alike h.targets hshapes hshapes'
          settings := h.settingsAlike
          service := ⟨hrel, hmem, hmem'⟩
          type := htype
          integrations := h.integrationsAlike.imp fun _ _ hintegration => hintegration.mono ?_
          transport := rfl }
        rintro shape shape' ⟨hrel, hmem, hmem'⟩
        exact ⟨hrel, Model.shape?_of_mem_closure hshapes hmem,
          Model.shape?_of_mem_closure hshapes' hmem'⟩
      · rw [hshapes, hid, hshapes']
        exact .ok hpairs

end Comparable

end Run

end ClientGen
