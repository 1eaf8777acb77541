import ClientGen.Proofs.Generation.Declared

/-!
# A run that has written its units succeeds

Choosing, reserving and writing can fail.  Laying out the files cannot: the units of a run have
distinct paths, and none of them is that of the module's manifest.

## Main definitions

* `Context.writes` — shapes can be reserved and written without a failure.

## Main results

* `Run.exists_manifest` — a run succeeds once it has written, and its outline is the expected one.
* `Run.exists_failure` — a run that cannot reserve or write fails.
-/

namespace ClientGen

namespace Manifest

variable {manifest : Manifest}

theorem add_of_not_mem {path : String} (content : String)
    (h : path ∉ Entries.keys manifest.entries) :
    manifest.add path content = .ok { entries := manifest.entries ++ [(path, content)] } := by
  rw [add, if_neg]
  intro hhas
  obtain ⟨entry, hentry, heq⟩ := List.any_eq_true.1 hhas
  exact h (List.mem_map.2 ⟨entry, hentry, beq_iff_eq.1 heq⟩)

theorem ofFiles_of_nodup {files : List (String × String)} (h : (Entries.keys files).Nodup) :
    ofFiles files = .ok { entries := files } := by
  have hfold : ∀ (files : List (String × String)) (start : Manifest),
      (Entries.keys (start.entries ++ files)).Nodup →
      files.foldlM (fun manifest file => manifest.add file.1 file.2) start
        = .ok { entries := start.entries ++ files } := by
    intro files
    induction files with
    | nil =>
      intro start _
      rw [List.append_nil]
      rfl
    | cons file rest ih =>
      intro start hnodup
      have hnew : file.1 ∉ Entries.keys start.entries := by
        rw [Entries.keys, List.map_append, List.nodup_append] at hnodup
        exact fun hmem => hnodup.2.2 _ hmem _ List.mem_cons_self rfl
      rw [List.foldlM_cons, add_of_not_mem _ hnew]
      have hrest := ih { entries := start.entries ++ [(file.1, file.2)] }
      rw [List.append_assoc] at hrest
      exact hrest hnodup
  exact hfold files {} h

end Manifest

namespace Outline

theorem moduleUnit_not_mem_paths {model : Model} {settings : Settings}
    {integrations : IntegrationRegistry} {outline : Outline}
    (h : Outline.of model settings integrations = .ok outline) : moduleUnit ∉ outline.paths := by
  intro hmem
  rcases (mem_paths_iff h).1 hmem with ⟨shape, -, hshape⟩ | ⟨-, -, hmiddleware⟩ | hdoc
  · exact absurd (mem_of_unit?_eq_some hshape) (by decide)
  · exact absurd hmiddleware (by decide)
  · exact absurd hdoc (by decide)

end Outline

/-- Whether shapes can be reserved and written without a failure. -/
def Context.writes (context : Context) (protocol : Option String) (shapes : List Shape)
    (generators : GeneratorRegistry := .standard) : Bool :=
  match Run.reserve context shapes, context.settings.indent with
  | .ok table, .ok indentText =>
    (Emission.of context generators protocol shapes
      { units := Run.noUnits context.settings indentText, table }).failure.isNone
  | _, _ => false

namespace Run

/-- **Units with distinct paths can be laid out**, in the order of their paths. -/
theorem finish_eq (settings : Settings) {units : Units}
    (hnodup : (Entries.keys units.writers).Nodup)
    (hmodule : moduleUnit ∉ Entries.keys units.writers) :
    finish settings units = .ok {
      entries := units.sorted.map (fun unit => (unit.1, unit.2.toText))
        ++ [(moduleUnit, Layout.moduleManifest settings.modulePath settings.goVersion.text
          (requirements (units.sorted.map Prod.snd)))] } := by
  have hkeys : (Entries.keys (units.sorted.map fun unit => (unit.1, unit.2.toText))).Perm
      (Entries.keys units.writers) := by
    rw [Entries.keys, List.map_map]
    exact (List.mergeSort_perm _ _).map Prod.fst
  rw [finish, Manifest.ofFiles_of_nodup (hkeys.nodup_iff.2 hnodup)]
  exact Manifest.add_of_not_mem _ fun hmem => hmodule (hkeys.mem_iff.1 hmem)

/-- The service that is chosen is one of the model. -/
theorem choose_spec {model : Model} {settings : Settings} {service : Shape}
    {protocol : Option String} (h : choose model settings = .ok (service, protocol)) :
    model.shape? service.id = some service ∧ service.type = .service := by
  obtain ⟨found, hfound, h⟩ := bind_eq_ok.1 h
  have hshape : model.shape? found.id = some found := by
    obtain ⟨found?, hfind, hexpect⟩ := bind_eq_ok.1 hfound
    obtain ⟨id, -, hid⟩ := bind_eq_ok.1 hfind
    obtain rfl := pure_eq_ok.1 hid
    split at hexpect
    · rename_i shape hshape
      obtain rfl := Except.ok.inj hexpect
      rwa [Model.id_eq_of_shape? hshape]
    · simp at hexpect
  split at h
  · simp [bind, Except.bind] at h
  · rename_i htype
    obtain ⟨_, -, h⟩ := bind_eq_ok.1 h
    obtain ⟨rfl, -⟩ := Prod.mk.inj (pure_eq_ok.1 h)
    exact ⟨hshape, by simpa using htype⟩

/-- A service none of whose traits is a protocol leaves the choice to the settings. -/
theorem choose_of_protocolsAmong_eq_nil {model : Model} {settings : Settings} {service : Shape}
    {protocol : Option String} (hservice : model.expectWritten settings.service.text = .ok service)
    (htype : service.type = .service)
    (htraits : Shape.protocolsAmong model (Entries.keys service.traits) = .ok [])
    (hprotocol : service.chooseAmong settings.protocol [] = .ok protocol) :
    choose model settings = .ok (service, protocol) := by
  have hoffered : service.protocols model = .ok [] := by
    rw [Shape.protocols, htraits]
    simp
  have hchosen : service.chooseProtocol model settings.protocol = .ok protocol := by
    rw [Shape.chooseProtocol, hoffered]
    exact hprotocol
  have hkind : (service.type != ShapeType.service) = false := by simp [htype]
  refine bind_eq_ok.2 ⟨service, hservice, ?_⟩
  rw [hkind]
  exact bind_eq_ok.2 ⟨protocol, hchosen, rfl⟩

/-- A service without traits offers no protocol. -/
theorem choose_of_traits_eq_nil {model : Model} {settings : Settings} {service : Shape}
    {protocol : Option String} (hservice : model.expectWritten settings.service.text = .ok service)
    (htype : service.type = .service) (htraits : service.traits = [])
    (hprotocol : service.chooseAmong settings.protocol [] = .ok protocol) :
    choose model settings = .ok (service, protocol) :=
  choose_of_protocolsAmong_eq_nil hservice htype (by rw [htraits]; rfl) hprotocol

section

variable {model : Model} {settings : Settings} {integrations : IntegrationRegistry}
  {generators : GeneratorRegistry} {context : Context} {protocol : Option String}

/-- Shapes that can be reserved and written are so by the stages of a run. -/
theorem exists_stages_of_writes {closure : List Shape}
    (hclosure : context.model.closure context.service.id = .ok closure)
    (hwrites : context.writes protocol (closure.filter fun shape => !shape.isBuiltin) generators
      = true) :
    ∃ emission, start context = .ok (closure.filter fun shape => !shape.isBuiltin, emission) ∧
      (Emission.of context generators protocol (closure.filter fun shape => !shape.isBuiltin)
        emission).failure = none := by
  unfold Context.writes at hwrites
  split at hwrites
  · rename_i table indentText htable hindent
    have hshapes : shapes context = .ok (closure.filter fun shape => !shape.isBuiltin) := by
      rw [shapes, hclosure]
      rfl
    refine ⟨_, ?_, Option.isNone_iff_eq_none.1 hwrites⟩
    rw [start, hindent]
    exact bind_eq_ok.2 ⟨_, hshapes, bind_eq_ok.2 ⟨table, htable, rfl⟩⟩
  · simp at hwrites

/-- Once every other stage has succeeded, the result of a run is that of its last stage. -/
theorem result_of_stages {shapes : List Shape} {emission : Emission}
    (hchosen : choose model settings = .ok (context.service, protocol))
    (hcontext : context = {
      model, settings, service := context.service, integrations := integrations.integrations,
      transport := some .http })
    (hstart : start context = .ok (shapes, emission))
    (hok : (Emission.of context generators protocol shapes emission).failure = none) :
    (Run.of model settings integrations generators).result
      = finish settings (Emission.of context generators protocol shapes emission).units := by
  rw [hcontext] at hstart hok ⊢
  simp only [Run.of, hchosen, IntegrationRegistry.close, hstart]
  rw [hok]

end

variable {model : Model} {settings : Settings}

/-- **A run that has written its units succeeds**, and its outline is that of its stages. -/
theorem exists_manifest (integrations : IntegrationRegistry) {service : Shape}
    {protocol : Option String} {closure : List Shape} {context : Context}
    (hchosen : choose model settings = .ok (service, protocol))
    (hcontext : context = {
      model, settings, service, integrations := integrations.integrations,
      transport := some .http })
    (hclosure : model.closure service.id = .ok closure)
    (hwrites : context.writes protocol (closure.filter fun shape => !shape.isBuiltin) = true) :
    ∃ outline manifest, (Run.of model settings integrations).result = .ok manifest ∧
      Outline.of model settings integrations = .ok outline ∧ outline.Written manifest ∧
      outline.context = context ∧ outline.protocol = protocol ∧
      outline.shapes = closure.filter fun shape => !shape.isBuiltin := by
  have hservice : context.service = service := by rw [hcontext]
  have hmodel : context.model = model := by rw [hcontext]
  rw [← hservice] at hchosen hcontext hclosure
  obtain ⟨emission, hstart, hok⟩ := exists_stages_of_writes (hmodel ▸ hclosure) hwrites
  obtain ⟨outline, houtline, -, hparts, hholds⟩ :=
    outline_of_stages hchosen hcontext hstart hok
  have hfinish := finish_eq settings hholds.nodup fun hmem =>
    Outline.moduleUnit_not_mem_paths houtline ((hholds.mem_keys moduleUnit).1 hmem)
  have hresult := (result_of_stages hchosen hcontext hstart hok).trans hfinish
  obtain ⟨other, hother, -, hwritten⟩ := exists_outline hresult
  obtain rfl := Except.ok.inj (hother.symm.trans houtline)
  exact ⟨other, _, hresult, houtline, hwritten, hparts⟩

/-- A run that cannot reserve or write fails. -/
theorem exists_failure (integrations : IntegrationRegistry) {service : Shape}
    {protocol : Option String} {closure : List Shape} {context : Context}
    (hchosen : choose model settings = .ok (service, protocol))
    (hcontext : context = {
      model, settings, service, integrations := integrations.integrations,
      transport := some .http })
    (hclosure : model.closure service.id = .ok closure)
    (hwrites : context.writes protocol (closure.filter fun shape => !shape.isBuiltin) = false) :
    ∃ failure, (Run.of model settings integrations).result = .error failure := by
  have hshapes : shapes context = .ok (closure.filter fun shape => !shape.isBuiltin) := by
    rw [shapes, hcontext, hclosure]
    rfl
  cases hstart : start context with
  | error failure =>
    exact ⟨failure, by simp only [Run.of, hchosen, IntegrationRegistry.close, ← hcontext, hstart]⟩
  | ok started =>
    obtain ⟨found, hfound, hrest⟩ := bind_eq_ok.1 hstart
    obtain ⟨table, htable, hrest⟩ := bind_eq_ok.1 hrest
    obtain ⟨text, hindent, hstarted⟩ := bind_eq_ok.1 hrest
    obtain rfl := Except.ok.inj (hfound.symm.trans hshapes)
    have hfailed : (Emission.of context .standard protocol started.1 started.2).failure.isSome := by
      rw [← pure_eq_ok.1 hstarted]
      simpa [Context.writes, htable, hindent] using hwrites
    obtain ⟨failure, hfailure⟩ := Option.isSome_iff_exists.1 hfailed
    exact ⟨failure, by
      simp only [Run.of, hchosen, IntegrationRegistry.close, ← hcontext, hstart, hfailure]⟩

end Run

end ClientGen
