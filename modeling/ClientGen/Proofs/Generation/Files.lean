import ClientGen.Proofs.Generation.Outline
import ClientGen.Proofs.Generation.Reserve

/-!
# The files of a run are its outline, laid out

A run that succeeds has an outline, and its files are the units of the outline and the manifest of
the module: nothing is lost, added or written twice on the way from passages to files.

## Main definitions

* `Outline.Written` — the files of a manifest are the units of an outline.
* `Outline.Started` — the choices, shapes and claims that an outline rests on.
* `Run.Stages` — how far a run gets, and what it leaves behind.

## Main results

* `Run.exists_outline` — a successful run has an outline and has written it.
-/

namespace ClientGen

/-! ## Manifests -/

namespace Manifest

variable {manifest manifest' : Manifest}

theorem add_spec {path content : String} (h : manifest.add path content = .ok manifest') :
    path ∉ Entries.keys manifest.entries ∧
      manifest'.entries = manifest.entries ++ [(path, content)] := by
  unfold add at h
  split at h
  · simp at h
  · rename_i hnew
    obtain rfl := Except.ok.inj h
    refine ⟨fun hmem => hnew ?_, rfl⟩
    obtain ⟨entry, hentry, rfl⟩ := List.mem_map.1 hmem
    exact List.any_eq_true.2 ⟨entry, hentry, beq_self_eq_true _⟩

theorem nodup_keys_add {path content : String} (h : manifest.add path content = .ok manifest')
    (hnodup : (Entries.keys manifest.entries).Nodup) : (Entries.keys manifest'.entries).Nodup := by
  obtain ⟨hnew, hentries⟩ := add_spec h
  have hkeys : Entries.keys manifest'.entries = Entries.keys manifest.entries ++ [path] := by
    rw [hentries, Entries.keys, List.map_append]
    rfl
  rw [hkeys, ← List.concat_eq_append]
  exact List.Nodup.concat hnew hnodup

theorem ofFiles_spec {files : List (String × String)} (h : ofFiles files = .ok manifest) :
    manifest.entries = files ∧ (Entries.keys manifest.entries).Nodup := by
  have hfold : ∀ (files : List (String × String)) (start : Manifest),
      files.foldlM (fun manifest file => manifest.add file.1 file.2) start = .ok manifest →
      (Entries.keys start.entries).Nodup →
      manifest.entries = start.entries ++ files ∧ (Entries.keys manifest.entries).Nodup := by
    intro files
    induction files with
    | nil =>
      intro start hstart hnodup
      obtain rfl := pure_eq_ok.1 hstart
      exact ⟨(List.append_nil _).symm, hnodup⟩
    | cons file rest ih =>
      intro start hstart hnodup
      obtain ⟨next, hnext, hrest⟩ := bind_eq_ok.1 hstart
      obtain ⟨hentries, hlast⟩ := ih next hrest (nodup_keys_add hnext hnodup)
      refine ⟨?_, hlast⟩
      rw [hentries, (add_spec hnext).2, List.append_assoc]
      rfl
  exact hfold files {} h (by simp [Entries.keys])

end Manifest

/-! ## Files -/

/-- The files of the manifest are the units of the outline and the manifest of the module. -/
structure Outline.Written (outline : Outline) (manifest : Manifest) : Prop where
  /-- No step of the outline fails. -/
  runs : ∀ path, ((outline.blank path).run (outline.stepsAt path)).2 = none
  /-- Every unit is a file, and every file but one is a unit. -/
  get? : ∀ path, path ≠ moduleUnit → manifest.get? path
    = if path ∈ outline.paths then some (outline.unit path).toText else none
  /-- The other one is the manifest of the module. -/
  module : (manifest.get? moduleUnit).isSome = true
  /-- No file is there twice. -/
  nodup : (Entries.keys manifest.entries).Nodup

namespace Run

variable {settings : Settings} {units start : Units} {manifest : Manifest}

theorem finish_spec (h : finish settings units = .ok manifest)
    (hnodup : (Entries.keys units.writers).Nodup) :
    (∀ path, path ≠ moduleUnit →
      manifest.get? path = (units.writers.lookup path).map Writer.toText) ∧
    manifest.get? moduleUnit = some (Layout.moduleManifest settings.modulePath
      settings.goVersion.text (requirements (units.sorted.map Prod.snd))) ∧
    (Entries.keys manifest.entries).Nodup := by
  obtain ⟨files, hfiles, hadd⟩ := bind_eq_ok.1 h
  obtain ⟨hentries, hfilesNodup⟩ := Manifest.ofFiles_spec hfiles
  have hmanifest := Manifest.nodup_keys_add hadd hfilesNodup
  have hall := (Manifest.add_spec hadd).2
  refine ⟨fun path hpath => ?_, ?_, hmanifest⟩
  · -- Both sides read from distinct keys, so it is enough to compare what they hold.
    apply Option.ext
    intro text
    rw [Manifest.get?, Entries.lookup_eq_some_iff_mem hmanifest, hall, hentries,
      Option.map_eq_some_iff]
    simp only [List.mem_append, List.mem_map, List.mem_singleton, Prod.mk.injEq, hpath,
      false_and, or_false]
    constructor
    · rintro ⟨⟨other, writer⟩, hunit, rfl, rfl⟩
      refine ⟨writer, (Entries.lookup_eq_some_iff_mem hnodup).2 ?_, rfl⟩
      exact (List.mergeSort_perm _ _).mem_iff.1 hunit
    · rintro ⟨writer, hwriter, rfl⟩
      refine ⟨(path, writer), ?_, rfl, rfl⟩
      exact (List.mergeSort_perm _ _).mem_iff.2 ((Entries.lookup_eq_some_iff_mem hnodup).1 hwriter)
  · rw [Manifest.get?, Entries.lookup_eq_some_iff_mem hmanifest, hall]
    exact List.mem_append_right _ (List.mem_singleton.2 rfl)

variable {model : Model} {integrations : IntegrationRegistry} {generators : GeneratorRegistry}

theorem shape?_of_mem_shapes {context : Context} {shapes : List Shape}
    (h : Run.shapes context = .ok shapes) {shape : Shape} (hmem : shape ∈ shapes) :
    context.model.shape? shape.id = some shape := by
  obtain ⟨closure, hclosure, h⟩ := bind_eq_ok.1 h
  obtain rfl := pure_eq_ok.1 h
  exact Model.shape?_of_mem_closure hclosure (List.mem_filter.1 hmem).1

end Run

/-- What the run of an outline did before it wrote: it chose the service and the protocol, listed
the shapes and reserved their names. -/
structure Outline.Started (model : Model) (settings : Settings)
    (integrations : IntegrationRegistry) (outline : Outline) : Prop where
  chosen : Run.choose model settings = .ok (outline.context.service, outline.protocol)
  context : outline.context = {
    model, settings, service := outline.context.service,
    integrations := integrations.integrations, transport := some .http }
  shapes : Run.shapes outline.context = .ok outline.shapes
  reserved : ∃ table, ∀ shape ∈ outline.shapes, outline.context.Reserved table shape

namespace Run

variable {model : Model} {settings : Settings} {integrations : IntegrationRegistry}
  {generators : GeneratorRegistry} {manifest : Manifest}

/-- How far a run gets, and what it leaves behind: it stops before there is a service, before it
writes, or at any time after that. -/
inductive Stages (model : Model) (settings : Settings) (integrations : IntegrationRegistry)
    (generators : GeneratorRegistry) : Run → Prop where
  | choosing {failure : Failure} (chosen : choose model settings = .error failure) :
    Stages model settings integrations generators
      { integrations, units := noUnits settings, result := .error failure }
  | starting {context : Context} {protocol : Option String} {failure : Failure}
    (chosen : choose model settings = .ok (context.service, protocol))
    (eq : context = {
      model, settings, service := context.service, integrations := integrations.integrations,
      transport := some .http })
    (started : start context = .error failure) :
    Stages model settings integrations generators
      { integrations := integrations.close, units := noUnits settings, result := .error failure }
  | writing {context : Context} {protocol : Option String} {shapes : List Shape}
    {emission : Emission} {result : Except Failure Manifest}
    (chosen : choose model settings = .ok (context.service, protocol))
    (eq : context = {
      model, settings, service := context.service, integrations := integrations.integrations,
      transport := some .http })
    (started : start context = .ok (shapes, emission))
    (failed : ∀ failure,
      (Emission.of context generators protocol shapes emission).failure = some failure →
        result = .error failure)
    (finished : (Emission.of context generators protocol shapes emission).failure = none →
      result = finish settings (Emission.of context generators protocol shapes emission).units) :
    Stages model settings integrations generators
      { integrations := integrations.close
        units := (Emission.of context generators protocol shapes emission).units
        result }

/-- **What a run leaves behind** tells how far it got. -/
theorem stages (model : Model) (settings : Settings) (integrations : IntegrationRegistry)
    (generators : GeneratorRegistry) :
    Stages model settings integrations generators
      (Run.of model settings integrations generators) := by
  unfold Run.of
  cases hchosen : choose model settings with
  | error failure => exact .choosing hchosen
  | ok chosen =>
    obtain ⟨service, protocol⟩ := chosen
    dsimp only
    split
    · rename_i failure hstart
      exact .starting hchosen rfl hstart
    · rename_i shapes emission hstart
      refine .writing hchosen rfl hstart (fun failure hfailure => ?_) fun hnone => ?_
      · rw [hfailure]
      · rw [hnone]

/-- The stages of a successful run. -/
theorem stages_of_result
    (h : (Run.of model settings integrations generators).result = .ok manifest) :
    ∃ (context : Context) (protocol : Option String) (shapes : List Shape) (emission : Emission),
      choose model settings = .ok (context.service, protocol) ∧
      context = {
        model, settings, service := context.service, integrations := integrations.integrations,
        transport := some .http } ∧
      start context = .ok (shapes, emission) ∧
      (Emission.of context generators protocol shapes emission).failure = none ∧
      finish settings (Emission.of context generators protocol shapes emission).units
        = .ok manifest := by
  have hstages := stages model settings integrations generators
  generalize Run.of model settings integrations generators = run at h hstages
  cases hstages with
  | choosing => simp at h
  | starting => simp at h
  | @writing context protocol shapes emission _ chosen eq started failed finished =>
    have hnone : (Emission.of context generators protocol shapes emission).failure = none := by
      cases hfailure : (Emission.of context generators protocol shapes emission).failure with
      | none => rfl
      | some failure => exact absurd ((failed failure hfailure).symm.trans h) (by simp)
    exact ⟨context, protocol, shapes, emission, chosen, eq, started, hnone,
      (finished hnone).symm.trans h⟩

/-- What a run starts writing from. -/
theorem start_spec {context : Context} {shapes : List Shape} {emission : Emission}
    (h : start context = .ok (shapes, emission)) :
    Run.shapes context = .ok shapes ∧ reserve context shapes = .ok emission.table ∧
      emission.failure = none ∧ ∃ indentText, context.settings.indent = .ok indentText ∧
        emission.units = noUnits context.settings indentText := by
  simp only [start, bind_eq_ok, pure_eq_ok] at h
  obtain ⟨found, hshapes, table, htable, indentText, hindent, heq⟩ := h
  obtain ⟨rfl, rfl⟩ := Prod.mk.inj heq
  exact ⟨hshapes, htable, rfl, indentText, hindent, rfl⟩

/-- Stages that succeed follow an outline, and what they wrote are its units. -/
theorem outline_of_stages {context : Context} {protocol : Option String} {shapes : List Shape}
    {emission : Emission} (hchosen : choose model settings = .ok (context.service, protocol))
    (hcontext : context = {
      model, settings, service := context.service, integrations := integrations.integrations,
      transport := some .http })
    (hstart : start context = .ok (shapes, emission))
    (hok : (Emission.of context generators protocol shapes emission).failure = none) :
    ∃ outline, Outline.of model settings integrations generators = .ok outline ∧
      outline.Started model settings integrations ∧
      (outline.context = context ∧ outline.protocol = protocol ∧ outline.shapes = shapes) ∧
      (noUnits outline.context.settings outline.indentText).Holds outline.passages
        (Emission.of context generators protocol shapes emission).units := by
  obtain ⟨hshapes, htable, hfailure, indentText, hindent, hunits⟩ := start_spec hstart
  have hmem : ∀ shape ∈ shapes, context.model.shape? shape.id = some shape :=
    fun shape hshape => shape?_of_mem_shapes hshapes hshape
  obtain ⟨hknows, hreserved⟩ := reserve_spec hmem htable
  have hempty : emission.units.Holds [] emission.units :=
    Units.holds_start (by rw [hunits]; rfl)
  obtain ⟨passages, hpassages, hholds⟩ :=
    Emission.performs_of generators protocol hmem [] emission ⟨hfailure, hempty, hknows⟩ hok
  rw [List.nil_append, hunits] at hholds
  refine ⟨{ context, protocol, shapes, indentText, passages }, ?_,
    ⟨hchosen, hcontext, hshapes, emission.table, hreserved⟩, ⟨rfl, rfl, rfl⟩, hholds.units⟩
  rw [Outline.of, hchosen]
  have hsettings : context.settings = settings := by rw [hcontext]
  rw [hcontext] at hshapes hpassages
  rw [hsettings] at hindent
  exact bind_eq_ok.2 ⟨_, rfl, bind_eq_ok.2 ⟨shapes, hshapes, bind_eq_ok.2 ⟨indentText, hindent,
    bind_eq_ok.2 ⟨passages, hpassages, by rw [hcontext]; rfl⟩⟩⟩⟩

/-- **A successful run has an outline, and its files are the units of the outline.** -/
theorem exists_outline (h : (Run.of model settings integrations generators).result = .ok manifest) :
    ∃ outline, Outline.of model settings integrations generators = .ok outline ∧
      outline.Started model settings integrations ∧ outline.Written manifest := by
  obtain ⟨context, protocol, shapes, emission, hchosen, hcontext, hstart, hok, hfinish⟩ :=
    stages_of_result h
  obtain ⟨outline, houtline, hstarted, -, hholds⟩ :=
    outline_of_stages hchosen hcontext hstart hok
  obtain ⟨hfiles, hmodule, hnodup⟩ := finish_spec hfinish hholds.nodup
  refine ⟨outline, houtline, hstarted, hholds.runs, fun path hpath => ?_, by rw [hmodule]; rfl,
    hnodup⟩
  rw [hfiles path hpath, hholds.lookup path]
  exact apply_ite (Option.map Writer.toText) (path ∈ outline.passages.map Passage.path) _ _

end Run

end ClientGen
