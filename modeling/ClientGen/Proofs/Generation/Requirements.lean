import ClientGen.Proofs.Generation.Inventory
import ClientGen.Proofs.Writer.Rendering

/-!
# The modules that a run requires

The manifest of the module lists the modules that the units need.  It is made from the imports of
the units, and those hold one dependency for a path and a name: the first that the unit used.  So a
module is required exactly if some unit used it first under a path and a name, and a later use of
the same path and name that carries a module or another version does not count.

## Main definitions

* `Dependency.requirement?` — the module and the version of a dependency that has both.
* `Outline.Introduces` — a unit uses a dependency before any other of its path and name.
* `Outline.Needs` — modules are those that the units introduce, once and in ascending order.

## Main results

* `Run.requirements_spec` — what is required for the imports of some units.
* `Run.requires_introduced` — the manifest of a run requires the modules that its units introduce.
-/

namespace ClientGen

/-- The module and the version of a dependency that has both. -/
def Dependency.requirement? (dependency : Dependency) : Option (String × String) :=
  match dependency.provider, dependency.version with
  | some provider, some version =>
    if provider.isEmpty || version.isEmpty then none else some (provider, version)
  | _, _ => none

theorem Dependency.eq_of_requirement? {dependency : Dependency} {module : String × String}
    (h : dependency.requirement? = some module) :
    dependency.provider = some module.1 ∧ dependency.version = some module.2 := by
  unfold requirement? at h
  split at h
  · rename_i provider version hprovider hversion
    split at h
    · simp at h
    · obtain rfl := Option.some.inj h
      exact ⟨hprovider, hversion⟩
  · simp at h

namespace Run

/-! ## Requirements of units -/

/-- What imports need, by module. -/
def needed (units : List Writer) : List (String × Dependency) :=
  (units.flatMap fun writer => writer.imports.list).filterMap fun dependency =>
    dependency.requirement?.map fun entry => (entry.1, dependency)

theorem mem_needed {units : List Writer} {name : String} {dependency : Dependency} :
    (name, dependency) ∈ needed units ↔
      (∃ writer ∈ units, dependency ∈ writer.imports.used) ∧
        ∃ version, dependency.requirement? = some (name, version) := by
  simp only [needed, List.mem_filterMap, List.mem_flatMap, Imports.mem_list]
  constructor
  · rintro ⟨found, hused, hfound⟩
    obtain ⟨⟨_, version⟩, hrequirement, heq⟩ := Option.map_eq_some_iff.1 hfound
    obtain ⟨rfl, rfl⟩ := Prod.mk.inj heq
    exact ⟨hused, version, hrequirement⟩
  · rintro ⟨hused, version, hrequirement⟩
    exact ⟨dependency, hused, by rw [hrequirement]; rfl⟩

/-- What is required, by module: what is needed first. -/
def required (units : List Writer) : List (String × Dependency) :=
  ((needed units).foldl (fun found entry => Entries.putNew entry.1 entry.2 found) []).mergeSort
    fun a b => decide (a.1 ≤ b.1)

theorem requirements_eq_map (units : List Writer) :
    requirements units = (required units).map Prod.snd := by
  have hneeded : (units.flatMap fun writer => writer.imports.list).filterMap (fun dependency =>
      match dependency.provider, dependency.version with
      | some provider, some version =>
        if provider.isEmpty || version.isEmpty then none else some (provider, dependency)
      | _, _ => none) = needed units := by
    refine List.filterMap_congr fun dependency _ => ?_
    unfold Dependency.requirement?
    cases dependency.provider with
    | none => rfl
    | some provider =>
      cases dependency.version with
      | none => rfl
      | some version =>
        dsimp only
        split <;> rfl
  exact congrArg (fun entries : List (String × Dependency) =>
    ((entries.foldl (fun found entry => Entries.putNew entry.1 entry.2 found) []).mergeSort
      fun a b => decide (a.1 ≤ b.1)).map Prod.snd) hneeded

theorem nodup_required (units : List Writer) : (Entries.keys
    ((needed units).foldl (fun found entry => Entries.putNew entry.1 entry.2 found) [])).Nodup :=
  Entries.nodup_keys_foldl_putNew _ (by simp [Entries.keys])

theorem mem_required {units : List Writer} {entry : String × Dependency} :
    entry ∈ required units ↔ (needed units).lookup entry.1 = some entry.2 := by
  rw [required, (List.mergeSort_perm _ _).mem_iff,
    ← Entries.lookup_eq_some_iff_mem (nodup_required units), Entries.lookup_foldl_putNew,
    List.nil_append]

theorem mem_needed_of_mem_required {units : List Writer} {entry : String × Dependency}
    (h : entry ∈ required units) : entry ∈ needed units := by
  obtain ⟨before, after, hsplit, -⟩ := List.lookup_eq_some_iff.1 (mem_required.1 h)
  rw [hsplit]
  exact List.mem_append_right _ List.mem_cons_self

theorem mem_keys_required {units : List Writer} {name : String} :
    name ∈ Entries.keys (required units) ↔ name ∈ Entries.keys (needed units) := by
  constructor
  · intro h
    obtain ⟨entry, hentry, rfl⟩ := List.mem_map.1 h
    exact List.mem_map.2 ⟨entry, mem_needed_of_mem_required hentry, rfl⟩
  · intro h
    obtain ⟨entry, hentry, rfl⟩ := List.mem_map.1 h
    cases hlookup : (needed units).lookup entry.1 with
    | none => simpa using List.lookup_eq_none_iff.1 hlookup entry hentry
    | some dependency =>
      exact List.mem_map.2 ⟨(entry.1, dependency), mem_required.2 hlookup, rfl⟩

theorem exists_mem_used_of_mem_requirements {units : List Writer} {dependency : Dependency}
    (h : dependency ∈ requirements units) :
    ∃ writer ∈ units, dependency ∈ writer.imports.used := by
  rw [requirements_eq_map] at h
  obtain ⟨entry, hentry, rfl⟩ := List.mem_map.1 h
  exact (mem_needed.1 (mem_needed_of_mem_required hentry)).1

/-- **What is required for the imports of some units**: every module that an import names together
with a version, once and in ascending order, with the version of such an import. -/
theorem requirements_spec (units : List Writer) :
    ∃ modules : List (String × String),
      (requirements units).map Layout.requirement
        = modules.map (fun module => module.1 ++ " " ++ module.2) ∧
      (Entries.keys modules).Pairwise (· < ·) ∧
      (∀ name, name ∈ Entries.keys modules ↔ ∃ writer ∈ units, ∃ dependency ∈ writer.imports.used,
        ∃ version, dependency.requirement? = some (name, version)) ∧
      ∀ module ∈ modules, ∃ writer ∈ units, ∃ dependency ∈ writer.imports.used,
        dependency.requirement? = some module := by
  have hentry : ∀ entry ∈ required units, (∃ writer ∈ units, entry.2 ∈ writer.imports.used) ∧
      ∃ version, entry.2.requirement? = some (entry.1, version) :=
    fun entry h => mem_needed.1 (mem_needed_of_mem_required h)
  have hkeys : Entries.keys ((required units).map fun entry =>
      (entry.1, entry.2.version.getD "")) = Entries.keys (required units) := by
    rw [Entries.keys, List.map_map]
    rfl
  refine ⟨(required units).map fun entry => (entry.1, entry.2.version.getD ""), ?_, ?_, ?_, ?_⟩
  · rw [requirements_eq_map, List.map_map, List.map_map]
    refine List.map_congr_left fun entry hmem => ?_
    obtain ⟨-, version, hversion⟩ := hentry entry hmem
    have hparts := Dependency.eq_of_requirement? hversion
    simp [Layout.requirement, hparts]
  · rw [hkeys]
    exact Entries.pairwise_lt_mergeSort (nodup_required units)
  · intro name
    rw [hkeys, mem_keys_required]
    constructor
    · intro h
      obtain ⟨⟨_, dependency⟩, hmem, rfl⟩ := List.mem_map.1 h
      obtain ⟨⟨writer, hwriter, hused⟩, hversion⟩ := mem_needed.1 hmem
      exact ⟨writer, hwriter, dependency, hused, hversion⟩
    · rintro ⟨writer, hwriter, dependency, hused, hversion⟩
      exact List.mem_map.2 ⟨(name, dependency),
        mem_needed.2 ⟨⟨writer, hwriter, hused⟩, hversion⟩, rfl⟩
  · intro module hmodule
    obtain ⟨entry, hmem, rfl⟩ := List.mem_map.1 hmodule
    obtain ⟨⟨writer, hwriter, hused⟩, version, hversion⟩ := hentry entry hmem
    refine ⟨writer, hwriter, entry.2, hused, ?_⟩
    rw [hversion, (Dependency.eq_of_requirement? hversion).2]
    rfl

/-! ## Units of a run -/

variable {model : Model} {settings : Settings} {integrations : IntegrationRegistry}
  {generators : GeneratorRegistry} {manifest : Manifest}

/-- A successful run has laid out the units of its outline, with what they require. -/
theorem exists_units (h : (Run.of model settings integrations generators).result = .ok manifest) :
    ∃ outline units, Outline.of model settings integrations generators = .ok outline ∧
      outline.Written manifest ∧
      manifest.get? moduleUnit = some (Layout.moduleManifest settings.modulePath
        settings.goVersion.text (requirements units)) ∧
      ∀ writer, writer ∈ units ↔ ∃ path ∈ outline.paths, outline.unit path = writer := by
  obtain ⟨context, protocol, shapes, emission, hchosen, hcontext, hstart, hok, hfinish⟩ :=
    stages_of_result h
  obtain ⟨outline, houtline, -, -, hholds⟩ := outline_of_stages hchosen hcontext hstart hok
  obtain ⟨other, hother, -, hwritten⟩ := exists_outline h
  obtain rfl := Except.ok.inj (hother.symm.trans houtline)
  refine ⟨other, _, houtline, hwritten, (finish_spec hfinish hholds.nodup).2.1, fun writer => ?_⟩
  have hunit : ∀ path, (path, writer) ∈
      (Emission.of context generators protocol shapes emission).units.writers ↔
        path ∈ other.paths ∧ other.unit path = writer := by
    intro path
    rw [← Entries.lookup_eq_some_iff_mem hholds.nodup, hholds.lookup path,
      Option.ite_none_right_eq_some, Option.some.injEq]
    rfl
  simp only [List.mem_map, Units.sorted, (List.mergeSort_perm _ _).mem_iff, Prod.exists,
    exists_eq_right, hunit]

end Run

/-! ## Requirements of a run -/

namespace Outline

/-- The unit of a path uses a dependency that is not its own package, and none of the same path and
name before it. -/
def Introduces (outline : Outline) (path : String) (dependency : Dependency) : Prop :=
  Imports.IsForeign (some (outline.packagePath path)) dependency.path ∧
    (Step.usesAll (outline.stepsAt path)).find? (·.key == dependency.key) = some dependency

theorem Written.mem_used_iff {outline : Outline} {manifest : Manifest}
    (h : outline.Written manifest) {path : String} {dependency : Dependency} :
    dependency ∈ (outline.unit path).imports.used ↔ outline.Introduces path dependency := by
  rw [h.imports_unit, Imports.mem_used_trackAll, Imports.isOwn_eq_false_iff, ownPath_blank]
  simp [used_blank, Imports.keys, Introduces]

/-- The modules, with versions, are those that the units introduce, each once and in ascending order
of names, with a version that a unit introduces. -/
structure Needs (outline : Outline) (modules : List (String × String)) : Prop where
  ascending : (Entries.keys modules).Pairwise (· < ·)
  mem_iff : ∀ name, name ∈ Entries.keys modules ↔ ∃ path ∈ outline.paths,
    ∃ dependency version, outline.Introduces path dependency ∧
      dependency.requirement? = some (name, version)
  introduced : ∀ module ∈ modules, ∃ path ∈ outline.paths, ∃ dependency,
    outline.Introduces path dependency ∧ dependency.requirement? = some module

end Outline

namespace Run

variable {model : Model} {settings : Settings} {integrations : IntegrationRegistry}
  {generators : GeneratorRegistry} {manifest : Manifest}

/-- **The manifest of the module requires what the units introduce.**  In a successful run, with any
generators and integrations, a module is required exactly if some unit uses a dependency with this
module and a version before any other one of its path and name; it is required once, modules stand
in ascending order, and each has the version of such a dependency. -/
theorem requires_introduced
    (h : (Run.of model settings integrations generators).result = .ok manifest) :
    ∃ outline requires modules,
      Outline.of model settings integrations generators = .ok outline ∧
      outline.Written manifest ∧
      manifest.get? moduleUnit = some (Layout.moduleManifest settings.modulePath
        settings.goVersion.text requires) ∧
      requires.map Layout.requirement
        = modules.map (fun module => module.1 ++ " " ++ module.2) ∧
      outline.Needs modules := by
  obtain ⟨outline, units, houtline, hwritten, hmodule, hunits⟩ := exists_units h
  obtain ⟨modules, hlines, hascending, hmem, hversions⟩ := requirements_spec units
  refine ⟨outline, _, modules, houtline, hwritten, hmodule, hlines, hascending, ?_, ?_⟩
  · intro name
    rw [hmem]
    constructor
    · rintro ⟨writer, hwriter, dependency, hused, version, hversion⟩
      obtain ⟨path, hpath, rfl⟩ := (hunits writer).1 hwriter
      exact ⟨path, hpath, dependency, version, hwritten.mem_used_iff.1 hused, hversion⟩
    · rintro ⟨path, hpath, dependency, version, hintroduced, hversion⟩
      exact ⟨outline.unit path, (hunits _).2 ⟨path, hpath, rfl⟩, dependency,
        hwritten.mem_used_iff.2 hintroduced, version, hversion⟩
  · intro module hmodule
    obtain ⟨writer, hwriter, dependency, hused, hversion⟩ := hversions module hmodule
    obtain ⟨path, hpath, rfl⟩ := (hunits writer).1 hwriter
    exact ⟨path, hpath, dependency, hwritten.mem_used_iff.1 hused, hversion⟩

end Run

/-! ## Two dependencies of one path -/

namespace Sample

/-- A package of somebody else, with its module and version. -/
def library : Dependency :=
  .of "example.com/x" "" .foreign (some "example.com/x") (some "v1.0.0")

/-- The same package, of which neither module nor version is said. -/
def bareLibrary : Dependency := .of "example.com/x"

/-- An integration with a field from the package without its module, and then one with it. -/
def shadowing : Integration where
  name := "shadowing"
  fields := [{ name := "A", type := .value "T" bareLibrary },
    { name := "B", type := .value "T" library }]

theorem exists_shadowing_manifest : ∃ outline manifest,
    (Run.of model settings { integrations := [shadowing] }).result = .ok manifest ∧
      Outline.of model settings { integrations := [shadowing] } = .ok outline ∧
      outline.Written manifest ∧
      outline.context = { context with integrations := [shadowing] } ∧ outline.protocol = none ∧
      outline.shapes = [input, operation, service] :=
  exists_manifest_of_writes { integrations := [shadowing] } (by decide +kernel)

end Sample

namespace Run

theorem requires_introduced_shadowing : ∃ manifest,
    (Run.of Sample.model Sample.settings { integrations := [Sample.shadowing] }).result
        = .ok manifest ∧
      ∃ outline requires modules,
        Outline.of Sample.model Sample.settings { integrations := [Sample.shadowing] }
          = .ok outline ∧
        outline.Written manifest ∧
        manifest.get? moduleUnit = some (Layout.moduleManifest Sample.settings.modulePath
          Sample.settings.goVersion.text requires) ∧
        requires.map Layout.requirement
          = modules.map (fun module => module.1 ++ " " ++ module.2) ∧
        outline.Needs modules := by
  obtain ⟨_, manifest, h, -⟩ := Sample.exists_shadowing_manifest
  exact ⟨manifest, h, requires_introduced h⟩

/-- The unit of the client uses a package with its module and version, but the manifest does not
require the module, as the unit used the package without them before. -/
theorem requires_not_used : ∃ outline manifest requires,
    (Run.of Sample.model Sample.settings { integrations := [Sample.shadowing] }).result
        = .ok manifest ∧
      Outline.of Sample.model Sample.settings { integrations := [Sample.shadowing] }
        = .ok outline ∧
      outline.Written manifest ∧
      Sample.library ∈ Step.usesAll (outline.stepsAt clientUnit) ∧
      Imports.IsForeign (some (outline.packagePath clientUnit)) Sample.library.path ∧
      Sample.library.requirement? = some ("example.com/x", "v1.0.0") ∧
      manifest.get? moduleUnit = some (Layout.moduleManifest Sample.settings.modulePath
        Sample.settings.goVersion.text requires) ∧
      ∀ dependency ∈ requires, dependency.provider ≠ some "example.com/x" := by
  obtain ⟨outline, manifest, h, houtline, hwritten, hcontext, hprotocol, hshapes⟩ :=
    Sample.exists_shadowing_manifest
  obtain ⟨other, units, hother, -, hmodule, hunits⟩ := exists_units h
  obtain rfl := Except.ok.inj (hother.symm.trans houtline)
  have hpassages := Outline.all_eq_ok_of_of houtline
  rw [hcontext, hprotocol, hshapes] at hpassages
  have hnoted := congrArg (Except.map fun passages =>
    decide (Sample.library ∈ Step.usesAll (Passage.stepsAt passages clientUnit))) hpassages
  have hnone := congrArg (Except.map fun passages => decide (∀ path ∈ passages.map Passage.path,
    ∀ dependency ∈ Step.usesAll (Passage.stepsAt passages path),
      dependency.provider = some "example.com/x" →
        (Step.usesAll (Passage.stepsAt passages path)).find? (·.key == dependency.key)
          ≠ some dependency)) hpassages
  replace hnone := of_decide_eq_true (Except.ok.inj hnone).symm
  refine ⟨other, manifest, _, h, houtline, hwritten,
    of_decide_eq_true (Except.ok.inj hnoted).symm, ?_, rfl, hmodule, ?_⟩
  · rw [Outline.packagePath, hcontext]
    exact .inr (by decide +kernel)
  · intro dependency hdependency hprovider
    obtain ⟨writer, hwriter, hused⟩ := exists_mem_used_of_mem_requirements hdependency
    obtain ⟨path, hpath, rfl⟩ := (hunits writer).1 hwriter
    obtain ⟨-, hfirst⟩ := hwritten.mem_used_iff.1 hused
    exact hnone path hpath dependency (List.mem_of_find?_eq_some hfirst) hprovider hfirst

end Run

end ClientGen
