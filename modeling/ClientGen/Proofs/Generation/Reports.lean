import ClientGen.Generation.Report
import ClientGen.Proofs.Generation.Completion
import ClientGen.Proofs.Generation.Failing
import ClientGen.Proofs.Model.Comparison
import ClientGen.Proofs.Symbol.Failing

/-!
# Failures that are reported

A run reports its failures as errors of the generator or of a template.  Models and settings are
data from outside, though, and some of it is used as it comes: ids are sorted that cannot be
compared, elements of lists are followed without end, values of enums and faults of errors are taken
to have the forms they should have, and the bodies of handlers are run whatever they do.  If a run
of typed settings fails without a report, then for one of these reasons.

## Main definitions

* `Failure.isGenerationError` — errors of the generator or of a template.
* `Context.Unchecked` — what a run uses without a check and what is not as it should be.
* `Settings.IsTyped` — every setting is of its type.

## Main results

* `Run.reported_or_unchecked` — a failed run has a generation error, or something unchecked is
  wrong.
-/

namespace ClientGen

namespace Context

variable (context : Context)

/-- The service reaches the shape. -/
def Reaches (shape : Shape) : Prop :=
  ∃ id, context.model.Reaches context.service.id id ∧ context.model.shape? id = some shape

end Context

namespace Run

variable {context : Context} {shapes : List Shape} {shape : Shape} {failure : Failure}

end Run

/-! ## Settings -/

namespace Settings.IsTyped

variable {settings : Settings}

end Settings.IsTyped

namespace Run

variable {model : Model} {settings : Settings} {failure : Failure}

/-- A text is no id, or no shape has the id: either is a fault of the model. -/
theorem exists_fault_of_expectWritten {written : String}
    (h : model.expectWritten written = .error failure) : ∃ fault, failure = .model fault := by
  rcases bind_eq_error.1 h with h | ⟨found, -, h⟩
  · rcases bind_eq_error.1 h with h | ⟨id, -, h⟩
    · obtain ⟨fault, -, rfl⟩ := mapError_eq_error.1 h
      exact ⟨_, rfl⟩
    · exact absurd h pure_ne_error
  · split at h
    · simp at h
    · exact ⟨_, (Except.error.inj h).symm⟩

/-- The protocols of a service fail to be found only because of a bad id. -/
theorem exists_fault_of_protocolsAmong {traits : List String}
    (h : Shape.protocolsAmong model traits = .error failure) : ∃ fault, failure = .model fault := by
  induction traits with
  | nil => simp [Shape.protocolsAmong] at h
  | cons trait rest ih =>
    rcases bind_eq_error.1 h with h | ⟨isProtocol, -, h⟩
    · unfold Shape.isProtocol at h
      split at h
      · exact absurd h pure_ne_error
      · rcases bind_eq_error.1 h with h | ⟨found, -, h⟩
        · rcases bind_eq_error.1 h with h | ⟨id, -, h⟩
          · obtain ⟨fault, -, rfl⟩ := mapError_eq_error.1 h
            exact ⟨_, rfl⟩
          · exact absurd h pure_ne_error
        · split at h <;> exact absurd h pure_ne_error
    · rcases bind_eq_error.1 h with h | ⟨others, -, h⟩
      · exact ih h
      · exact absurd h pure_ne_error

/-- A protocol is refused as a fault of the model, unless it cannot be looked up at all. -/
theorem overHttp_eq_error {service : Shape} {protocol : Json}
    (h : service.overHttp protocol = .error failure) :
    (∃ fault, failure = .model fault) ∨ (failure = .malformed .kind ∧ protocol.isKey = false) := by
  unfold Shape.overHttp at h
  split at h
  · split at h
    · simp at h
    · exact .inl ⟨_, (Except.error.inj h).symm⟩
  · split at h
    · exact .inl ⟨_, (Except.error.inj h).symm⟩
    · rename_i hkey
      exact .inr ⟨(Except.error.inj h).symm, by simpa using hkey⟩

theorem chooseAmong_eq_error {service : Shape} {wanted : Json} {offered : List String}
    (h : service.chooseAmong wanted offered = .error failure) :
    (∃ fault, failure = .model fault) ∨ (failure = .malformed .kind ∧ wanted.isKey = false) := by
  have hover : ∀ protocol, (service.overHttp protocol).map some = .error failure →
      service.overHttp protocol = .error failure := by
    intro protocol h
    cases hfound : service.overHttp protocol with
    | error other =>
      rw [hfound] at h
      exact congrArg Except.error (Except.error.inj h)
    | ok name => simp [hfound, Except.map] at h
  unfold Shape.chooseAmong at h
  split at h
  · split at h
    · exact .inl ⟨_, (Except.error.inj h).symm⟩
    · exact overHttp_eq_error (hover _ h)
  · split at h
    · simp at h
    · exact (overHttp_eq_error (hover _ h)).imp_right fun hbad =>
        absurd hbad.2 (by simp [Json.isKey])

/-- **Why nothing is chosen**: a fault of the model, or a wanted protocol of the wrong kind. -/
theorem choose_eq_error (h : choose model settings = .error failure) :
    (∃ fault, failure = .model fault) ∨
      (failure = .malformed .kind ∧ settings.protocol.isKey = false) := by
  rcases bind_eq_error.1 h with h | ⟨service, -, h⟩
  · exact .inl (exists_fault_of_expectWritten h)
  · split at h
    · exact .inl ⟨_, (Except.error.inj h).symm⟩
    · rcases bind_eq_error.1 h with h | ⟨protocol, -, h⟩
      · rcases bind_eq_error.1 h with h | ⟨offered, -, h⟩
        · rcases bind_eq_error.1 h with h | ⟨found, -, h⟩
          · exact .inl (exists_fault_of_protocolsAmong h)
          · exact absurd h pure_ne_error
        · exact chooseAmong_eq_error h
      · exact absurd h pure_ne_error

end Run

/-! ## Reports -/

/-- The integrations of a run: those that are given, or else those that the settings name. -/
def Library.registryFor (library : Library) (settings : Settings)
    (integrations : Option (List Integration)) : Except Failure IntegrationRegistry :=
  match integrations with
  | some integrations => (IntegrationRegistry.ofList integrations).mapError .registry
  | none => library.loadSetting settings.integrations

namespace Report

theorem eq_of_ofFailure {failure : Failure} {report : Report}
    (h : ofFailure failure = .ok report) : report = { failure := some failure } := by
  unfold ofFailure at h
  split at h
  · exact (Except.ok.inj h).symm
  · simp at h

end Report

section

variable {library : Library} {model : Model} {settings : Settings}
  {integrations : Option (List Integration)}

/-- A run that ends gives the report of its files. -/
theorem generateClient_of_ok {registry : IntegrationRegistry} {manifest : Manifest}
    (hregistry : library.registryFor settings integrations = .ok registry)
    (h : (Run.of model settings registry).result = .ok manifest) :
    generateClient library model settings integrations = Report.ofManifest settings manifest := by
  cases integrations <;> simp only [Library.registryFor] at hregistry <;>
    simp only [generateClient, hregistry, Except.bind, h]

/-- A run that fails gives the report of its failure. -/
theorem generateClient_of_error {registry : IntegrationRegistry} {failure : Failure}
    (hregistry : library.registryFor settings integrations = .ok registry)
    (h : (Run.of model settings registry).result = .error failure) :
    generateClient library model settings integrations = Report.ofFailure failure := by
  cases integrations <;> simp only [Library.registryFor] at hregistry <;>
    simp only [generateClient, hregistry, Except.bind, h]

/-- Integrations that cannot be registered are a failure, too. -/
theorem generateClient_of_registryFor {failure : Failure}
    (hregistry : library.registryFor settings integrations = .error failure) :
    generateClient library model settings integrations = Report.ofFailure failure := by
  cases integrations <;> simp only [Library.registryFor] at hregistry <;>
    simp only [generateClient, hregistry, Except.bind]

/-- A report has the files of a run, or a failure and nothing else. -/
theorem generateClient_cases {report : Report}
    (h : generateClient library model settings integrations = .ok report) :
    (report.failure = none ∧
      ∃ registry, (Run.of model settings registry).result = .ok report.manifest) ∨
    ∃ failure : Failure, report = { failure := some failure } := by
  cases hregistry : library.registryFor settings integrations with
  | error failure =>
    rw [generateClient_of_registryFor hregistry] at h
    exact .inr ⟨failure, Report.eq_of_ofFailure h⟩
  | ok registry =>
    cases hresult : (Run.of model settings registry).result with
    | ok manifest =>
      rw [generateClient_of_ok hregistry hresult] at h
      obtain ⟨warnings, -, hreport⟩ := bind_eq_ok.1 h
      rw [← pure_eq_ok.1 hreport]
      exact .inl ⟨rfl, registry, hresult⟩
    | error failure =>
      rw [generateClient_of_error hregistry hresult] at h
      exact .inr ⟨failure, Report.eq_of_ofFailure h⟩

/-- A report that is a success has the files of a run. -/
theorem exists_run_of_generateClient {report : Report}
    (h : generateClient library model settings integrations = .ok report)
    (hsuccess : report.failure = none) :
    ∃ registry, (Run.of model settings registry).result = .ok report.manifest := by
  rcases generateClient_cases h with ⟨-, hrun⟩ | ⟨failure, rfl⟩
  · exact hrun
  · simp at hsuccess

namespace Run

end Run

end

/-! ## A list of itself -/

namespace Cycle

/-- A list whose elements are lists of the same kind. -/
def list : Shape :=
  let id : ShapeId := { ns := "a", name := "Chain" }
  { id
    type := .list
    members := [{ name := "member", container := id, target := id }] }

/-- The input of an operation, with a field for the list. -/
def input : Shape :=
  let id : ShapeId := { ns := "a", name := "In" }
  { id
    type := .struct
    members := [{ name := "x", container := id, target := list.id }] }

def operation : Shape where
  id := { ns := "a", name := "Op" }
  type := .operation
  input := input.id

def service : Shape where
  id := { ns := "a", name := "Svc" }
  type := .service
  operations := [operation.id]

def model : Model :=
  .ofShapes [service, operation, input, list]

/-- The document that the model is read from. -/
def document : Json :=
  .obj [("shapes", .obj [
    ("a#Svc", .obj [("type", .str "service"),
      ("operations", .arr [.obj [("target", .str "a#Op")]])]),
    ("a#Op", .obj [("type", .str "operation"), ("input", .obj [("target", .str "a#In")])]),
    ("a#In", .obj [("type", .str "structure"),
      ("members", .obj [("x", .obj [("target", .str "a#Chain")])])]),
    ("a#Chain", .obj [("type", .str "list"), ("member", .obj [("target", .str "a#Chain")])])])]

def settings : Settings where
  moduleName := .str "m"
  service := .str "a#Svc"
  packageName := .str "m"

theorem ofDocument_document : Model.ofDocument document = .ok model :=
  rfl

end Cycle

namespace Run

end Run

end ClientGen
