import ClientGen.Generation.Run
import ClientGen.Integration.Import
import ClientGen.Settings.Validation

/-!
# Reports of runs

The outcome of a run for its user: the files with warnings and a summary, or the failure.  A
malformed value in the model or the settings that nothing checks is no failure of the run, and gives
no report.  Main definition: `generateClient`.
-/

namespace ClientGen

/-- The outcome of a run. -/
structure Report where
  manifest : Manifest := {}
  warnings : List String := []
  metadata : List (String × Json) := []
  failure : Option Failure := none

/-- Whether a failure is reported as the outcome of a run. -/
def Failure.isReported : Failure → Bool
  | model _ => true
  | collision _ => true
  | incomplete .. => true
  | unitRepeated _ => true
  | undeclared _ => true
  | template .. => true
  | registry _ => true
  | _ => false

namespace Report

/-- Whether there are files. -/
def isSuccess (report : Report) : Bool :=
  report.failure.isNone

/-- The report of a failure; it has no files. -/
def ofFailure (failure : Failure) : Except Failure Report :=
  if failure.isReported then .ok { failure } else .error failure

/-- The summary of a run. -/
def summary (settings : Settings) (manifest : Manifest) : List (String × Json) :=
  [("service", settings.service), ("module", settings.moduleName),
    ("package", settings.packageName), ("file_count", .int manifest.size)]

/-- The report of a run that produced files. -/
def ofManifest (settings : Settings) (manifest : Manifest) : Except Failure Report := do
  let warnings ← formed settings.warnings
  return {
    manifest
    warnings := warnings.map SettingsWarning.message
    metadata := summary settings manifest }

end Report

/-- Generates the client of the service that the settings name.  Without integrations, those that
the settings name are loaded. -/
def generateClient (library : Library) (model : Model) (settings : Settings)
    (integrations : Option (List Integration) := none) : Except Failure Report :=
  let registry : Except Failure IntegrationRegistry :=
    match integrations with
    | some integrations => (IntegrationRegistry.ofList integrations).mapError .registry
    | none => library.loadSetting settings.integrations
  match registry.bind fun registry => (Run.of model settings registry).result with
  | .ok manifest => Report.ofManifest settings manifest
  | .error failure => Report.ofFailure failure

end ClientGen
