import ClientGen.Settings.Basic

/-!
# Warnings about settings

Settings that are likely to be wrong are reported as warnings; they do not stop a run.
-/

namespace ClientGen

/-- What may be wrong with settings. -/
inductive SettingsWarning where
  | package (problem : Name.PackageProblem)
  | relativeService (service : Json)
  | badVersion (version : String)
  | incompleteImport (entry : Json)

/-- The warning in words. -/
def SettingsWarning.message : SettingsWarning → String
  | package problem => problem.message
  | relativeService service => "Service should be an absolute shape id: " ++ service.text
  | badVersion version => "Invalid go_version: " ++ version
  | incompleteImport entry =>
    "Integration '" ++ entry.text ++ "' should look like 'module:attribute'"

namespace Settings

/-- Whether a text is two numbers with a point between them. -/
def isVersion (version : List Char) : Bool :=
  match Text.cut? '.' version with
  | some (major, minor) =>
    !major.isEmpty && major.all Text.isDecimalDigit
      && !minor.isEmpty && minor.all Text.isDecimalDigit
  | none => false

/-- What may be wrong with the package name. -/
def packageWarnings (settings : Settings) : Except Malformed (List SettingsWarning) :=
  match settings.packageName with
  | .str name => .ok ((Name.packageProblems name).map .package)
  | value => if value.truthy then .error .part else .ok [.package .empty]

/-- What may be wrong with the id of the service. -/
def serviceWarnings (settings : Settings) : Except Malformed (List SettingsWarning) := do
  let isAbsolute ← settings.service.mentions "#"
  return if isAbsolute then [] else [.relativeService settings.service]

/-- What may be wrong with the language version. -/
def versionWarnings (settings : Settings) : Except Malformed (List SettingsWarning) :=
  match settings.goVersion with
  | .str version => .ok (if isVersion version.toList then [] else [.badVersion version])
  | _ => .error .kind

/-- What may be wrong with an import string. -/
def importWarnings (entry : Json) : Except Malformed (List SettingsWarning) := do
  let isComplete ← entry.mentions ":"
  return if isComplete then [] else [.incompleteImport entry]

/-- Everything that may be wrong with the settings. -/
def warnings (settings : Settings) : Except Malformed (List SettingsWarning) := do
  let package ← settings.packageWarnings
  let service ← settings.serviceWarnings
  let version ← settings.versionWarnings
  let imports ← (← settings.integrations.elements).mapM importWarnings
  return package ++ service ++ version ++ imports.flatten

end Settings

end ClientGen
