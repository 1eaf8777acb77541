import ClientGen.Json.Dictionary
import ClientGen.Failure
import ClientGen.Name.PackageName

/-!
# Settings

What the user can choose about a run.  Settings come from outside, so every one is a JSON value of
any kind until it is used; the functions at the end give the settings as a run uses them.  Only the
package name has a default that depends on another setting.
-/

namespace ClientGen

/-- Settings that the generator does not know. -/
inductive CustomSettings where
  | entries (entries : List (Json × Json))
  /-- Something that is no object. -/
  | other (value : Json)
deriving Inhabited

namespace CustomSettings

/-- The custom settings that a value stands for. -/
def ofJson : Json → CustomSettings
  | .obj fields => entries (fields.map fun field => (.str field.1, field.2))
  | value => other value

/-- The settings by name; something that is no object has none. -/
def pairs : CustomSettings → Except Malformed (List (Json × Json))
  | entries found => .ok found
  | other _ => .error .part

/-- The value read as a dictionary. -/
def dictionary : CustomSettings → Except Malformed (List (Json × Json))
  | entries found => .ok found
  | other value => value.dictionary

/-- Whether every entry of the first list is one of the second. -/
def coveredBy (first second : List (Json × Json)) : Bool :=
  first.all fun entry => second.any fun other => entry.1.same other.1 && entry.2.same other.2

/-- Whether two custom settings hold the same data; the order does not count. -/
def same : CustomSettings → CustomSettings → Bool
  | entries first, entries second => first.length == second.length && coveredBy first second
  | other first, other second => first.same second
  | _, _ => false

end CustomSettings

/-- The choices for a run. -/
structure Settings where
  /-- The path of the module to generate. -/
  moduleName : Json := .str ""
  /-- The id of the service to generate a client for. -/
  service : Json := .str ""
  /-- The package of the client; derived from the module if empty. -/
  packageName : Json := .str ""
  /-- The protocol to use; the first one of the service if empty. -/
  protocol : Json := .null
  /-- What the client calls its service; the package if empty. -/
  serviceId : Json := .null
  goVersion : Json := .str "1.15"
  indentText : Json := .str "\t"
  addComments : Json := .bool true
  /-- Import strings of integrations. -/
  integrations : Json := .arr []
  outputDir : Json := .null
  custom : CustomSettings := .entries []
deriving Inhabited

namespace Settings

/-- The settings with names of their own, in order. -/
def fields (settings : Settings) : List (String × Json) :=
  [("module_name", settings.moduleName), ("service", settings.service),
    ("package_name", settings.packageName), ("protocol", settings.protocol),
    ("service_id", settings.serviceId), ("go_version", settings.goVersion),
    ("indent_text", settings.indentText), ("add_comments", settings.addComments),
    ("integrations", settings.integrations), ("output_dir", settings.outputDir)]

/-- The names of the settings that are not custom. -/
def names : List String :=
  ["module_name", "service", "package_name", "protocol", "service_id", "go_version", "indent_text",
    "add_comments", "integrations", "output_dir", "custom"]

/-- Gives a setting a value; none if there is no setting of the name. -/
def set? (settings : Settings) (name : String) (value : Json) : Option Settings :=
  match name with
  | "module_name" => some { settings with moduleName := value }
  | "service" => some { settings with service := value }
  | "package_name" => some { settings with packageName := value }
  | "protocol" => some { settings with protocol := value }
  | "service_id" => some { settings with serviceId := value }
  | "go_version" => some { settings with goVersion := value }
  | "indent_text" => some { settings with indentText := value }
  | "add_comments" => some { settings with addComments := value }
  | "integrations" => some { settings with integrations := value }
  | "output_dir" => some { settings with outputDir := value }
  | "custom" => some { settings with custom := .ofJson value }
  | _ => none

/-- Derives the package name from the module if it is empty. -/
def withPackage (settings : Settings) : Except Malformed Settings :=
  if settings.packageName.truthy || !settings.moduleName.truthy then .ok settings
  else
    match settings.moduleName with
    | .str path => .ok { settings with packageName := .str (Name.packageName path) }
    | _ => .error .part

/-- Settings from values by name; all others have their defaults. -/
def ofFields (fields : List (String × Json)) : Except Malformed Settings :=
  match fields.foldlM (fun settings field => set? settings field.1 field.2) {} with
  | some settings => withPackage settings
  | none => .error .kind

/-- Whether two settings hold the same data. -/
def same (first second : Settings) : Bool :=
  (first.fields.zip second.fields).all (fun pair => pair.1.2.same pair.2.2)
    && first.custom.same second.custom

/-! ## Use -/

/-- The path of the module. -/
def modulePath (settings : Settings) : String :=
  settings.moduleName.text

/-- What the client calls its service. -/
def clientId (settings : Settings) : String :=
  if settings.serviceId.truthy then settings.serviceId.text else settings.packageName.text

/-- Whether documentation is written. -/
def hasComments (settings : Settings) : Bool :=
  settings.addComments.truthy

/-- The text of a level of indentation. -/
def indent (settings : Settings) : Except Failure String :=
  match settings.indentText with
  | .str text => .ok text
  | _ => .error (.malformed .kind)

end Settings

end ClientGen
