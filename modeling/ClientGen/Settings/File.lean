import ClientGen.File.Tree
import ClientGen.Json.Printer
import ClientGen.Settings.Basic

/-!
# Settings files

Settings come from three sources: the defaults, a JSON file, and overrides, where a later source
wins.  A file holds the settings itself or, among others, under the name of the generator.  Several
settings may be written under a second name.  Main definitions: `Settings.load` and `Settings.save`.
-/

namespace ClientGen.Settings

/-- The name under which a file holds the settings of this generator among those of others. -/
def sectionName : String := "go-codegen"

/-- Second names of settings. -/
def aliases : List (String × String) :=
  [("module", "module_name"), ("moduleName", "module_name"), ("packageName", "package_name"),
    ("serviceId", "service_id"), ("goVersion", "go_version"), ("outputDir", "output_dir")]

/-- The first name of a setting. -/
def canonicalName (name : String) : String :=
  (aliases.lookup name).getD name

/-- Settings under their first names; of two values for a setting the later one counts. -/
def canonical (fields : List (String × Json)) : List (String × Json) :=
  Entries.ofPairs (fields.map fun field => (canonicalName field.1, field.2))

/-- The settings that hold unless a file or an override says otherwise. -/
def defaults : List (String × Json) :=
  [("go_version", .str "1.15"), ("indent_text", .str "\t"), ("add_comments", .bool true)]

/-! ## Merging -/

/-- The settings among those of other generators, if they are there. -/
def section? (fields : List (String × Json)) : Option Json :=
  ((fields.lookup "plugins").getD .null).get? sectionName

/-- The settings that a document holds. -/
def ofDocument (path : Path) (document : Json) : Except Failure (List (String × Json)) :=
  match document with
  | .obj fields =>
    match section? fields with
    | none => .ok (canonical fields)
    | some (.obj fields) => .ok (canonical fields)
    | some _ => .error (.settings (.sectionNotObject sectionName path.text))
  | _ => .error (.settings (.notObject path.text))

/-- The custom settings, to which those of unknown names are added. -/
def customOf (existing : Option Json) (unknown : List (String × Json)) :
    Except Malformed (List (Json × Json)) := do
  let entries ← (existing.getD (.obj [])).dictionary
  return unknown.foldl (fun entries field => Json.putKey (.str field.1) field.2 entries) entries

/-- Settings from merged values; values of unknown names are custom settings. -/
def ofMerged (fields : List (String × Json)) : Except Malformed Settings := do
  let fields := canonical fields
  let known := fields.filter fun field => names.contains field.1
  let unknown := fields.filter fun field => !names.contains field.1
  if unknown.isEmpty then ofFields known
  else
    let custom ← customOf (fields.lookup "custom") unknown
    let settings ← ofFields (known.filter fun field => field.1 != "custom")
    return { settings with custom := .entries custom }

/-- The settings that every run needs and that are not given. -/
def missing (settings : Settings) : List String :=
  (if settings.moduleName.truthy then [] else ["module_name"])
    ++ (if settings.service.truthy then [] else ["service"])

/-- Merges the settings of a file and overrides with the defaults; an override that is null does not
count. -/
def merge (file overrides : List (String × Json)) : Except Failure Settings := do
  let given := overrides.filter fun field => !field.2.isNull
  let settings ← formed (ofMerged (Entries.putAll given (Entries.putAll file defaults)))
  if settings.missing.isEmpty then return settings
  else throw (.settings (.incomplete settings.missing))

/-! ## Files -/

/-- The settings in a file. -/
def readFile (tree : Tree) (path : Path) : Except Failure (List (String × Json)) := do
  if !tree.contains path then throw (.settings (.notFound path.text))
  if !path.isJson then throw (.settings (.notJson path.text))
  match tree.bytes path with
  | .error fault => throw (.settings (.unreadable path.text fault))
  | .ok bytes =>
    match Json.parse (← formed (Tree.textOf bytes)) with
    | .error (.fault fault) => throw (.settings (.badSyntax path.text fault))
    | .error (.excess excess) => throw (.malformed excess.malformed)
    | .ok document => ofDocument path document

/-- The settings of a run, from a file, if one is named, and overrides. -/
def load (tree : Tree) (overrides : List (String × Json)) (file : Option String := none) :
    Except Failure Settings := do
  let found ← match file with
    | some path => if path.isEmpty then pure [] else readFile tree (.ofText path)
    | none => pure []
  merge found overrides

/-- The key of an object for the key of a dictionary. -/
def keyText (key : Json) : String :=
  match key with
  | .str name => name
  | other => other.scalarText

/-- The document that holds settings: first those with names of their own, then the custom ones. -/
def document (settings : Settings) : Except Malformed Json := do
  let own := settings.fields.map fun field => (Json.str field.1, field.2)
  let custom ← settings.custom.dictionary
  let entries := custom.foldl (fun entries entry => Json.putKey entry.1 entry.2 entries) own
  return .obj (entries.map fun entry => (keyText entry.1, entry.2))

/-- Saves settings in a file. -/
def save (settings : Settings) (tree : Tree) (path : Path) : Except Failure Tree := do
  let document ← formed settings.document
  (tree.write path document.pretty).mapError fun fault =>
    .settings (.unwritable path.text fault)

end ClientGen.Settings
