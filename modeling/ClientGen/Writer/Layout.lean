import ClientGen.Template.Fault
import ClientGen.Writer.Basic

/-!
# Layout of finished files

A unit of code is laid out as a notice, the comment of the package, the package clause, the import
block and the body; the manifest of a module as its name, its language version and the modules that
it requires.  The parts of a file may be given from outside, and then a part that is not given is
reported when the layout comes to it.
-/

namespace ClientGen.Layout

/-- The line that tells readers and tools not to edit a file. -/
def notice : String := "// Code generated by shapegen. DO NOT EDIT.\n"

/-- Lines that each end in a line feed. -/
def ended (lines : List String) : String :=
  String.join (lines.map (· ++ "\n"))

/-- The lines of an import block; an empty line parts two groups. -/
def importLines (groups : List (List Dependency)) : List String :=
  List.intercalate [""] (groups.map fun group => group.map fun dependency =>
    "\t" ++ dependency.importLine)

/-- The import block, if there are groups. -/
def importBlock (groups : List (List Dependency)) : String :=
  if groups.isEmpty then "" else ended (["", "import ("] ++ importLines groups ++ [")"])

/-- A unit of code. -/
def unit (packageDocs packageName : String) (groups : List (List Dependency)) (body : String) :
    String :=
  notice ++ "\n" ++ (if packageDocs.isEmpty then "" else packageDocs ++ "\n")
    ++ "package " ++ packageName ++ "\n" ++ importBlock groups
    ++ (if body.isEmpty then "" else "\n" ++ body ++ "\n")

/-- A required module and its version; a dependency may lack either. -/
def requirement (dependency : Dependency) : String :=
  dependency.provider.getD "None" ++ " " ++ dependency.version.getD "None"

/-- The requirements of a module. -/
def requirements : List Dependency → String
  | [] => ""
  | [dependency] => ended ["", "require " ++ requirement dependency]
  | dependencies =>
    ended (["", "require ("] ++ dependencies.map (fun dependency => "\t" ++ requirement dependency)
      ++ [")"])

/-- The manifest of a module. -/
def moduleManifest (path version : String) (requires : List Dependency) : String :=
  ended ["module " ++ path, "", "go " ++ version] ++ requirements requires

/-! ## Parts from outside -/

/-- A part that the layout needs. -/
def needed {α : Type} (name : String) (part : Option α) : Except TemplateFault α :=
  match part with
  | some part => .ok part
  | none => .error (.undefined name)

/-- A value as a part of a text: nothing if it counts as no. -/
def optional (value : Json) : String :=
  if value.truthy then value.text else ""

/-- A unit of code from parts that may be missing. -/
def unitOf (packageDocs packageName : Option Json) (groups : Option (List (List Dependency)))
    (body : Option Json) : Except TemplateFault String := do
  let packageDocs ← needed "package_docs" packageDocs
  let packageName ← needed "package_name" packageName
  let groups ← needed "import_groups" groups
  let body ← needed "body" body
  return unit (optional packageDocs) packageName.text groups (optional body)

/-- The manifest of a module from parts that may be missing. -/
def moduleManifestOf (path version : Option Json) (requires : Option (List Dependency)) :
    Except TemplateFault String := do
  let path ← needed "module_name" path
  let version ← needed "go_version" version
  let requires ← needed "requires" requires
  return moduleManifest path.text version.text requires

end Layout

namespace Writer

/-- The finished unit. -/
def toText (writer : Writer) : String :=
  let body := String.ofList (Text.trim (· == '\n') writer.body.toList)
  Layout.unit (Text.unlines writer.packageDocs) writer.packageName writer.imports.groups body

end Writer

end ClientGen
