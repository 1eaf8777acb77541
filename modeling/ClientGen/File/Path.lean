import ClientGen.Text.Casing
import ClientGen.Text.Split

/-!
# Paths

A path is a root, which relative paths lack, and the names on the way.  Reading a path drops empty
names and names that are a single point; names that are two points are kept.
-/

namespace ClientGen

/-- A way to a file or directory. -/
structure Path where
  /-- Empty, or one or two slashes. -/
  root : String := ""
  names : List String := []
deriving DecidableEq, Repr, Inhabited

namespace Path

/-- The root of a written path; exactly two slashes are a root of their own. -/
def rootOf (cs : List Char) : String :=
  match (cs.takeWhile (· == '/')).length with
  | 0 => ""
  | 2 => "//"
  | _ => "/"

/-- Reads a path. -/
def ofText (text : String) : Path where
  root := rootOf text.toList
  names := ((Text.pieces '/' text.toList).map String.ofList).filter fun name =>
    name != "" && name != "."

/-- The written path. -/
def text (path : Path) : String :=
  if path.root.isEmpty && path.names.isEmpty then "."
  else path.root ++ "/".intercalate path.names

/-- Whether a name is the root of a path. -/
def isRoot (name : String) : Bool :=
  name.toList.all (· == '/')

/-- The names of a path, its root included. -/
def place (path : Path) : List String :=
  if path.root.isEmpty then path.names else path.root :: path.names

/-- The path of some names, the first of which may be its root. -/
def ofPlace : List String → Path
  | [] => {}
  | name :: rest => if isRoot name then ⟨name, rest⟩ else ⟨"", name :: rest⟩

/-- The path that is met when a second one is followed from the first. -/
def join (first second : Path) : Path :=
  if second.root.isEmpty then { first with names := first.names ++ second.names } else second

/-- The directory around a path. -/
def parent (path : Path) : Path :=
  { path with names := path.names.dropLast }

/-- The last name from its last point on, if there are characters on both sides of that. -/
def suffix (path : Path) : String :=
  match Text.cutLast? '.' (path.names.getLast?.getD "").toList with
  | some (stem, ending) =>
    if stem.isEmpty || ending.isEmpty then "" else String.ofList ('.' :: ending)
  | none => ""

/-- Whether the name of a path says that it holds JSON. -/
def isJson (path : Path) : Bool :=
  String.ofList (Text.toLower path.suffix.toList) == ".json"

end Path

end ClientGen
