import ClientGen.Failure

/-!
# Generated files

The files that a run produces, at most one for a path.
-/

namespace ClientGen

/-- Files by path, in the order in which they were added. -/
structure Manifest where
  entries : List (String × String) := []
deriving Inhabited

namespace Manifest

/-- Adds a file, whose path must be new. -/
def add (manifest : Manifest) (path content : String) : Except Failure Manifest :=
  if Entries.has path manifest.entries then .error (.unitRepeated path)
  else .ok { entries := manifest.entries ++ [(path, content)] }

/-- The manifest of some files. -/
def ofFiles (files : List (String × String)) : Except Failure Manifest :=
  files.foldlM (fun manifest file => manifest.add file.1 file.2) {}

/-- The number of files. -/
def size (manifest : Manifest) : Nat :=
  manifest.entries.length

/-- The content of the file of a path. -/
def get? (manifest : Manifest) (path : String) : Option String :=
  manifest.entries.lookup path

/-- The files by path. -/
def files (manifest : Manifest) : List (String × String) :=
  manifest.entries.mergeSort fun a b => decide (a.1 ≤ b.1)

/-- The paths of the files. -/
def paths (manifest : Manifest) : List String :=
  manifest.files.map Prod.fst

end Manifest

end ClientGen
