import ClientGen.File.Tree
import ClientGen.Generation.Manifest

/-!
# Writing generated files

The files of a manifest are written below a directory, in the order of their paths.  Writing stops
at the first file that cannot be written, and the files before it stay.
-/

namespace ClientGen.Manifest

/-- Writes files below a directory: the tree after that, and why it stopped, if it did. -/
def writeFiles (directory : Path) : Tree → List (String × String) → Tree × Option FileFault
  | tree, [] => (tree, none)
  | tree, file :: rest =>
    let path := directory.join (.ofText file.1)
    match tree.makeDirectories path.parent with
    | .error fault => (tree, some fault)
    | .ok tree =>
      match tree.write path file.2 with
      | .error fault => (tree, some fault)
      | .ok tree => writeFiles directory tree rest

/-- Writes the files below a directory. -/
def write (manifest : Manifest) (tree : Tree) (directory : Path) : Tree × Option FileFault :=
  writeFiles directory tree manifest.files

end ClientGen.Manifest
