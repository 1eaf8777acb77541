import ClientGen.Failure
import ClientGen.File.Path

/-!
# File trees

A file tree holds files, which are bytes, and directories, as seen from one directory.  Files are
read and written as UTF-8 text.  Main definitions: `Tree.read`, `Tree.write` and
`Tree.makeDirectories`, which give the tree after them; a failing operation that has no tree to give
leaves the tree as it is.
-/

namespace ClientGen

/-- What stands at a path. -/
inductive FileNode where
  | file (bytes : List UInt8)
  | directory
deriving DecidableEq, Repr

/-- The place of a node: the names from the root of the tree on. -/
abbrev Place := List String

/-- Files and directories by place. -/
structure Tree where
  nodes : List (Place × FileNode) := []
deriving Repr, Inhabited

namespace Tree

/-- Whether a place is the root of the tree or lies around it; there are directories only. -/
def isOuter (place : Place) : Bool :=
  place.all fun name => name == ".." || Path.isRoot name

/-- What stands at a place. -/
def node? (tree : Tree) (place : Place) : Option FileNode :=
  if isOuter place then some .directory else tree.nodes.lookup place

/-- Whether a directory stands at a place. -/
def isDirectory (tree : Tree) (place : Place) : Bool :=
  tree.node? place == some .directory

/-- Puts a node at a place. -/
def put (tree : Tree) (place : Place) (node : FileNode) : Tree :=
  { nodes := Entries.put place node tree.nodes }

/-! ## Places of paths -/

/-- Why a path has no place. -/
inductive Obstacle where
  /-- A directory on the way is missing. -/
  | missing
  /-- A file stands on the way. -/
  | file

/-- The place one name further; two points lead back. -/
def step (place : Place) (name : String) : Place :=
  if name != ".." then place ++ [name]
  else
    match place.getLast? with
    | none => [name]
    | some last =>
      if last == ".." then place ++ [name] else if Path.isRoot last then place else place.dropLast

/-- The place that names lead to; all but the last must lead through directories. -/
def walk (tree : Tree) (place : Place) : List String → Except Obstacle Place
  | [] => .ok place
  | name :: rest =>
    match tree.node? place with
    | some .directory => walk tree (step place name) rest
    | some (.file _) => .error .file
    | none => .error .missing

/-- The place of a path. -/
def place (tree : Tree) (path : Path) : Except Obstacle Place :=
  walk tree [] path.place

/-- The fault that an obstacle on a path is. -/
def Obstacle.fault (path : Path) : Obstacle → FileFault
  | missing => .notFound path.text
  | file => .notDirectory path.text

/-- Whether something stands at a path. -/
def contains (tree : Tree) (path : Path) : Bool :=
  match tree.place path with
  | .ok place => (tree.node? place).isSome
  | .error _ => false

/-! ## Long names -/

/-- How many bytes of names are taken; without a number there is no limit. -/
structure NameLimits where
  /-- In a name on the way. -/
  name : Option Nat := none
  /-- In the whole path. -/
  path : Option Nat := none
deriving DecidableEq, Repr

/-- Whether a text goes beyond a limit. -/
def isBeyond (limit : Option Nat) (text : String) : Bool :=
  limit.any fun limit => limit < text.utf8ByteSize

/-- Whether names that are followed from a place lead to one that is too long. -/
def meetsLong (tree : Tree) (limit : Option Nat) (place : Place) : List String → Bool
  | [] => false
  | name :: rest =>
    match tree.node? place with
    | some .directory => isBeyond limit name || meetsLong tree limit (step place name) rest
    | _ => false

/-- Whether a path cannot be followed because of the length of its names. -/
def isTooLong (tree : Tree) (limits : NameLimits) (path : Path) : Bool :=
  isBeyond limits.path path.text || meetsLong tree limits.name [] path.place

/-! ## Reading -/

/-- The bytes of a file. -/
def bytes (tree : Tree) (path : Path) : Except FileFault (List UInt8) :=
  match tree.place path with
  | .error obstacle => .error (obstacle.fault path)
  | .ok place =>
    match tree.node? place with
    | some (.file bytes) => .ok bytes
    | some .directory => .error (.isDirectory path.text)
    | none => .error (.notFound path.text)

/-- The text that bytes encode. -/
def decode (bytes : List UInt8) : Except Malformed String :=
  match String.fromUTF8? ⟨bytes.toArray⟩ with
  | some text => .ok text
  | none => .error .encoding

/-- The text that bytes encode, with a line feed for every line end. -/
def textOf (bytes : List UInt8) : Except Malformed String := do
  return String.ofList (Text.unifyLineEnds (← decode bytes).toList)

/-! ## Writing -/

/-- The bytes that a text is encoded in. -/
def encode (text : String) : List UInt8 :=
  text.toUTF8.toList

/-- Writes a file, whose directory must be there. -/
def write (tree : Tree) (path : Path) (text : String) : Except FileFault Tree :=
  match tree.place path with
  | .error obstacle => .error (obstacle.fault path)
  | .ok place =>
    if tree.isDirectory place then .error (.isDirectory path.text)
    else .ok (tree.put place (.file (encode text)))

/-- Makes a directory where nothing stands. -/
def makeDirectory (tree : Tree) (path : Path) : Except FileFault Tree :=
  match tree.place path with
  | .error obstacle => .error (obstacle.fault path)
  | .ok place =>
    match tree.node? place with
    | none => .ok (tree.put place .directory)
    | some .directory => .ok tree
    | some (.file _) => .error (.alreadyThere path.text)

/-- Makes a directory and those around it that are missing; the names are those of the path, last
one first. -/
def makeAll (tree : Tree) (root : String) : List String → Except FileFault Tree
  | [] => .ok tree
  | name :: outer =>
    let path : Path := ⟨root, (name :: outer).reverse⟩
    match tree.makeDirectory path with
    | .error (.notFound _) => do (← makeAll tree root outer).makeDirectory path
    | result => result

/-- Makes a directory and those around it that are missing. -/
def makeDirectories (tree : Tree) (path : Path) : Except FileFault Tree :=
  tree.makeAll path.root path.names.reverse

/-- Puts a node and makes directories around it. -/
def plant (tree : Tree) (path : Path) (node : FileNode) : Tree :=
  match tree.makeDirectories path.parent with
  | .ok tree => tree.put path.place node
  | .error _ => tree.put path.place node

/-- The tree of some files. -/
def ofFiles (files : List (String × FileNode)) : Tree :=
  files.foldl (fun tree file => tree.plant (.ofText file.1) file.2) {}

/-- The files of a tree that another one does not hold as they are, in the order of their paths. -/
def changes (before after : Tree) : List (Path × List UInt8) :=
  let changed := after.nodes.filterMap fun node =>
    match node.2 with
    | .file bytes =>
      if before.nodes.lookup node.1 == some node.2 then none else some (Path.ofPlace node.1, bytes)
    | .directory => none
  changed.mergeSort fun a b => decide (a.1.text ≤ b.1.text)

end Tree

end ClientGen
