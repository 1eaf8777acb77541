import ClientGen.Json.Dictionary
import ClientGen.Model.Basic

/-!
# Model documents

A model is written as a JSON object with the shapes under `shapes`, each under its id.  A reference
to another shape is an object with a `target`, or the bare id; an id without a namespace refers to
the prelude, and so does the id of a trait without one.  Main definition: `Model.ofDocument`.

The parts of a document are read in a fixed order, so that of several faults the first one is
reported.
-/

namespace ClientGen.Document

/-- The value of a key; null if the object does not have it. -/
def part (node : Json) (key : String) : Except Failure Json := do
  let fields ← formed node.entries
  return (fields.lookup key).getD .null

/-- The entries of a part that may be left out. -/
def entriesOf (part : Json) : Except Failure (List (String × Json)) :=
  if part.truthy then formed part.entries else .ok []

/-- The elements of a part that may be left out. -/
def elementsOf (part : Json) : Except Failure (List Json) :=
  if part.truthy then formed part.elements else .ok []

/-- The id of a trait, which belongs to the prelude unless it says otherwise. -/
def traitId (name : String) : String :=
  if name.toList.contains '#' then name else Trait.builtin name

/-- The traits of a shape or member. -/
def traits (node : Json) : Except Failure Traits := do
  let fields ← entriesOf (← part node "traits")
  return Entries.ofPairs (fields.map fun field => (traitId field.1, field.2))

/-- The shape that a reference refers to. -/
def target (reference : Json) (owner : ShapeId) : Except Failure ShapeId := do
  let named := match reference with
    | .obj fields => (fields.lookup "target").getD .null
    | other => other
  if named.truthy then ShapeId.read named.text (some Trait.prelude)
  else throw (.model (.targetMissing owner))

/-- The shapes that the references under a key refer to. -/
def targets (node : Json) (key : String) (owner : ShapeId) : Except Failure (List ShapeId) := do
  (← elementsOf (← part node key)).mapM (target · owner)

/-- The shape that a reference under a key refers to, if it is given. -/
def target? (node : Json) (key : String) (owner : ShapeId) : Except Failure (Option ShapeId) := do
  let reference ← part node key
  if reference.truthy then return some (← target reference owner) else return none

/-- A member of a shape. -/
def member (container : ShapeId) (name : String) (node : Json) : Except Failure Member := do
  let target ← target node (container.withMember name)
  return { name, container, target, traits := ← traits node }

/-- A member that stands under its own name; one left out is read as an empty object. -/
def memberAt (container : ShapeId) (name : String) (node : Json) : Except Failure Member := do
  let found ← part node name
  member container name (if found.truthy then found else .obj [])

/-- The members that a shape of a type has. -/
def members (type : ShapeType) (id : ShapeId) (node : Json) : Except Failure (List Member) := do
  match type with
  | .struct | .union =>
    (← entriesOf (← part node "members")).mapM fun field => member id field.1 field.2
  -- Members of these are found under their own names, not among the members.
  | .list | .set => return [← memberAt id "member" node]
  | .map => return [← memberAt id "key" node, ← memberAt id "value" node]
  | _ => return []

/-- The keys under which a resource binds the operations of its life cycle. -/
def lifecycleKeys : List String :=
  ["create", "put", "read", "update", "delete", "list"]

/-- The operations of the life cycle that a resource binds. -/
def lifecycle (id : ShapeId) (node : Json) : Except Failure (List ShapeId) := do
  let fields ← formed node.entries
  (lifecycleKeys.filterMap fun key => fields.lookup key).mapM (target · id)

/-- The operations of a shape; those of a resource include its life cycle and the operations on the
collection. -/
def operations (type : ShapeType) (id : ShapeId) (node : Json) :
    Except Failure (List ShapeId) := do
  let bound ← targets node "operations" id
  if type == .resource then
    -- The operations of the life cycle come first, in the order of their keys.
    let lifecycle ← lifecycle id node
    return lifecycle ++ bound ++ (← targets node "collectionOperations" id)
  else return bound

/-- The type of a shape. -/
def type (id : ShapeId) (node : Json) : Except Failure ShapeType := do
  let written ← part node "type"
  match written.text?.bind ShapeType.ofName? with
  | some type => return type
  | none => throw (.model (.typeUnknown written id))

/-- A shape under its id. -/
def shape (id : ShapeId) (node : Json) : Except Failure Shape := do
  let type ← type id node
  let members ← members type id node
  let operations ← operations type id node
  let traits ← traits node
  let version ← part node "version"
  let resources ← targets node "resources" id
  let input ← target? node "input" id
  let output ← target? node "output" id
  let errors ← targets node "errors" id
  return { id, type, traits, members, version, operations, resources, input, output, errors }

/-- The shapes of a document. -/
def shapes (fields : List (String × Json)) : Except Failure (List Shape) :=
  match (fields.lookup "shapes").getD (.obj []) with
  | .obj entries => entries.mapM fun entry => do shape (← ShapeId.read entry.1) entry.2
  | _ => .error (.model .shapesNotObject)

/-- The metadata of a document. -/
def metadata (fields : List (String × Json)) : Except Failure (List (Json × Json)) :=
  let found := (fields.lookup "metadata").getD .null
  if found.truthy then formed found.dictionary else .ok []

end ClientGen.Document

namespace ClientGen

/-- The model that a document holds. -/
def Model.ofDocument (document : Json) : Except Failure Model :=
  match document with
  | .obj fields => do
    let shapes ← Document.shapes fields
    return Model.ofShapes shapes (← Document.metadata fields)
  | _ => .error (.model .documentNotObject)

end ClientGen
