import ClientGen.Failure

/-!
# Models

A model is a collection of shapes by id, together with metadata.  Every model holds the built-in
shapes of the prelude, which its own shapes may refer to and may replace.  A model carries the proof
that it is an index: every shape stands under its own id, and no id stands twice.
-/

namespace ClientGen

/-- Shapes by id, in the order in which they were given, and metadata. -/
structure Model where
  shapes : List (ShapeId × Shape)
  metadata : List (Json × Json) := []
  /-- Every shape stands under its own id. -/
  id_eq_of_mem : ∀ entry ∈ shapes, entry.2.id = entry.1
  /-- No id stands twice. -/
  nodup_keys : (Entries.keys shapes).Nodup

namespace Model

/-- The built-in shapes. -/
def preludeShapes : List (String × ShapeType) :=
  [("String", .string), ("Blob", .blob), ("Boolean", .boolean), ("PrimitiveBoolean", .boolean),
    ("Byte", .byte), ("PrimitiveByte", .byte), ("Short", .short), ("PrimitiveShort", .short),
    ("Integer", .integer), ("PrimitiveInteger", .integer), ("Long", .long),
    ("PrimitiveLong", .long), ("Float", .float), ("PrimitiveFloat", .float), ("Double", .double),
    ("PrimitiveDouble", .double), ("BigInteger", .bigInteger), ("BigDecimal", .bigDecimal),
    ("Timestamp", .timestamp), ("Document", .document)]

/-- The built-in shapes by id. -/
def prelude : List (ShapeId × Shape) :=
  preludeShapes.map fun shape =>
    let id : ShapeId := { ns := Trait.prelude, name := shape.1 }
    (id, { id, type := shape.2 })

theorem id_eq_of_mem_prelude : ∀ entry ∈ prelude, entry.2.id = entry.1 := by
  intro entry hentry
  obtain ⟨_, _, rfl⟩ := List.mem_map.1 hentry
  rfl

theorem nodup_keys_prelude : (Entries.keys prelude).Nodup := by
  decide +kernel

/-- The model of the built-in shapes and some others; of two shapes with one id the last counts. -/
def ofShapes (shapes : List Shape) (metadata : List (Json × Json) := []) : Model where
  shapes := Entries.putAll (shapes.map fun shape => (shape.id, shape)) prelude
  metadata := metadata
  id_eq_of_mem := by
    refine Entries.forall_mem_putAll ?_ id_eq_of_mem_prelude
    intro entry hentry
    obtain ⟨_, _, rfl⟩ := List.mem_map.1 hentry
    rfl
  nodup_keys := Entries.nodup_keys_putAll _ nodup_keys_prelude

/-- The number of shapes, built-in ones included. -/
def size (model : Model) : Nat :=
  model.shapes.length

/-- The shape of an id, if there is one. -/
def shape? (model : Model) (id : ShapeId) : Option Shape :=
  model.shapes.lookup id

/-- The shape of a written id, if there is one. -/
def find? (model : Model) (written : String) : Except Failure (Option Shape) :=
  return model.shape? (← ShapeId.read written)

/-- The shape of an id. -/
def expect (model : Model) (id : ShapeId) : Except Failure Shape :=
  match model.shape? id with
  | some shape => .ok shape
  | none => .error (.model (.shapeNotFound id.text))

/-- The shape of a written id. -/
def expectWritten (model : Model) (written : String) : Except Failure Shape := do
  match ← model.find? written with
  | some shape => .ok shape
  | none => .error (.model (.shapeNotFound written))

/-- Shapes in the order of their ids. -/
def sorted (shapes : List Shape) : Except Failure (List Shape) :=
  match ShapeId.sortBy? Shape.id shapes with
  | some shapes => .ok shapes
  | none => .error (.malformed .kind)

/-- The shapes in the order of their ids, those of one type if a type is given. -/
def ordered (model : Model) (type : Option ShapeType := none) : Except Failure (List Shape) :=
  sorted ((model.shapes.map Prod.snd).filter fun shape => type.all (· == shape.type))

end Model

namespace Shape

/-- The value of a trait that the shape must have. -/
def expectTrait (shape : Shape) (trait : String) : Except Failure Json :=
  match shape.trait? trait with
  | some value => .ok value
  | none => .error (.model (.traitExpected trait shape.id))

/-- Whether the shape is one of the prelude's namespace. -/
def isBuiltin (shape : Shape) : Bool :=
  shape.id.ns == Trait.prelude

end Shape

end ClientGen
