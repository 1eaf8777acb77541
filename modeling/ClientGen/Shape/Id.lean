import ClientGen.Text.Split

/-!
# Shape ids

A shape of a model is named by a namespace and a name, written `namespace#Name`; a member of a
shape adds its own name, written `namespace#Name$member`.  Main definitions: `ShapeId.parse`,
`ShapeId.text`, and the order of ids by namespace, name and member, in which an id without a member
and one with a member of the same shape cannot be compared.
-/

namespace ClientGen

/-- The name of a shape, or of a member of one. -/
structure ShapeId where
  ns : String
  name : String
  member : Option String := none
deriving DecidableEq, Repr, Inhabited

namespace ShapeId

/-- The id of a member of the shape. -/
def withMember (id : ShapeId) (member : String) : ShapeId :=
  { id with member := some member }

/-- The written form; an empty member name is not written. -/
def text (id : ShapeId) : String :=
  let base := id.ns ++ "#" ++ id.name
  match id.member with
  | some member => if member.isEmpty then base else base ++ "$" ++ member
  | none => base

/-! ## Reading -/

/-- Why a text is no shape id. -/
inductive Fault where
  /-- There is no namespace. -/
  | relative (text : String)
  /-- The namespace or the name is empty. -/
  | invalid (text : String)
deriving DecidableEq, Repr

/-- The fault in words. -/
def Fault.message : Fault → String
  | .relative text => "Shape id must be absolute: '" ++ text ++ "'"
  | .invalid text => "Invalid shape id: '" ++ text ++ "'"

/-- The namespace and the rest of a written id. -/
def qualified (cs : List Char) (fallback : Option String) : Option (List Char × List Char) :=
  match Text.cut? '#' cs with
  | some parts => some parts
  | none =>
    match fallback with
    | some ns => if ns.isEmpty then none else some (ns.toList, cs)
    | none => none

/-- Reads an id.  White space around it is dropped; an id without a namespace takes the fallback,
if there is one. -/
def parse (written : String) (fallback : Option String := none) : Except Fault ShapeId :=
  let cs := Text.trim Text.isBlank written.toList
  match qualified cs fallback with
  | none => .error (.relative (String.ofList cs))
  | some (ns, rest) =>
    let named := match Text.cut? '$' rest with
      | some (name, member) => (name, some (String.ofList member))
      | none => (rest, none)
    if ns.isEmpty || named.1.isEmpty then .error (.invalid (String.ofList cs))
    else .ok ⟨String.ofList ns, String.ofList named.1, named.2⟩

/-! ## Order -/

/-- Whether two ids name the same shape, one of them with a member and one without. -/
def incomparable (a b : ShapeId) : Bool :=
  a.ns == b.ns && a.name == b.name && a.member.isSome != b.member.isSome

/-- The order of ids that can be compared: by namespace, then by name, then by member. -/
def le (a b : ShapeId) : Bool :=
  match compare a.ns b.ns with
  | .lt => true
  | .gt => false
  | .eq =>
    match compare a.name b.name with
    | .lt => true
    | .gt => false
    | .eq => decide ((a.member.getD "") ≤ (b.member.getD ""))

/-- Values in the order of their ids; none if two of the ids cannot be compared. -/
def sortBy? {α : Type} (id : α → ShapeId) (values : List α) : Option (List α) :=
  if values.any fun a => values.any fun b => incomparable (id a) (id b) then none
  else some (values.mergeSort fun a b => (id a).le (id b))

end ShapeId

end ClientGen
