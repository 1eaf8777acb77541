import ClientGen.Proofs.Json.Proper
import ClientGen.Proofs.Model.Document

/-!
# Models represent their documents

The node of a shape refers to other shapes in places that depend on its type: in the nodes of its
members, in lists under several keys, and in single references.  A reference is written in several
ways, too: as the id itself or as an object that holds it, and without a namespace if it is one of
the prelude.  A shape that is read has all these references as its targets, in one order and with
nothing left out, and every model that is read has the form on which searches and declarations rely.

Members of lists, sets and maps are read from keys of their own.  One that is left out has no target,
so a model that was read has a member for the elements of each of these; a model that is put together
by hand need not.

## Main definitions

* `Document.RefersTo` — the shape that a reference names.
* `Document.references` — the references that a node makes, in order.
* `Model.HasElements` — every list, set and map has a member for its elements.
* `Shape.IsWellFormed` — the form of every shape that is read.

## Main results

* `Document.target_eq_ok_iff` — a reference is read as the shape that it names.
* `Document.forall₂_targets` — the targets of a shape are what its node refers to.
* `Document.isWellFormed_of_partsRead` — a shape that is read is well-formed.
* `Model.hasElements_of_ofDocument` — a model that was read has a member for the elements of every
  list.
* `Model.ofDocument_represents` — a model that is read is well-formed, and each of its shapes refers
  to what its node refers to.
-/

namespace ClientGen

namespace Document

variable {fields : List (String × Json)}

/-! ## References -/

/-- The reference names a shape: it spells the shape's id, in the namespace of the prelude unless it
says otherwise. -/
def RefersTo (reference : Json) (id : ShapeId) : Prop :=
  (spelling reference).truthy = true ∧
    ShapeId.Spells (some Trait.prelude) (spelling reference).text id

/-- **A reference is read as the shape that it names.** -/
theorem target_eq_ok_iff {reference : Json} {owner id : ShapeId} :
    target reference owner = .ok id ↔ RefersTo reference id := by
  rw [target_eq, RefersTo]
  split
  · rename_i htruthy
    rw [ShapeId.read, mapError_eq_ok, ShapeId.parse_eq_ok_iff]
    exact (and_iff_right htruthy).symm
  · rename_i hempty
    simp [hempty]

/-- References that are read one after another name the shapes that are found. -/
theorem mapM_target_eq_ok_iff {references : List Json} {owner : ShapeId} {ids : List ShapeId} :
    references.mapM (target · owner) = .ok ids ↔ List.Forall₂ RefersTo references ids := by
  simp only [mapM_eq_ok, target_eq_ok_iff]

/-! ## Places of references -/

/-- The elements of a list of references: the items of an array.  What is no array is gone through
as it comes, an object by its keys and a text by its characters. -/
def elementsIn : Json → List Json
  | .arr items => items
  | .obj fields => fields.map fun field => .str field.1
  | .str s => s.toList.map fun c => .str (String.ofList [c])
  | _ => []

/-- The references that are listed under a key. -/
def listed (fields : List (String × Json)) (key : String) : List Json :=
  elementsIn (valueAt fields key)

/-- The reference that stands under a key, if anything does. -/
def given (fields : List (String × Json)) (key : String) : List Json :=
  if (valueAt fields key).truthy then [valueAt fields key] else []

/-- The nodes of the members that a shape of a type has, each under the name of its member. -/
def memberNodes (fields : List (String × Json)) : ShapeType → List (String × Json)
  | .struct | .union => fieldsOf (valueAt fields "members")
  | .list | .set => [("member", valueAt fields "member")]
  | .map => [("key", valueAt fields "key"), ("value", valueAt fields "value")]
  | _ => []

/-- The references to operations.  For a resource, the operations of its life cycle come first, and
those on the collection last. -/
def operationReferences (fields : List (String × Json)) (type : ShapeType) : List Json :=
  if type = .resource then
    (lifecycleKeys.filterMap fun key => fields.lookup key) ++ listed fields "operations"
      ++ listed fields "collectionOperations"
  else listed fields "operations"

/-- Every reference that the node of a shape makes, in order. -/
def references (fields : List (String × Json)) (type : ShapeType) : List Json :=
  (memberNodes fields type).map Prod.snd ++ operationReferences fields type
    ++ listed fields "resources" ++ given fields "input" ++ given fields "output"
    ++ listed fields "errors"

/-- What is gone through are the elements, and nothing where nothing is given. -/
theorem eq_elementsIn_of_elementsOf {value : Json} {elements : List Json}
    (h : elementsOf value = .ok elements) : elements = elementsIn value := by
  unfold elementsOf at h
  split at h
  · replace h := mapError_eq_ok.1 h
    cases value with
    | arr items => exact (Except.ok.inj h).symm
    | obj fields => exact (Except.ok.inj h).symm
    | str s => exact (Except.ok.inj h).symm
    | _ => cases h
  · rename_i hempty
    obtain rfl := Except.ok.inj h
    cases value with
    | arr items => simpa [Json.truthy, elementsIn] using hempty
    | obj fields => simpa [Json.truthy, elementsIn] using hempty
    | str s => simpa [Json.truthy, elementsIn] using hempty
    | _ => rfl

theorem forall₂_of_targets {key : String} {owner : ShapeId} {ids : List ShapeId}
    (h : targets (.obj fields) key owner = .ok ids) :
    List.Forall₂ RefersTo (listed fields key) ids := by
  replace h : (elementsOf (valueAt fields key) >>= fun elements =>
      elements.mapM (target · owner)) = .ok ids := h
  obtain ⟨elements, helements, hids⟩ := bind_eq_ok.1 h
  rw [listed, ← eq_elementsIn_of_elementsOf helements]
  exact mapM_target_eq_ok_iff.1 hids

theorem forall₂_of_target? {key : String} {owner : ShapeId} {found : Option ShapeId}
    (h : target? (.obj fields) key owner = .ok found) :
    List.Forall₂ RefersTo (given fields key) found.toList := by
  replace h : (if (valueAt fields key).truthy then do
      return some (← target (valueAt fields key) owner) else return none) = .ok found := h
  rw [given]
  split at h
  · rename_i htruthy
    obtain ⟨id, hid, h⟩ := bind_eq_ok.1 h
    obtain rfl := pure_eq_ok.1 h
    rw [if_pos htruthy]
    exact .cons (target_eq_ok_iff.1 hid) .nil
  · rename_i hempty
    obtain rfl := pure_eq_ok.1 h
    rw [if_neg hempty]
    exact .nil

theorem forall₂_of_operations {type : ShapeType} {id : ShapeId} {found : List ShapeId}
    (h : operations type id (.obj fields) = .ok found) :
    List.Forall₂ RefersTo (operationReferences fields type) found := by
  obtain ⟨bound, hbound, h⟩ := bind_eq_ok.1 h
  have hbound := forall₂_of_targets hbound
  rw [operationReferences]
  by_cases htype : type = .resource
  · rw [if_pos (by simpa using htype)] at h
    obtain ⟨lifecycle, hlifecycle, h⟩ := bind_eq_ok.1 h
    obtain ⟨collection, hcollection, h⟩ := bind_eq_ok.1 h
    obtain rfl := pure_eq_ok.1 h
    have hlifecycle : List.Forall₂ RefersTo
        (lifecycleKeys.filterMap fun key => fields.lookup key) lifecycle :=
      mapM_target_eq_ok_iff.1 hlifecycle
    rw [if_pos htype]
    exact List.rel_append (List.rel_append hlifecycle hbound) (forall₂_of_targets hcollection)
  · rw [if_neg (by simpa using htype)] at h
    obtain rfl := pure_eq_ok.1 h
    rwa [if_neg htype]

/-! ## Members -/

/-- A member that stands under its own name is read of its node alone: one that is left out fails
for want of a target, as an empty object does. -/
theorem memberAt_obj (container : ShapeId) (name : String) (fields : List (String × Json)) :
    memberAt container name (.obj fields) = member container name (valueAt fields name) := by
  have hfails (node : Json) (hnode : (spelling node).truthy = false) :
      member container name node
        = .error (.model (.targetMissing (container.withMember name))) := by
    rw [member, target_eq, hnode]
    rfl
  show member container name (if (valueAt fields name).truthy then valueAt fields name else .obj [])
    = _
  generalize valueAt fields name = value
  split
  · rfl
  · rename_i hempty
    rw [hfails (.obj []) rfl, hfails]
    cases value with
    | obj fields =>
      obtain rfl : fields = [] := by simpa [Json.truthy] using hempty
      rfl
    | _ => simpa [spelling] using hempty

/-- **The members of a shape are read of their nodes**, one by one and whatever the type. -/
theorem forall₂_of_members {type : ShapeType} {id : ShapeId} {found : List Member}
    (h : members type id (.obj fields) = .ok found) :
    List.Forall₂ (fun entry read => member id entry.1 entry.2 = .ok read)
      (memberNodes fields type) found := by
  have hlisted : ((do entriesOf (valueAt fields "members") : Except Failure _)
      >>= fun entries => entries.mapM fun entry => member id entry.1 entry.2) = .ok found →
      List.Forall₂ (fun entry read => member id entry.1 entry.2 = .ok read)
        (fieldsOf (valueAt fields "members")) found := by
    intro h
    obtain ⟨entries, hentries, h⟩ := bind_eq_ok.1 h
    rw [← eq_fieldsOf_of_entriesOf hentries]
    exact mapM_eq_ok.1 h
  have hsingle : (do return [← memberAt id "member" (.obj fields)] : Except Failure _) = .ok found →
      List.Forall₂ (fun entry read => member id entry.1 entry.2 = .ok read)
        [("member", valueAt fields "member")] found := by
    intro h
    obtain ⟨read, hread, h⟩ := bind_eq_ok.1 h
    obtain rfl := pure_eq_ok.1 h
    rw [memberAt_obj] at hread
    exact .cons hread .nil
  cases type with
  | struct => exact hlisted h
  | union => exact hlisted h
  | list => exact hsingle h
  | set => exact hsingle h
  | map =>
    obtain ⟨key, hkey, h⟩ := bind_eq_ok.1 h
    obtain ⟨value, hvalue, h⟩ := bind_eq_ok.1 h
    obtain rfl := pure_eq_ok.1 h
    rw [memberAt_obj] at hkey hvalue
    exact .cons hkey (.cons hvalue .nil)
  | _ =>
    obtain rfl := pure_eq_ok.1 h
    exact .nil

/-- The members of a shape have the names that their nodes stand under. -/
theorem map_name_members {found : Shape} (h : PartsRead (.obj fields) found) :
    found.members.map Member.name = Entries.keys (memberNodes fields found.type) := by
  rw [Entries.keys, eq_comm, map_eq_map_iff_forall₂]
  exact (forall₂_of_members h.members).imp fun entry read hentry =>
    (member_eq_ok_iff.1 hentry).1.1.symm

/-! ## Targets -/

/-- **The targets of a shape are what its node refers to**, in order. -/
theorem forall₂_targets {found : Shape} (h : PartsRead (.obj fields) found) :
    List.Forall₂ RefersTo (references fields found.type) found.targets := by
  have hmembers : List.Forall₂ RefersTo ((memberNodes fields found.type).map Prod.snd)
      (found.members.map Member.target) := by
    rw [List.forall₂_map_left_iff, List.forall₂_map_right_iff]
    refine (forall₂_of_members h.members).imp fun entry read hread => ?_
    exact target_eq_ok_iff.1 (member_eq_ok_iff.1 hread).2.1
  have hoperations := List.rel_append hmembers (forall₂_of_operations h.operations)
  have hresources := List.rel_append hoperations (forall₂_of_targets h.resources)
  have hinput := List.rel_append hresources (forall₂_of_target? h.input)
  have houtput := List.rel_append hinput (forall₂_of_target? h.output)
  exact List.rel_append houtput (forall₂_of_targets h.errors)

end Document

/-! ## Elements -/

/-- The name of the member for the elements of a list, set or map. -/
def Shape.elementName (shape : Shape) : String :=
  if shape.type == .map then "value" else "member"

/-- The shape has a member for its elements if it has elements. -/
def Shape.HasElement (shape : Shape) : Prop :=
  shape.type ∈ [.list, .set, .map] → (shape.member? shape.elementName).isSome

/-- Every list, set and map has a member for its elements. -/
def Model.HasElements (model : Model) : Prop :=
  ∀ id shape, model.shape? id = some shape → shape.HasElement

/-- A list, set or map is read with the member for its elements. -/
theorem Document.hasElement_of_partsRead {fields : List (String × Json)} {found : Shape}
    (h : PartsRead (.obj fields) found) : found.HasElement := by
  intro hkind
  have hname : found.elementName ∈ found.members.map Member.name := by
    rw [map_name_members h, Shape.elementName]
    generalize found.type = type at hkind ⊢
    simp only [List.mem_cons, List.not_mem_nil, or_false] at hkind
    rcases hkind with rfl | rfl | rfl <;> simp [memberNodes, Entries.keys]
  obtain ⟨member, hmember, hname⟩ := List.mem_map.1 hname
  rw [Shape.member?, List.find?_isSome]
  exact ⟨member, hmember, by simpa using hname⟩

/-! ## Well-formed shapes -/

/-- Every trait has a namespace. -/
def Traits.AreQualified (traits : Traits) : Prop :=
  ∀ trait ∈ Entries.keys traits, '#' ∈ trait.toList

/-- The form of every shape that is read: ids are complete, traits have a namespace, and members
belong to the shape and are told apart by their names, which are fixed for lists, sets and maps. -/
structure Shape.IsWellFormed (shape : Shape) : Prop where
  id : shape.id.IsComplete
  targets : ∀ target ∈ shape.targets, target.IsComplete
  traits : shape.traits.AreQualified
  member_traits : ∀ member ∈ shape.members, member.traits.AreQualified
  container : ∀ member ∈ shape.members, member.container = shape.id
  nodup_names : (shape.members.map Member.name).Nodup
  list_names : shape.type ∈ [.list, .set] → shape.members.map Member.name = ["member"]
  map_names : shape.type = .map → shape.members.map Member.name = ["key", "value"]

namespace Document

variable {fields : List (String × Json)}

theorem areQualified_of_traits {node : Json} {found : Traits} (h : traits node = .ok found) :
    found.AreQualified := by
  obtain ⟨value, -, h⟩ := bind_eq_ok.1 h
  obtain ⟨entries, -, h⟩ := bind_eq_ok.1 h
  obtain rfl := pure_eq_ok.1 h
  intro trait htrait
  rw [Entries.keys_ofPairs, List.mem_eraseDups, Entries.keys, List.map_map] at htrait
  obtain ⟨entry, -, rfl⟩ := List.mem_map.1 htrait
  show '#' ∈ (traitId entry.1).toList
  unfold traitId
  split
  · rename_i hqualified
    simpa using hqualified
  · simp [Trait.builtin]

theorem isProper_valueAt (h : (Json.obj fields).IsProper) (key : String) :
    (valueAt fields key).IsProper := by
  rw [valueAt]
  cases hlookup : fields.lookup key with
  | none => exact .null
  | some value => exact h.of_mem (Entries.mem_of_lookup_eq_some hlookup)

theorem nodup_keys_fieldsOf {value : Json} (h : value.IsProper) :
    (Entries.keys (fieldsOf value)).Nodup := by
  cases value with
  | obj fields => exact h.nodup_keys
  | _ => exact List.nodup_nil

theorem nodup_keys_memberNodes (h : (Json.obj fields).IsProper) (type : ShapeType) :
    (Entries.keys (memberNodes fields type)).Nodup := by
  have hlisted := nodup_keys_fieldsOf (isProper_valueAt h "members")
  cases type with
  | struct => exact hlisted
  | union => exact hlisted
  | list => simp [memberNodes, Entries.keys]
  | set => simp [memberNodes, Entries.keys]
  | map => simp [memberNodes, Entries.keys]
  | _ => exact List.nodup_nil

/-- **A shape that is read is well-formed.** -/
theorem isWellFormed_of_partsRead {found : Shape} (h : PartsRead (.obj fields) found)
    (hid : found.id.IsComplete) (hproper : (Json.obj fields).IsProper) : found.IsWellFormed := by
  have hmembers := forall₂_of_members h.members
  have hread {member : Member} (hmember : member ∈ found.members) : ∃ entry : String × Json,
      Document.member found.id entry.1 entry.2 = .ok member := by
    obtain ⟨entry, -, hentry⟩ := exists_of_forall₂ hmembers.flip hmember
    exact ⟨entry, hentry⟩
  have hnames := map_name_members h
  refine ⟨hid, ?_, areQualified_of_traits h.traits, ?_, ?_, ?_, ?_, ?_⟩
  · -- A target is named by a reference, and only complete ids can be spelled.
    intro target htarget
    obtain ⟨reference, -, hreference⟩ := exists_of_forall₂ (forall₂_targets h).flip htarget
    exact hreference.2.isComplete
  · intro member hmember
    obtain ⟨entry, hentry⟩ := hread hmember
    exact areQualified_of_traits (member_eq_ok_iff.1 hentry).2.2
  · intro member hmember
    obtain ⟨entry, hentry⟩ := hread hmember
    exact (member_eq_ok_iff.1 hentry).1.2
  · rw [hnames]
    exact nodup_keys_memberNodes hproper found.type
  · intro htype
    rw [hnames]
    rcases (by simpa using htype : found.type = .list ∨ found.type = .set) with htype | htype <;>
      rw [htype] <;> rfl
  · intro htype
    rw [hnames, htype]
    rfl

/-- Only an object is read as a shape, of the type that it states. -/
theorem exists_of_partsRead {node : Json} {found : Shape} (h : PartsRead node found) :
    ∃ fields, node = .obj fields ∧ type? fields = some found.type := by
  obtain ⟨value, hvalue, -⟩ := bind_eq_ok.1 h.type
  obtain ⟨fields, hfields, -⟩ := bind_eq_ok.1 hvalue
  obtain rfl := entries_eq_ok.1 (mapError_eq_ok.1 hfields)
  exact ⟨fields, rfl, (reads_type found.id fields).2 found.type h.type⟩

theorem isProper_of_node? {document node : Json} {id : ShapeId} (hproper : document.IsProper)
    (h : node? document id = some node) : node.IsProper := by
  obtain ⟨fields, entries, entry, rfl, hentries, hentry, -, rfl⟩ := exists_of_node? h
  have hshapes := hproper.of_mem (Entries.mem_of_lookup_eq_some hentries)
  exact hshapes.of_mem hentry

/-- Every written id counts for some node, if not for its own. -/
theorem isSome_node? {document : Json} {id : ShapeId} {entry : String × Json}
    (hentry : entry ∈ nodes document) (hid : ShapeId.parse entry.1 = .ok id) :
    (node? document id).isSome := by
  rw [node?, Option.isSome_map, List.find?_isSome]
  exact ⟨entry, List.mem_reverse.2 hentry, by simpa using hid⟩

end Document

/-! ## Models -/

namespace Model

theorem isWellFormed_of_mem_prelude : ∀ entry ∈ prelude, entry.2.IsWellFormed := by
  intro entry hentry
  have hsimple : ∀ entry ∈ prelude, entry.2.id.IsComplete ∧ entry.2.type ∉ [.list, .set] ∧
      entry.2.type ≠ .map := by decide
  obtain ⟨hid, hlist, hmap⟩ := hsimple entry hentry
  obtain ⟨shape, -, rfl⟩ := List.mem_map.1 hentry
  refine ⟨hid, ?_, ?_, ?_, ?_, ?_, fun h => absurd h hlist, fun h => absurd h hmap⟩
  all_goals simp [Shape.targets, Traits.AreQualified, Entries.keys]

/-- **A model that was read from a document has a member for the elements of every list.** -/
theorem hasElements_of_ofDocument {document : Json} {model : Model}
    (h : ofDocument document = .ok model) : model.HasElements := by
  refine fun id shape hshape => forall_of_ofDocument Shape.HasElement h ?_ ?_ hshape
  · intro _ _ node found _ hfound
    obtain ⟨-, hparts⟩ := Document.partsRead_of_shape hfound
    obtain ⟨fields, rfl, -⟩ := Document.exists_of_partsRead hparts
    exact Document.hasElement_of_partsRead hparts
  · intro entry hentry hkind
    have hsimple : ∀ entry ∈ prelude, entry.2.type ∉ [.list, .set, .map] := by decide
    exact absurd hkind (hsimple entry hentry)

/-- **A model represents its document**, if no key stands twice in an object of the document, as in
all that is read from a text.  Every node of the document is read under its id, where of several with
one id the last counts.  Every shape of the model is well-formed: its id and its targets have a
namespace and a name, all traits have a namespace, its members are its own and differ in their names,
a list or set has the member `member` and a map has `key` and `value`.  And it has the type that its
node states and, in order, exactly the targets that the references of its node name, unless it is a
built-in shape that the document does not replace. -/
theorem ofDocument_represents {document : Json} {model : Model} (hproper : document.IsProper)
    (h : ofDocument document = .ok model) :
    (∀ entry ∈ Document.nodes document, ∃ id shape, ShapeId.parse entry.1 = .ok id ∧
      (Document.node? document id).isSome ∧ model.shape? id = some shape) ∧
    ∀ id shape, model.shape? id = some shape → shape.id = id ∧ shape.IsWellFormed ∧
      ((∃ fields, Document.node? document id = some (.obj fields) ∧
          Document.type? fields = some shape.type ∧
          List.Forall₂ Document.RefersTo (Document.references fields shape.type) shape.targets) ∨
        (Document.node? document id = none ∧ (id, shape) ∈ prelude)) := by
  constructor
  · -- The id of a node counts for this node or a later one, so the model holds a shape under it.
    intro entry hentry
    obtain ⟨shapes, metadata, -, hshapes⟩ := exists_shapes_of_ofDocument h
    obtain ⟨shape, -, hid, -⟩ := exists_of_forall₂ hshapes hentry
    have hcounts := Document.isSome_node? hentry hid
    rcases shape?_ofDocument h shape.id with ⟨node, read, hnode, hread, -⟩ | ⟨hnone, -⟩
    · exact ⟨shape.id, read, hid, hcounts, hread⟩
    · rw [hnone] at hcounts
      cases hcounts
  · intro id shape hshape
    refine ⟨id_eq_of_shape? hshape, ?_⟩
    rcases shape?_ofDocument h id with ⟨node, read, hnode, hread, hfound⟩ | ⟨hnone, hbuiltin⟩
    · obtain rfl := Option.some.inj (hshape.symm.trans hread)
      obtain ⟨rfl, hparts⟩ := Document.partsRead_of_shape hfound
      obtain ⟨fields, rfl, htype⟩ := Document.exists_of_partsRead hparts
      obtain ⟨-, -, entry, -, -, -, hid, -⟩ := Document.exists_of_node? hnode
      have hcomplete := (ShapeId.parse_eq_ok_iff.1 hid).isComplete
      have hwell := Document.isWellFormed_of_partsRead hparts hcomplete
        (Document.isProper_of_node? hproper hnode)
      exact ⟨hwell, .inl ⟨fields, hnode, htype, Document.forall₂_targets hparts⟩⟩
    · have hmem := Entries.mem_of_lookup_eq_some (hbuiltin ▸ hshape)
      exact ⟨isWellFormed_of_mem_prelude _ hmem, .inr ⟨hnone, hmem⟩⟩

namespace Museum

def exhibitNode : List (String × Json) :=
  [("type", .str "resource"), ("list", .obj [("target", .str "a#Visits")]),
    ("create", .str "a#Open"), ("operations", .arr [.obj [("target", .str "Rename")]]),
    ("collectionOperations", .arr [.str "a#Tour"]), ("resources", .arr [.str "a#Wing"]),
    ("errors", .arr [.str " a#Closed\n"]), ("traits", .obj [("title", .str "Exhibit")])]

def wingNode : List (String × Json) :=
  [("type", .str "list"), ("member", .obj [("target", .str "a#Exhibit")])]

/-- There are two nodes for the exhibit, the second of which counts. -/
def nodes : List (String × Json) :=
  [(" a#Exhibit", .obj [("type", .str "string")]), ("a#Wing", .obj wingNode),
    ("a#Exhibit", .obj exhibitNode)]

def document : Json :=
  .obj [("shapes", .obj nodes)]

def exhibit : Shape where
  id := { ns := "a", name := "Exhibit" }
  type := .resource
  traits := [("smithy.api#title", .str "Exhibit")]
  operations := [{ ns := "a", name := "Open" }, { ns := "a", name := "Visits" },
    { ns := "smithy.api", name := "Rename" }, { ns := "a", name := "Tour" }]
  resources := [{ ns := "a", name := "Wing" }]
  errors := [{ ns := "a", name := "Closed" }]

def wing : Shape :=
  let id : ShapeId := { ns := "a", name := "Wing" }
  { id
    type := .list
    members := [{ name := "member", container := id, target := exhibit.id }] }

def model : Model :=
  .ofShapes [{ id := exhibit.id, type := .string }, wing, exhibit]

theorem isProper_document : document.IsProper := by
  have hreference (id : String) : (Json.obj [("target", .str id)]).IsProper :=
    .obj (by simp [Entries.keys]) (by simpa using .str id)
  have hlist {item : Json} (hitem : item.IsProper) : (Json.arr [item]).IsProper :=
    .arr (by simpa using hitem)
  have htraits : (Json.obj [("title", .str "Exhibit")]).IsProper :=
    .obj (by decide) (by simpa using .str "Exhibit")
  have hexhibit : (Json.obj exhibitNode).IsProper := by
    refine .obj (by decide) ?_
    simp only [exhibitNode, List.forall_mem_cons]
    exact ⟨.str _, hreference _, .str _, hlist (hreference _), hlist (.str _), hlist (.str _),
      hlist (.str _), htraits, by simp⟩
  have hwing : (Json.obj wingNode).IsProper :=
    .obj (by decide) (by simpa [wingNode] using ⟨.str "list", hreference "a#Exhibit"⟩)
  have hstring : (Json.obj [("type", .str "string")]).IsProper :=
    .obj (by decide) (by simpa using .str "string")
  have hnodes : (Json.obj nodes).IsProper :=
    .obj (by decide) (by simpa [nodes] using ⟨hstring, hwing, hexhibit⟩)
  exact .obj (by decide) (by simpa using hnodes)

theorem ofDocument_document : Model.ofDocument document = .ok model :=
  rfl

end Museum

/-- A resource with operations of its life cycle, whose references are written in several ways. -/
theorem ofDocument_represents_exhibit :
    Museum.document.IsProper ∧ ofDocument Museum.document = .ok Museum.model ∧
      Museum.model.shape? Museum.exhibit.id = some Museum.exhibit ∧
      Museum.exhibit.IsWellFormed ∧
      List.Forall₂ Document.RefersTo
        [.str "a#Open", .obj [("target", .str "a#Visits")], .obj [("target", .str "Rename")],
          .str "a#Tour", .str "a#Wing", .str " a#Closed\n"] Museum.exhibit.targets := by
  have hshape : Museum.model.shape? Museum.exhibit.id = some Museum.exhibit := rfl
  have hnode : Document.node? Museum.document Museum.exhibit.id = some (.obj Museum.exhibitNode) :=
    rfl
  obtain ⟨-, hheld⟩ := ofDocument_represents Museum.isProper_document Museum.ofDocument_document
  obtain ⟨-, hwell, ⟨fields, hfields, -, htargets⟩ | ⟨hnone, -⟩⟩ := hheld _ _ hshape
  · obtain rfl := Json.obj.inj (Option.some.inj (hnode.symm.trans hfields))
    exact ⟨Museum.isProper_document, Museum.ofDocument_document, hshape, hwell, htargets⟩
  · cases hnode.symm.trans hnone

end Model

end ClientGen
