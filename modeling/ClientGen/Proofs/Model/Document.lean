import ClientGen.Model.Document
import ClientGen.Proofs.Agreement
import ClientGen.Proofs.Model.Closure
import ClientGen.Proofs.Model.Form
import ClientGen.Proofs.Shape.Id

/-!
# Models of documents

A document holds nodes of shapes under written ids.  Several texts can be read as one id, and of
their nodes the last counts; so a model that was read from a document holds under each id the shape
of one node, unless it is a built-in shape that no node replaces.  Ids are read from texts, so that
the parts of an id can be told from its text; those of a model that is put together by hand need not
be.

## Main definitions

* `Model.HasReadableIds` — every id is one that could be read from a text.
* `Document.PartsRead` — each part of a shape is what is read of a node.
* `Document.Holds` — a shape was read from a document.
* `Document.node?` — the node of a document that counts for an id.

## Main results

* `Document.partsRead_of_shape` — how a shape is read, part by part.
* `Model.shape?_ofDocument`, `Model.holds_or_mem_prelude` — where the shapes of a model that was read
  come from.
* `Document.members_of_shape` — the members of a structure or union.
* `Model.hasReadableIds_of_ofDocument` — a model that was read from a document has readable ids.
-/

namespace ClientGen

/-- Every id is one that could be read from a text. -/
def Model.HasReadableIds (model : Model) : Prop :=
  ∀ id shape, model.shape? id = some shape → shape.id.IsReadable

namespace Document

/-- A member is read of its node: its target first, then its traits. -/
theorem member_eq_ok_iff {container : ShapeId} {name : String} {node : Json} {found : Member} :
    member container name node = .ok found ↔
      (found.name = name ∧ found.container = container) ∧
        target node (container.withMember name) = .ok found.target ∧
        traits node = .ok found.traits := by
  simp only [member, bind_eq_ok, pure_eq_ok]
  constructor
  · rintro ⟨target, htarget, traits, htraits, rfl⟩
    exact ⟨⟨rfl, rfl⟩, htarget, htraits⟩
  · rintro ⟨⟨rfl, rfl⟩, htarget, htraits⟩
    exact ⟨_, htarget, _, htraits, rfl⟩

/-- Each part of the shape is what is read of the node. -/
structure PartsRead (node : Json) (found : Shape) : Prop where
  type : Document.type found.id node = .ok found.type
  members : Document.members found.type found.id node = .ok found.members
  operations : Document.operations found.type found.id node = .ok found.operations
  traits : Document.traits node = .ok found.traits
  resources : targets node "resources" found.id = .ok found.resources
  input : target? node "input" found.id = .ok found.input
  output : target? node "output" found.id = .ok found.output
  errors : targets node "errors" found.id = .ok found.errors

/-- **How a shape is read**, part by part. -/
theorem partsRead_of_shape {id : ShapeId} {node : Json} {found : Shape}
    (h : shape id node = .ok found) : found.id = id ∧ PartsRead node found := by
  simp only [shape, bind_eq_ok, pure_eq_ok] at h
  obtain ⟨type, htype, members, hmembers, operations, hoperations, traits, htraits, version, -,
    resources, hresources, input, hinput, output, houtput, errors, herrors, rfl⟩ := h
  exact ⟨rfl, htype, hmembers, hoperations, htraits, hresources, hinput, houtput, herrors⟩

theorem id_of_shape {id : ShapeId} {node : Json} {found : Shape} (h : shape id node = .ok found) :
    found.id = id :=
  (partsRead_of_shape h).1

/-- The shape was read from an entry among the shapes of the document. -/
def Holds (document : Json) (found : Shape) : Prop :=
  ∃ fields entries entry, document = .obj fields ∧ fields.lookup "shapes" = some (.obj entries) ∧
    entry ∈ entries ∧ ShapeId.read entry.1 = .ok found.id ∧ shape found.id entry.2 = .ok found

/-- The members of a structure or union are those that its node lists, in their order. -/
theorem members_of_shape {id : ShapeId} {node : Json} {found : Shape} (h : shape id node = .ok found)
    (haggregate : found.isAggregate = true) : ∃ fields,
      (do entriesOf (← part node "members")) = .ok fields ∧
      found.members.map Member.name = Entries.keys fields ∧
      ∀ member ∈ found.members, member.container = id := by
  obtain ⟨rfl, hparts⟩ := partsRead_of_shape h
  have hread := hparts.members
  have hmembers : (do entriesOf (← part node "members") : Except Failure _)
      >>= (fun fields => fields.mapM fun field => member found.id field.1 field.2)
        = .ok found.members := by
    unfold members at hread
    rcases (by simpa [Shape.isAggregate] using haggregate :
      found.type = .struct ∨ found.type = .union) with htype | htype <;>
      simpa [htype] using hread
  obtain ⟨fields, hfields, hmembers⟩ := bind_eq_ok.1 hmembers
  refine ⟨fields, hfields, ?_, ?_⟩
  · have hnames := (mapM_eq_ok.1 hmembers).imp fun _ _ hfield => (member_eq_ok_iff.1 hfield).1.1
    rw [← List.forall₂_eq_eq_eq, Entries.keys, List.forall₂_map_left_iff,
      List.forall₂_map_right_iff]
    exact hnames.flip
  · intro found hfound
    obtain ⟨field, -, hfield⟩ := exists_of_mem_mapM hmembers hfound
    exact (member_eq_ok_iff.1 hfield).1.2

/-! ## Nodes -/

/-- The nodes of shapes in a document, each under its written id. -/
def nodes (document : Json) : List (String × Json) :=
  fieldsOf (valueAt (fieldsOf document) "shapes")

/-- The node that counts for an id: of those under a text that is read as it, the last. -/
def node? (document : Json) (id : ShapeId) : Option Json :=
  ((nodes document).reverse.find? fun entry => ShapeId.parse entry.1 = .ok id).map Prod.snd

/-- The shapes of a document are read of its nodes, one by one. -/
theorem forall₂_of_shapes {fields : List (String × Json)} {found : List Shape}
    (h : shapes fields = .ok found) : List.Forall₂ (fun entry shape =>
      ShapeId.parse entry.1 = .ok shape.id ∧ Document.shape shape.id entry.2 = .ok shape)
      (nodes (.obj fields)) found := by
  have hnodes : fieldsOf ((fields.lookup "shapes").getD (.obj [])) = nodes (.obj fields) := by
    show _ = fieldsOf ((fields.lookup "shapes").getD .null)
    cases fields.lookup "shapes" <;> rfl
  unfold shapes at h
  rw [← hnodes]
  generalize (fields.lookup "shapes").getD (.obj []) = found' at h ⊢
  cases found' with
  | obj entries =>
    refine (mapM_eq_ok.1 h).imp fun entry shape hentry => ?_
    obtain ⟨id, hid, hshape⟩ := bind_eq_ok.1 hentry
    obtain rfl := id_of_shape hshape
    exact ⟨mapError_eq_ok.1 hid, hshape⟩
  | _ => cases h

/-- A node that counts stands in the document. -/
theorem exists_of_node? {document : Json} {id : ShapeId} {node : Json}
    (h : node? document id = some node) : ∃ fields entries entry, document = .obj fields ∧
      fields.lookup "shapes" = some (.obj entries) ∧ entry ∈ entries ∧
      ShapeId.parse entry.1 = .ok id ∧ entry.2 = node := by
  obtain ⟨entry, hentry, hnode⟩ := Option.map_eq_some_iff.1 h
  have hid : ShapeId.parse entry.1 = .ok id := by simpa using List.find?_some hentry
  have hmem : entry ∈ nodes document := List.mem_reverse.1 (List.mem_of_find?_eq_some hentry)
  obtain ⟨entries, hentries, hin⟩ := exists_of_mem_fieldsOf hmem
  cases document with
  | obj fields =>
    have hlookup : (fields.lookup "shapes").getD .null = .obj entries := hentries
    cases hshapes : fields.lookup "shapes" with
    | none => rw [hshapes] at hlookup; cases hlookup
    | some shapes =>
      rw [hshapes] at hlookup
      exact ⟨fields, entries, entry, rfl, by rw [hshapes, ← hlookup]; rfl, hin, hid, hnode⟩
  | _ => cases hentries

end Document

namespace Model

/-- The shapes of a model that was read are those of the document's nodes. -/
theorem exists_shapes_of_ofDocument {document : Json} {model : Model}
    (h : ofDocument document = .ok model) : ∃ shapes metadata, model = ofShapes shapes metadata ∧
      List.Forall₂ (fun entry shape => ShapeId.parse entry.1 = .ok shape.id ∧
        Document.shape shape.id entry.2 = .ok shape) (Document.nodes document) shapes := by
  unfold ofDocument at h
  split at h
  · obtain ⟨shapes, hshapes, h⟩ := bind_eq_ok.1 h
    obtain ⟨metadata, -, h⟩ := bind_eq_ok.1 h
    exact ⟨shapes, metadata, (pure_eq_ok.1 h).symm, Document.forall₂_of_shapes hshapes⟩
  · cases h

/-- **What a model holds under an id** is read of the node that counts for it, or built in. -/
theorem shape?_ofDocument {document : Json} {model : Model} (h : ofDocument document = .ok model)
    (id : ShapeId) :
    (∃ node shape, Document.node? document id = some node ∧ model.shape? id = some shape ∧
      Document.shape id node = .ok shape) ∨
    (Document.node? document id = none ∧ model.shape? id = prelude.lookup id) := by
  obtain ⟨shapes, metadata, rfl, hshapes⟩ := exists_shapes_of_ofDocument h
  have hheld : (ofShapes shapes metadata).shape? id
      = (shapes.reverse.find? (·.id == id)).or (prelude.lookup id) := by
    rw [shape?, ofShapes, Entries.lookup_putAll, List.lookup_append, ← List.map_reverse,
      lookup_map_self]
  -- The last node of an id and the last shape of it stand at the same place.
  have hfound := rel_find? (p := fun entry => ShapeId.parse entry.1 = .ok id) (q := (·.id == id))
    (List.forall₂_reverse_iff.2 hshapes) fun entry shape hread => by
      rw [hread.1, beq_eq_decide]
      simp
  rw [hheld, Document.node?]
  generalize (Document.nodes _).reverse.find? _ = entry at hfound ⊢
  generalize hlast : shapes.reverse.find? (·.id == id) = found at hfound ⊢
  cases hfound with
  | none => exact .inr ⟨rfl, rfl⟩
  | @some entry shape hread =>
    obtain rfl : shape.id = id := by simpa using List.find?_some hlast
    exact .inl ⟨entry.2, shape, rfl, rfl, hread.2⟩

/-- **Where the shapes of a model come from**: each was read from the document, or is built in. -/
theorem holds_or_mem_prelude {document : Json} {model : Model} (h : ofDocument document = .ok model)
    {id : ShapeId} {shape : Shape} (hshape : model.shape? id = some shape) :
    Document.Holds document shape ∨ (id, shape) ∈ prelude := by
  rcases shape?_ofDocument h id with ⟨node, read, hnode, hread, hfound⟩ | ⟨-, hbuiltin⟩
  · obtain rfl := Option.some.inj (hshape.symm.trans hread)
    obtain rfl := Document.id_of_shape hfound
    obtain ⟨fields, entries, entry, hfields, hentries, hmem, hid, rfl⟩ :=
      Document.exists_of_node? hnode
    exact .inl ⟨fields, entries, entry, hfields, hentries, hmem, mapError_eq_ok.2 hid, hfound⟩
  · exact .inr (Entries.mem_of_lookup_eq_some (hbuiltin ▸ hshape))

/-- A structure or union is never built in. -/
theorem holds_of_isAggregate {document : Json} {model : Model} (h : ofDocument document = .ok model)
    {id : ShapeId} {shape : Shape} (hshape : model.shape? id = some shape)
    (haggregate : shape.isAggregate = true) : Document.Holds document shape := by
  have hsimple : ∀ entry ∈ prelude, entry.2.isAggregate = false := by decide
  rcases holds_or_mem_prelude h hshape with hholds | hmem
  · exact hholds
  · rw [hsimple _ hmem] at haggregate
    exact Bool.noConfusion haggregate

/-- What holds for every shape that is read, and for the built-in ones, holds for the shapes of a
model that was read from a document. -/
theorem forall_of_ofDocument (P : Shape → Prop) {document : Json} {model : Model}
    (h : ofDocument document = .ok model)
    (hread : ∀ written id node found, ShapeId.read written = .ok id →
      Document.shape id node = .ok found → P found)
    (hprelude : ∀ entry ∈ prelude, P entry.2) {id : ShapeId} {shape : Shape}
    (hshape : model.shape? id = some shape) : P shape := by
  rcases holds_or_mem_prelude h hshape with ⟨_, _, entry, -, -, -, hid, hfound⟩ | hmem
  · exact hread _ _ _ _ hid hfound
  · exact hprelude _ hmem

/-- **A model that was read from a document has readable ids.** -/
theorem hasReadableIds_of_ofDocument {document : Json} {model : Model}
    (h : ofDocument document = .ok model) : model.HasReadableIds := by
  refine fun id shape hshape => forall_of_ofDocument (·.id.IsReadable) h ?_ ?_ hshape
  · intro written id node found hid hfound
    rw [Document.id_of_shape hfound]
    exact ShapeId.isReadable_of_parse (mapError_eq_ok.1 hid)
  · decide

end Model

end ClientGen
