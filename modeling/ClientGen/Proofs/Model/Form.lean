import ClientGen.Model.Document
import ClientGen.Proofs.Success

/-!
# The form of model documents

A document is read as it comes: a node that must be an object is used as one without a look at it.
So the faults of a document are of two kinds.  Some have words, such as an unknown type or a missing
target.  Others are nodes of a kind that has no use where they stand, and reading breaks off at them
without words.  A document without such nodes has a form that does not depend on what its texts
mean, and reading is a check of that form: it breaks off in the second way only where the form is
violated, and whatever it brings to an end has the form.

## Main definitions

* `Document.IsShape`, `Document.IsDocument` — every node is of a kind that can be read where it
  stands.
* `Document.Reads` — a computation that is a check of a form.

## Main results

* `Document.Reads.bind`, `Document.Reads.mapM` — checks one after another check all their forms.
* `Document.reads_shape` — reading a shape checks the form of its node.
* `Document.reads_ofDocument` — reading a document checks its form.
-/

namespace ClientGen.Document

/-! ## Forms -/

/-- The value of a key; null if there is none. -/
def valueAt (fields : List (String × Json)) (key : String) : Json :=
  (fields.lookup key).getD .null

/-- The entries of an object; what is no object has none. -/
def fieldsOf : Json → List (String × Json)
  | .obj fields => fields
  | _ => []

theorem exists_of_mem_fieldsOf {value : Json} {entry : String × Json} (h : entry ∈ fieldsOf value) :
    ∃ fields, value = .obj fields ∧ entry ∈ fields := by
  cases value with
  | obj fields => exact ⟨fields, rfl, h⟩
  | _ => cases h

/-- An object, if anything. -/
def IsEntries (value : Json) : Prop :=
  value.truthy = true → ∃ fields, value = .obj fields

/-- Something with elements, if anything. -/
def IsElements (value : Json) : Prop :=
  value.truthy = true → ∃ elements, value.elements = .ok elements

/-- Something that can be read as a dictionary, if anything. -/
def IsDictionary (value : Json) : Prop :=
  value.truthy = true → ∃ entries, value.dictionary = .ok entries

/-- A node of a member. -/
def IsMember (node : Json) : Prop :=
  ∃ fields, node = .obj fields ∧ IsEntries (valueAt fields "traits")

/-- A node with the members that a shape of a type has. -/
def HasMembers (fields : List (String × Json)) : ShapeType → Prop
  | .struct | .union => IsEntries (valueAt fields "members") ∧
    ∀ entries, valueAt fields "members" = .obj entries → ∀ entry ∈ entries, IsMember entry.2
  | .list | .set => (valueAt fields "member").truthy = true → IsMember (valueAt fields "member")
  | .map => ((valueAt fields "key").truthy = true → IsMember (valueAt fields "key")) ∧
    ((valueAt fields "value").truthy = true → IsMember (valueAt fields "value"))
  | _ => True

/-- The keys under which a shape of a type lists other shapes. -/
def referenceKeys (type : ShapeType) : List String :=
  ["operations", "resources", "errors"]
    ++ if type == .resource then ["collectionOperations"] else []

/-- The type that a node states. -/
def type? (fields : List (String × Json)) : Option ShapeType :=
  (valueAt fields "type").text?.bind ShapeType.ofName?

/-- A node of a shape of a type. -/
structure HasForm (fields : List (String × Json)) (type : ShapeType) : Prop where
  members : HasMembers fields type
  traits : IsEntries (valueAt fields "traits")
  references : ∀ key ∈ referenceKeys type, IsElements (valueAt fields key)

/-- A node of a shape.  If it does not state a type, no more is known of its form. -/
def IsShape (node : Json) : Prop :=
  ∃ fields, node = .obj fields ∧ ∀ type, type? fields = some type → HasForm fields type

/-- A document in which every node is of a kind that can be read where it stands. -/
structure IsDocument (fields : List (String × Json)) : Prop where
  shapes : ∀ entries, (fields.lookup "shapes").getD (.obj []) = .obj entries →
    ∀ entry ∈ entries, IsShape entry.2
  metadata : IsDictionary (valueAt fields "metadata")

/-! ## Checks -/

/-- A computation that checks a form: a result has it, and what fails without words has not. -/
inductive Reads {α : Type} (form : Prop) : Except Failure α → Prop
  | ok (h : form) (a : α) : Reads form (.ok a)
  | model (fault : ModelFault) : Reads form (.error (.model fault))
  | malformed (h : ¬ form) (value : Malformed) : Reads form (.error (.malformed value))

namespace Reads

variable {α β : Type} {form other : Prop} {x : Except Failure α} {f : α → Except Failure β}

theorem of_iff (h : Reads form x) (hiff : form ↔ other) : Reads other x := by
  cases h with
  | ok h a => exact .ok (hiff.1 h) a
  | model fault => exact .model fault
  | malformed h value => exact .malformed (fun hother => h (hiff.2 hother)) value

/-- One check after another. -/
theorem bind (hx : Reads form x) (hf : ∀ a, x = .ok a → Reads other (f a)) :
    Reads (form ∧ other) (x >>= f) := by
  cases hx with
  | model fault => exact .model fault
  | malformed h value => exact .malformed (fun hboth => h hboth.1) value
  | ok h a => exact (hf a rfl).of_iff ⟨fun hother => ⟨h, hother⟩, And.right⟩

/-- A check whose result is changed. -/
theorem map (hx : Reads form x) (g : α → β) : Reads form (x >>= fun a => pure (g a)) := by
  cases hx with
  | model fault => exact .model fault
  | malformed h value => exact .malformed h value
  | ok h a => exact .ok h (g a)

/-- Checks of all elements of a list. -/
theorem mapM {γ : Type} {forms : γ → Prop} {f : γ → Except Failure β} {xs : List γ}
    (h : ∀ c ∈ xs, Reads (forms c) (f c)) : Reads (∀ c ∈ xs, forms c) (xs.mapM f) := by
  induction xs with
  | nil => exact .ok (by simp) []
  | cons c rest ih =>
    obtain ⟨hc, hrest⟩ := List.forall_mem_cons.1 h
    rw [List.mapM_cons]
    exact (hc.bind fun b _ => (ih hrest).map (b :: ·)).of_iff List.forall_mem_cons.symm

/-- A use of a value that may be left out. -/
theorem optional (value : Json) (use : Except Malformed α) (empty : α) :
    Reads (value.truthy = true → ∃ a, use = .ok a)
      (if value.truthy then formed use else .ok empty) := by
  split
  · rename_i htruthy
    cases use with
    | ok a => exact .ok (fun _ => ⟨a, rfl⟩) a
    | error fault => exact .malformed (fun h => by simpa using h htruthy) fault
  · rename_i hempty
    exact .ok (fun htruthy => absurd htruthy hempty) empty

end Reads

/-! ## Values -/

variable {fields : List (String × Json)}

theorem part_obj (fields : List (String × Json)) (key : String) :
    part (.obj fields) key = .ok (valueAt fields key) := rfl

theorem entries_eq_ok {value : Json} : value.entries = .ok fields ↔ value = .obj fields := by
  cases value <;> simp [Json.entries]

theorem reads_entriesOf (value : Json) : Reads (IsEntries value) (entriesOf value) := by
  refine (Reads.optional value value.entries []).of_iff ?_
  simp only [entries_eq_ok, IsEntries]

/-- What is read are the entries, and nothing where nothing is given. -/
theorem eq_fieldsOf_of_entriesOf {value : Json} (h : entriesOf value = .ok fields) :
    fields = fieldsOf value := by
  unfold entriesOf at h
  split at h
  · rw [entries_eq_ok.1 (mapError_eq_ok.1 h)]
    rfl
  · rename_i hempty
    obtain rfl := Except.ok.inj h
    cases value with
    | obj fields => simpa [Json.truthy, fieldsOf] using hempty
    | _ => rfl

/-- What holds of all entries that are read holds of all that are given. -/
theorem forall_mem_entriesOf {value : Json} (h : entriesOf value = .ok fields)
    (p : String × Json → Prop) : (∀ entry ∈ fields, p entry) ↔
      ∀ entries, value = .obj entries → ∀ entry ∈ entries, p entry := by
  rw [eq_fieldsOf_of_entriesOf h]
  constructor
  · rintro hall entries rfl
    exact hall
  · intro hall entry hentry
    obtain ⟨entries, hvalue, hentry⟩ := exists_of_mem_fieldsOf hentry
    exact hall entries hvalue entry hentry

theorem reads_elementsOf (value : Json) : Reads (IsElements value) (elementsOf value) :=
  .optional value value.elements []

theorem reads_id (written : String) (fallback : Option String) :
    Reads True (ShapeId.read written fallback) := by
  unfold ShapeId.read
  cases ShapeId.parse written fallback with
  | ok id => exact .ok trivial id
  | error fault => exact .model _

/-! ## References -/

/-- The value that spells the id: the one under `target`, or else the reference itself. -/
def spelling : Json → Json
  | .obj fields => valueAt fields "target"
  | reference => reference

/-- A reference is read by what it spells; if that counts for nothing, it has no target. -/
theorem target_eq (reference : Json) (owner : ShapeId) :
    target reference owner = if (spelling reference).truthy then
      ShapeId.read (spelling reference).text (some Trait.prelude)
      else .error (.model (.targetMissing owner)) := by
  cases reference <;> rfl

theorem reads_target (reference : Json) (owner : ShapeId) :
    Reads True (target reference owner) := by
  rw [target_eq]
  split
  · exact reads_id _ _
  · exact .model _

theorem reads_targets (fields : List (String × Json)) (key : String) (owner : ShapeId) :
    Reads (IsElements (valueAt fields key)) (targets (.obj fields) key owner) := by
  have hall (elements : List Json) : Reads True (elements.mapM (target · owner)) :=
    (Reads.mapM fun reference _ => reads_target reference owner).of_iff (by simp)
  exact ((reads_elementsOf (valueAt fields key)).bind fun elements _ => hall elements).of_iff
    (and_iff_left trivial)

theorem reads_target? (fields : List (String × Json)) (key : String) (owner : ShapeId) :
    Reads True (target? (.obj fields) key owner) := by
  unfold target?
  rw [part_obj]
  show Reads True (if (valueAt fields key).truthy then _ else _)
  split
  · exact (reads_target _ owner).map some
  · exact .ok trivial none

/-! ## Members -/

theorem reads_traits (fields : List (String × Json)) :
    Reads (IsEntries (valueAt fields "traits")) (traits (.obj fields)) :=
  (reads_entriesOf (valueAt fields "traits")).map _

theorem reads_member (container : ShapeId) (name : String) (node : Json) :
    Reads (IsMember node) (member container name node) := by
  have htraits : Reads (IsMember node) (traits node) := by
    cases node with
    | obj fields =>
      refine (reads_traits fields).of_iff ⟨fun h => ⟨fields, rfl, h⟩, ?_⟩
      rintro ⟨_, heq, h⟩
      exact Json.obj.inj heq ▸ h
    | _ => exact .malformed (fun ⟨_, heq, _⟩ => by cases heq) _
  refine ((reads_target node (container.withMember name)).bind fun target _ => ?_).of_iff
    (and_iff_right trivial)
  exact htraits.map fun traits => ({ name, container, target, traits } : Member)

theorem reads_memberAt (container : ShapeId) (name : String) (fields : List (String × Json)) :
    Reads ((valueAt fields name).truthy = true → IsMember (valueAt fields name))
      (memberAt container name (.obj fields)) := by
  show Reads _ (member container name
    (if (valueAt fields name).truthy then valueAt fields name else .obj []))
  split
  · rename_i htruthy
    exact (reads_member container name _).of_iff ⟨fun h _ => h, fun h => h htruthy⟩
  · rename_i hfalsy
    have hempty : IsMember (.obj []) := ⟨[], rfl, fun h => by cases h⟩
    exact (reads_member container name _).of_iff
      ⟨fun _ htruthy => absurd htruthy hfalsy, fun _ => hempty⟩

/-- The entries of a structure or union. -/
theorem reads_entries (id : ShapeId) (fields : List (String × Json)) :
    Reads (HasMembers fields .struct) (do
      (← entriesOf (valueAt fields "members")).mapM fun field => member id field.1 field.2) := by
  refine (reads_entriesOf (valueAt fields "members")).bind fun entries hentries => ?_
  exact (Reads.mapM fun entry _ => reads_member id entry.1 entry.2).of_iff
    (forall_mem_entriesOf hentries fun entry => IsMember entry.2)

theorem reads_members (type : ShapeType) (id : ShapeId) (fields : List (String × Json)) :
    Reads (HasMembers fields type) (members type id (.obj fields)) := by
  cases type with
  | struct => exact reads_entries id fields
  | union => exact reads_entries id fields
  | list => exact (reads_memberAt id "member" fields).map fun member => [member]
  | set => exact (reads_memberAt id "member" fields).map fun member => [member]
  | map =>
    exact (reads_memberAt id "key" fields).bind fun key _ =>
      (reads_memberAt id "value" fields).map fun value => [key, value]
  | _ => exact .ok trivial []

/-! ## Shapes -/

theorem reads_lifecycle (id : ShapeId) (fields : List (String × Json)) :
    Reads True (lifecycle id (.obj fields)) :=
  (Reads.mapM fun reference _ => reads_target reference id).of_iff (by simp)

theorem reads_operations (type : ShapeType) (id : ShapeId) (fields : List (String × Json)) :
    Reads (IsElements (valueAt fields "operations") ∧
        (type = .resource → IsElements (valueAt fields "collectionOperations")))
      (operations type id (.obj fields)) := by
  refine (reads_targets fields "operations" id).bind fun bound _ => ?_
  by_cases htype : type = .resource
  · subst htype
    refine ((reads_lifecycle id fields).bind fun lifecycle _ =>
      (reads_targets fields "collectionOperations" id).map fun found =>
        lifecycle ++ bound ++ found).of_iff ?_
    simp
  · rw [if_neg (by simpa using htype)]
    exact .ok (fun h => absurd h htype) bound

theorem reads_type (id : ShapeId) (fields : List (String × Json)) :
    Reads True (type id (.obj fields)) ∧
      ∀ found, type id (.obj fields) = .ok found → type? fields = some found := by
  cases hstated : type? fields with
  | some stated =>
    have heq : type id (.obj fields) = .ok stated := by
      unfold type? at hstated
      simp [type, part_obj, hstated, bind, Except.bind, pure, Except.pure]
    rw [heq]
    exact ⟨.ok trivial stated, fun found h => congrArg some (Except.ok.inj h)⟩
  | none =>
    have heq : type id (.obj fields)
        = .error (.model (.typeUnknown (valueAt fields "type") id)) := by
      unfold type? at hstated
      simp [type, part_obj, hstated, bind, Except.bind, throw_eq_error]
    rw [heq]
    exact ⟨.model _, fun found h => by cases h⟩

theorem forall_referenceKeys {type : ShapeType} {p : String → Prop} :
    (∀ key ∈ referenceKeys type, p key) ↔
      (p "operations" ∧ (type = .resource → p "collectionOperations")) ∧ p "resources" ∧
        p "errors" := by
  unfold referenceKeys
  by_cases htype : type = .resource
  · simp [htype]
    tauto
  · simp [htype]

/-- **Reading a shape checks the form of its node.** -/
theorem reads_shape (id : ShapeId) (node : Json) : Reads (IsShape node) (shape id node) := by
  cases node with
  | obj fields =>
    have hshape : IsShape (.obj fields) ↔
        True ∧ ∀ type, type? fields = some type → HasForm fields type := by
      refine ⟨?_, fun h => ⟨fields, rfl, h.2⟩⟩
      rintro ⟨_, heq, hform⟩
      exact ⟨trivial, Json.obj.inj heq ▸ hform⟩
    refine ((reads_type id fields).1.bind fun type htype => ?_).of_iff hshape.symm
    have hform : (HasMembers fields type ∧ (IsElements (valueAt fields "operations") ∧
          (type = .resource → IsElements (valueAt fields "collectionOperations"))) ∧
          IsEntries (valueAt fields "traits") ∧ True ∧ IsElements (valueAt fields "resources") ∧
          True ∧ True ∧ IsElements (valueAt fields "errors")) ↔
        ∀ type, type? fields = some type → HasForm fields type := by
      rw [(reads_type id fields).2 type htype]
      constructor
      · rintro ⟨hmembers, hoperations, htraits, -, hresources, -, -, herrors⟩ _ heq
        obtain rfl := Option.some.inj heq
        refine ⟨hmembers, htraits, forall_referenceKeys.2 ?_⟩
        exact ⟨hoperations, hresources, herrors⟩
      · intro h
        obtain ⟨hmembers, htraits, hreferences⟩ := h type rfl
        obtain ⟨hoperations, hresources, herrors⟩ := forall_referenceKeys.1 hreferences
        exact ⟨hmembers, hoperations, htraits, trivial, hresources, trivial, trivial, herrors⟩
    refine ((reads_members type id fields).bind fun members _ => ?_).of_iff hform
    refine (reads_operations type id fields).bind fun operations _ => ?_
    refine (reads_traits fields).bind fun traits _ => ?_
    refine Reads.bind (.ok trivial (valueAt fields "version")) fun version _ => ?_
    refine (reads_targets fields "resources" id).bind fun resources _ => ?_
    refine (reads_target? fields "input" id).bind fun input _ => ?_
    refine (reads_target? fields "output" id).bind fun output _ => ?_
    exact (reads_targets fields "errors" id).map fun errors => ({
      id, type, traits, members, version, operations, resources, input, output, errors } : Shape)
  | _ => exact .malformed (fun ⟨_, heq, _⟩ => by cases heq) _

theorem reads_shapes (fields : List (String × Json)) :
    Reads (∀ entries, (fields.lookup "shapes").getD (.obj []) = .obj entries →
      ∀ entry ∈ entries, IsShape entry.2) (shapes fields) := by
  have hentry (entry : String × Json) :
      Reads (IsShape entry.2) (do shape (← ShapeId.read entry.1) entry.2) :=
    ((reads_id entry.1 none).bind fun id _ => reads_shape id entry.2).of_iff (and_iff_right trivial)
  unfold shapes
  cases (fields.lookup "shapes").getD (.obj []) with
  | obj entries => exact (Reads.mapM fun entry _ => hentry entry).of_iff (by simp)
  | _ => exact .model _

theorem reads_metadata (fields : List (String × Json)) :
    Reads (IsDictionary (valueAt fields "metadata")) (metadata fields) :=
  .optional _ (valueAt fields "metadata").dictionary []

/-- **Reading a document checks its form.** -/
theorem reads_ofDocument (fields : List (String × Json)) :
    Reads (IsDocument fields) (Model.ofDocument (.obj fields)) := by
  refine ((reads_shapes fields).bind fun shapes _ =>
    (reads_metadata fields).map fun metadata => Model.ofShapes shapes metadata).of_iff ?_
  exact ⟨fun h => ⟨h.1, h.2⟩, fun h => ⟨h.shapes, h.metadata⟩⟩

end ClientGen.Document
