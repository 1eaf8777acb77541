import ClientGen.Proofs.Symbol.Failing
import Mathlib.Data.List.Chain

/-!
# Elements that come back to themselves

The search for the symbol of a shape goes from lists and sets to their members and from maps to
their values.  It has an end unless one of the shapes on its way comes back to itself by such steps,
since a model has finitely many shapes; the keys of maps and the members of structures are no such
steps.

## Main definitions

* `Model.ElementOf` — one step, from a list, a set or a map to its elements.
* `Model.Cyclic` — the steps from a shape come back to themselves.
* `Model.MissesTarget` — the steps from a shape lead to elements that the model does not hold.
* `Model.Endless` — no bound is large enough for the search from a shape.
* `Model.pruned` — the model without the keys of maps and the members of structures.

## Main results

* `Model.exists_endsAfter_of_not_cyclic` — a search that does not come back to itself ends.
* `Model.endless_iff_cyclic` — the search has no end exactly if it comes back to itself.
* `Model.symbolOf_of_elementOf` — the symbol of a shape is made from that of its elements.
* `Model.symbolOf_pruned` — keys of maps and members of structures do not matter.
-/

namespace ClientGen.Model

open Relation (ReflTransGen TransGen)

variable {model : Model} {modulePath : String} {shape element : Shape}

/-! ## Steps -/

/-- The second shape is that of the elements of the first, a list, a set or a map. -/
def ElementOf (model : Model) (shape element : Shape) : Prop :=
  shape.type ∈ [.list, .set, .map] ∧ ∃ member, shape.member? shape.elementName = some member ∧
    model.shape? member.target = some element

/-- From a shape, elements lead to a shape that comes back to itself by elements. -/
def Cyclic (model : Model) (shape : Shape) : Prop :=
  ∃ again, ReflTransGen model.ElementOf shape again ∧ TransGen model.ElementOf again again

/-- From a shape, elements lead to a list, a set or a map whose elements are not in the model. -/
def MissesTarget (model : Model) (shape : Shape) : Prop :=
  ∃ last, ReflTransGen model.ElementOf shape last ∧ last.type ∈ [.list, .set, .map] ∧
    ∃ member, last.member? last.elementName = some member ∧ model.shape? member.target = none

/-- The search for the symbol of a shape goes beyond every bound. -/
def Endless (model : Model) (modulePath : String) (shape : Shape) : Prop :=
  ∀ depth, model.symbolWithin modulePath depth shape = .error (.malformed .endless)

theorem ElementOf.shape?_eq (h : model.ElementOf shape element) :
    model.shape? element.id = some element := by
  obtain ⟨-, member, -, htarget⟩ := h
  rwa [id_eq_of_shape? htarget]

theorem ElementOf.unique {other : Shape} (h : model.ElementOf shape element)
    (h' : model.ElementOf shape other) : element = other := by
  obtain ⟨-, member, hmember, htarget⟩ := h
  obtain ⟨-, member', hmember', htarget'⟩ := h'
  obtain rfl := Option.some.inj (hmember.symm.trans hmember')
  exact Option.some.inj (htarget.symm.trans htarget')

theorem element_eq_ok_iff : shape.element model = .ok element ↔
    ∃ member, shape.member? shape.elementName = some member ∧
      model.shape? member.target = some element := by
  rw [Shape.element, ← Shape.elementName]
  cases shape.member? shape.elementName with
  | none => simp
  | some member => simp [expect_eq_ok]

/-- The search goes on with the elements. -/
theorem next?_eq_some_iff :
    model.next? modulePath shape = some element ↔ model.ElementOf shape element := by
  constructor
  · intro h
    obtain ⟨hown, helement⟩ := next?_eq_some h
    exact ⟨Shape.type_mem_of_ownSymbol?_eq_none hown, element_eq_ok_iff.1 helement⟩
  · rintro ⟨hkind, helement⟩
    rw [next?, ownSymbol?_eq_none_of_container (by simpa using hkind), element_eq_ok_iff.2 helement]

/-! ## Ends -/

theorem EndsAfter.of_elementOf {count : Nat} (h : model.EndsAfter modulePath count shape)
    (helement : model.ElementOf shape element) :
    ∃ fewer < count, model.EndsAfter modulePath fewer element := by
  have hnext : model.next? modulePath shape = some element := next?_eq_some_iff.2 helement
  cases count with
  | zero => exact absurd (hnext.symm.trans h) (by simp)
  | succ count =>
    obtain ⟨other, hother, hends⟩ := h
    obtain rfl := Option.some.inj (hnext.symm.trans hother)
    exact ⟨count, Nat.lt_succ_self count, hends⟩

theorem EndsAfter.of_reflTransGen {count : Nat} (h : model.EndsAfter modulePath count shape)
    {last : Shape} (hsteps : ReflTransGen model.ElementOf shape last) :
    ∃ fewer ≤ count, model.EndsAfter modulePath fewer last := by
  induction hsteps with
  | refl => exact ⟨count, Nat.le_refl count, h⟩
  | tail _ hstep ih =>
    obtain ⟨fewer, hle, hends⟩ := ih
    obtain ⟨least, hlt, hends⟩ := hends.of_elementOf hstep
    exact ⟨least, by omega, hends⟩

/-- A search that ends does not come back to itself: each time it would end sooner. -/
theorem EndsAfter.not_cyclic {count : Nat} (h : model.EndsAfter modulePath count shape) :
    ¬ model.Cyclic shape := by
  rintro ⟨again, hsteps, hagain⟩
  obtain ⟨fewer, -, hends⟩ := h.of_reflTransGen hsteps
  obtain ⟨next, hstep, hrest⟩ := TransGen.head'_iff.1 hagain
  obtain ⟨less, hlt, hends'⟩ := hends.of_elementOf hstep
  obtain ⟨least, hle, hends''⟩ := hends'.of_reflTransGen hrest
  have heq := hends.unique hends''
  omega

/-- Without an end, any number of elements follow one another. -/
theorem exists_isChain_of_not_endsAfter (h : ∀ count, ¬ model.EndsAfter modulePath count shape)
    (number : Nat) : ∃ passed : List Shape, passed.length = number ∧
      (shape :: passed).IsChain model.ElementOf := by
  induction number generalizing shape with
  | zero => exact ⟨[], rfl, List.isChain_singleton shape⟩
  | succ number ih =>
    cases hnext : model.next? modulePath shape with
    | none => exact absurd hnext (h 0)
    | some element =>
      obtain ⟨passed, hlength, hchain⟩ :=
        ih fun count hends => h (count + 1) ⟨element, hnext, hends⟩
      exact ⟨element :: passed, by rw [List.length_cons, hlength],
        List.isChain_cons_cons.2 ⟨next?_eq_some_iff.1 hnext, hchain⟩⟩

/-- Elements that follow one another without coming back are different shapes of the model. -/
theorem length_le_size_of_isChain {passed : List Shape}
    (hchain : (shape :: passed).IsChain model.ElementOf) (h : ¬ model.Cyclic shape) :
    passed.length ≤ model.size := by
  have hsteps : (shape :: passed).Pairwise (TransGen model.ElementOf) :=
    List.isChain_iff_pairwise.1 (hchain.imp fun _ _ => TransGen.single)
  obtain ⟨hfirst, hlater⟩ := List.pairwise_cons.1 hsteps
  have hshape : ∀ element ∈ passed, model.shape? element.id = some element := by
    intro element hmem
    obtain ⟨_, -, hstep⟩ := TransGen.tail'_iff.1 (hfirst element hmem)
    exact hstep.shape?_eq
  -- Two of them with one id would be one shape that comes back to itself.
  have hnodup : (passed.map Shape.id).Nodup := by
    refine List.pairwise_map.2 (hlater.imp_of_mem fun {a b} ha hb hab heq => ?_)
    have hsame : some a = some b := by rw [← hshape a ha, ← hshape b hb, heq]
    obtain rfl := Option.some.inj hsame
    exact h ⟨a, (hfirst a ha).to_reflTransGen, hab⟩
  have hsub : passed.map Shape.id ⊆ Entries.keys model.shapes := by
    intro id hid
    obtain ⟨element, hmem, rfl⟩ := List.mem_map.1 hid
    exact List.mem_map.2 ⟨_, shape?_eq_some_iff.1 (hshape element hmem), rfl⟩
  have hle := (List.subperm_of_subset hnodup hsub).length_le
  rwa [List.length_map, Entries.keys, List.length_map] at hle

/-- **A search that does not come back to itself ends.** -/
theorem exists_endsAfter_of_not_cyclic (modulePath : String) (h : ¬ model.Cyclic shape) :
    ∃ count, model.EndsAfter modulePath count shape := by
  by_contra hends
  obtain ⟨passed, hlength, hchain⟩ :=
    exists_isChain_of_not_endsAfter (not_exists.1 hends) (model.size + 1)
  have hle := length_le_size_of_isChain hchain h
  omega

theorem symbolOf_eq_endless_iff (hmodel : model.HasElements) (helement : shape.HasElement) :
    model.symbolOf modulePath shape = .error (.malformed .endless) ↔ model.Cyclic shape := by
  constructor
  · intro h
    by_contra hcyclic
    obtain ⟨count, hends⟩ := exists_endsAfter_of_not_cyclic modulePath hcyclic
    rcases symbolOf_eq_error hmodel helement h with ⟨_, h⟩ | ⟨_, h⟩ | h
    · cases h
    · cases h
    · exact h count hends
  · intro hcyclic
    exact symbolWithin_of_endless (fun count hends => hends.not_cyclic hcyclic) _

/-- **The search has no end exactly if it comes back to itself.** -/
theorem endless_iff_cyclic (hmodel : model.HasElements) (helement : shape.HasElement) :
    model.Endless modulePath shape ↔ model.Cyclic shape := by
  constructor
  · exact fun hendless => (symbolOf_eq_endless_iff hmodel helement).1 (hendless _)
  · exact fun hcyclic => symbolWithin_of_endless fun count hends => hends.not_cyclic hcyclic

/-! ## The symbol of a shape by that of its elements -/

/-- **The symbol of a shape is made from that of its elements.** -/
theorem symbolOf_of_elementOf (h : model.ElementOf shape element) :
    model.symbolOf modulePath shape = do
      let symbol ← model.symbolOf modulePath element
      return if shape.type == .map then .map symbol else .slice symbol := by
  have hbound : model.size < model.size + 1 + 1 := by omega
  rw [← symbolWithin_eq_symbolOf hbound, symbolWithin_of_next? (next?_eq_some_iff.2 h)]
  rfl

theorem symbolOf_of_ownSymbol? {symbol : Except Failure Symbol}
    (h : shape.ownSymbol? modulePath = some symbol) :
    model.symbolOf modulePath shape = symbol :=
  symbolWithin_of_ownSymbol? h

end ClientGen.Model

/-! ## Keys and members of structures -/

namespace ClientGen

/-- The shape without the members that are no elements. -/
def Shape.pruned (shape : Shape) : Shape :=
  { shape with
    members := if shape.type ∈ [.list, .set, .map]
      then shape.members.filter (·.name == shape.elementName) else [] }

namespace Model

/-- The model without the members that are no elements. -/
def pruned (model : Model) : Model where
  shapes := model.shapes.map fun entry => (entry.1, entry.2.pruned)
  metadata := model.metadata
  id_eq_of_mem := by
    intro entry hentry
    obtain ⟨found, hfound, rfl⟩ := List.mem_map.1 hentry
    exact model.id_eq_of_mem found hfound
  nodup_keys := by
    have hkeys : Entries.keys (model.shapes.map fun entry => (entry.1, entry.2.pruned))
        = Entries.keys model.shapes := by simp [Entries.keys, Function.comp_def]
    rw [hkeys]
    exact model.nodup_keys

variable {model : Model} {modulePath : String} {shape : Shape}

theorem size_pruned : model.pruned.size = model.size :=
  List.length_map ..

theorem shape?_pruned (id : ShapeId) :
    model.pruned.shape? id = (model.shape? id).map Shape.pruned := by
  have hlookup : ∀ entries : List (ShapeId × Shape),
      (entries.map fun entry => (entry.1, entry.2.pruned)).lookup id
        = (entries.lookup id).map Shape.pruned := by
    intro entries
    induction entries with
    | nil => rfl
    | cons entry rest ih =>
      rw [List.map_cons, List.lookup_cons, List.lookup_cons, ih]
      split <;> rfl
  exact hlookup model.shapes

theorem element_pruned (h : shape.type ∈ [.list, .set, .map]) :
    shape.pruned.element model.pruned = (shape.element model).map Shape.pruned := by
  have hmember : shape.pruned.member? shape.elementName = shape.member? shape.elementName := by
    rw [Shape.member?, Shape.member?, Shape.pruned, if_pos h, List.find?_filter]
    simp only [and_self, Bool.decide_eq_true]
  have hname : (if shape.pruned.type == .map then "value" else "member") = shape.elementName := rfl
  rw [Shape.element, Shape.element, hname, hmember, ← Shape.elementName]
  cases shape.member? shape.elementName with
  | none => rfl
  | some member =>
    dsimp only
    rw [expect, expect, shape?_pruned]
    cases model.shape? member.target <;> rfl

theorem ownSymbol?_pruned : shape.pruned.ownSymbol? modulePath = shape.ownSymbol? modulePath :=
  rfl

/-- **Keys of maps and members of structures do not matter** for the symbol of any shape. -/
theorem symbolOf_pruned (modulePath : String) (shape : Shape) :
    model.pruned.symbolOf modulePath shape.pruned = model.symbolOf modulePath shape := by
  have hwithin : ∀ depth shape, model.pruned.symbolWithin modulePath depth shape.pruned
      = model.symbolWithin modulePath depth shape := by
    intro depth
    induction depth with
    | zero => exact fun _ => rfl
    | succ depth ih =>
      intro shape
      rw [symbolWithin, symbolWithin, ownSymbol?_pruned]
      cases hown : shape.ownSymbol? modulePath with
      | some symbol => rfl
      | none =>
        rw [element_pruned (Shape.type_mem_of_ownSymbol?_eq_none hown)]
        cases shape.element model with
        | error failure => rfl
        | ok element => simp only [Except.map, bind, Except.bind, ih]; rfl
  rw [symbolOf, symbolOf, size_pruned, hwithin]

end Model

end ClientGen
