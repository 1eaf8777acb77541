import ClientGen.Proofs.Model.Closure
import ClientGen.Symbol.OfShape
import Mathlib.Data.List.Perm.Subperm

/-!
# The bound of the search for a symbol

The symbol of a list or map is made from that of its elements, and the search for it is bounded by
the size of the model.  The bound loses nothing: elements that are found one after another before
the search ends are different shapes of the model, so there are no more of them than shapes, and
elements that come back to themselves have no symbol within any bound.

## Main definitions

* `Model.EndsAfter` — the search passes a number of elements and then ends.

## Main results

* `Model.symbolWithin_eq_symbolOf` — beyond the size of the model the bound does not matter.
-/

namespace ClientGen.Model

variable {model : Model} {modulePath : String} {shape : Shape}

/-- The element that the search for a symbol goes on with, if it goes on. -/
def next? (model : Model) (modulePath : String) (shape : Shape) : Option Shape :=
  match shape.ownSymbol? modulePath, shape.element model with
  | none, .ok element => some element
  | _, _ => none

/-- The search for a symbol passes a number of elements and then ends. -/
def EndsAfter (model : Model) (modulePath : String) : Nat → Shape → Prop
  | 0, shape => model.next? modulePath shape = none
  | count + 1, shape =>
    ∃ element, model.next? modulePath shape = some element ∧
      EndsAfter model modulePath count element

theorem next?_eq_some {element : Shape} (h : model.next? modulePath shape = some element) :
    shape.ownSymbol? modulePath = none ∧ shape.element model = .ok element := by
  unfold next? at h
  split at h
  · rename_i hown helement
    exact ⟨hown, Option.some.inj h ▸ helement⟩
  · simp at h

/-- The search finds what the model holds. -/
theorem shape?_of_next? {element : Shape} (h : model.next? modulePath shape = some element) :
    model.shape? element.id = some element := by
  have helement := (next?_eq_some h).2
  unfold Shape.element at helement
  split at helement
  · have hshape := expect_eq_ok.1 helement
    rwa [id_eq_of_shape? hshape]
  · simp at helement

theorem symbolWithin_of_next? {element : Shape} (h : model.next? modulePath shape = some element)
    (bound : Nat) :
    model.symbolWithin modulePath (bound + 1) shape = do
      let symbol ← model.symbolWithin modulePath bound element
      return if shape.type == .map then .map symbol else .slice symbol := by
  obtain ⟨hown, helement⟩ := next?_eq_some h
  rw [symbolWithin, hown, helement]
  rfl

theorem symbolWithin_of_next?_eq_none (h : model.next? modulePath shape = none) (bound : Nat) :
    model.symbolWithin modulePath (bound + 1) shape = model.symbolWithin modulePath 1 shape := by
  unfold next? at h
  rw [symbolWithin, symbolWithin]
  cases hown : shape.ownSymbol? modulePath with
  | some symbol => rfl
  | none =>
    cases helement : shape.element model with
    | ok element => simp [hown, helement] at h
    | error failure => rfl

theorem EndsAfter.symbolWithin {count : Nat} (h : model.EndsAfter modulePath count shape)
    (more : Nat) : model.symbolWithin modulePath (count + 1 + more) shape
      = model.symbolWithin modulePath (count + 1) shape := by
  induction count generalizing shape with
  | zero =>
    rw [Nat.zero_add, Nat.add_comm]
    exact symbolWithin_of_next?_eq_none h more
  | succ count ih =>
    obtain ⟨element, hnext, hends⟩ := h
    rw [Nat.add_right_comm, symbolWithin_of_next? hnext, symbolWithin_of_next? hnext, ih hends]

/-- Without an end there is no symbol within any bound. -/
theorem symbolWithin_of_endless (h : ∀ count, ¬ model.EndsAfter modulePath count shape)
    (bound : Nat) : model.symbolWithin modulePath bound shape = .error (.malformed .endless) := by
  induction bound generalizing shape with
  | zero => rfl
  | succ bound ih =>
    cases hnext : model.next? modulePath shape with
    | none => exact absurd hnext (h 0)
    | some element =>
      rw [symbolWithin_of_next? hnext, ih fun count hends => h (count + 1) ⟨element, hnext, hends⟩]
      rfl

theorem EndsAfter.unique {count count' : Nat} (h : model.EndsAfter modulePath count shape)
    (h' : model.EndsAfter modulePath count' shape) : count = count' := by
  induction count generalizing count' shape with
  | zero =>
    cases count' with
    | zero => rfl
    | succ count' =>
      obtain ⟨element, hnext, -⟩ := h'
      simp [EndsAfter, hnext] at h
  | succ count ih =>
    obtain ⟨element, hnext, hends⟩ := h
    cases count' with
    | zero => simp [EndsAfter, hnext] at h'
    | succ count' =>
      obtain ⟨other, hother, hends'⟩ := h'
      obtain rfl := Option.some.inj (hnext.symm.trans hother)
      rw [ih hends hends']

/-- The elements that are passed are different shapes of the model. -/
theorem EndsAfter.exists_ids {count : Nat} (h : model.EndsAfter modulePath count shape) :
    ∃ ids : List ShapeId, ids.length = count ∧ ids.Nodup ∧ ∀ id ∈ ids, ∃ element,
      model.shape? id = some element ∧
        ∃ fewer < count, model.EndsAfter modulePath fewer element := by
  induction count generalizing shape with
  | zero => exact ⟨[], rfl, List.nodup_nil, by simp⟩
  | succ count ih =>
    obtain ⟨element, hnext, hends⟩ := h
    obtain ⟨ids, hlength, hnodup, hids⟩ := ih hends
    have hshape := shape?_of_next? hnext
    -- The search from a later element ends sooner, so the first element is none of the later ones.
    have hnew : element.id ∉ ids := by
      intro hmem
      obtain ⟨other, hother, fewer, hfewer, hends'⟩ := hids _ hmem
      obtain rfl := Option.some.inj (hshape.symm.trans hother)
      exact absurd (hends.unique hends') (by omega)
    refine ⟨element.id :: ids, by simp [hlength], List.nodup_cons.2 ⟨hnew, hnodup⟩, ?_⟩
    intro id hid
    rcases List.mem_cons.1 hid with rfl | hid
    · exact ⟨element, hshape, count, Nat.lt_succ_self count, hends⟩
    · obtain ⟨other, hother, fewer, hfewer, hends'⟩ := hids id hid
      exact ⟨other, hother, fewer, by omega, hends'⟩

theorem EndsAfter.le_size {count : Nat} (h : model.EndsAfter modulePath count shape) :
    count ≤ model.size := by
  obtain ⟨ids, hlength, hnodup, hids⟩ := h.exists_ids
  have hsub : ids ⊆ Entries.keys model.shapes := by
    intro id hid
    obtain ⟨element, helement, -⟩ := hids id hid
    exact List.mem_map.2 ⟨_, shape?_eq_some_iff.1 helement, rfl⟩
  have hle := (List.subperm_of_subset hnodup hsub).length_le
  rwa [hlength, Entries.keys, List.length_map] at hle

/-- **Beyond the size of the model the bound does not matter.** -/
theorem symbolWithin_eq_symbolOf {bound : Nat} (hbound : model.size < bound) :
    model.symbolWithin modulePath bound shape = model.symbolOf modulePath shape := by
  by_cases hends : ∃ count, model.EndsAfter modulePath count shape
  · obtain ⟨count, hends⟩ := hends
    have hle := hends.le_size
    have heq : ∀ bound, model.size < bound → model.symbolWithin modulePath bound shape
        = model.symbolWithin modulePath (count + 1) shape := by
      intro bound hbound
      obtain ⟨more, rfl⟩ := Nat.exists_eq_add_of_le (show count + 1 ≤ bound by omega)
      exact hends.symbolWithin more
    rw [symbolOf, heq bound hbound, heq (model.size + 1) (by omega)]
  · have hendless := symbolWithin_of_endless (not_exists.1 hends)
    rw [symbolOf, hendless, hendless]

end ClientGen.Model
