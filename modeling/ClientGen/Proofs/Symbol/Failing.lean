import ClientGen.Proofs.Model.References
import ClientGen.Proofs.Symbol.Bound
import ClientGen.Proofs.Symbol.OfShape

/-!
# When a shape has no symbol

The search for the symbol of a shape fails in three ways: an operation has a name of the client's
own, the shape of some elements is not in the model, or the elements come back to themselves.  The
last is no fault of the model that anything reports, so it is told apart from the others here.

## Main results

* `Model.symbolOf_eq_error` — without a collision or a fault of the model, elements have no end.
-/

namespace ClientGen

variable {model : Model} {modulePath : String} {shape : Shape} {failure : Failure}

/-- A shape that has no symbol of its own is a list, a set or a map. -/
theorem Shape.type_mem_of_ownSymbol?_eq_none (h : shape.ownSymbol? modulePath = none) :
    shape.type ∈ [.list, .set, .map] := by
  unfold ownSymbol? at h
  split at h
  · simp at h
  · simp at h
  · simp at h
  · simp at h
  · simp at h
  · split at h
    · simp at h
    · cases htype : shape.type <;> simp_all [builtinType?]

/-- A symbol of its own is missing only for an operation, whose name collides. -/
theorem Shape.exists_clash_of_ownSymbol? (h : shape.ownSymbol? modulePath = some (.error failure)) :
    ∃ clash, failure = .collision clash := by
  unfold ownSymbol? at h
  split at h
  · simp at h
  · have h := Option.some.inj h
    unfold operationSymbol at h
    dsimp only at h
    split at h
    · exact ⟨_, (Except.error.inj h).symm⟩
    · simp at h
  · simp at h
  · simp at h
  · simp at h
  · split at h
    · simp at h
    · obtain ⟨symbol, -, h⟩ := Option.map_eq_some_iff.1 h
      simp at h

namespace Model

theorem exists_fault_of_element (helement : shape.HasElement)
    (hown : shape.ownSymbol? modulePath = none) (h : shape.element model = .error failure) :
    ∃ fault, failure = .model fault := by
  obtain ⟨member, hmember⟩ :=
    Option.isSome_iff_exists.1 (helement (Shape.type_mem_of_ownSymbol?_eq_none hown))
  rw [Shape.elementName] at hmember
  rw [Shape.element, hmember] at h
  exact exists_fault_of_expect h

/-- A search that ends within its bound fails with a collision or a fault of the model. -/
theorem EndsAfter.symbolWithin_eq_error (hmodel : model.HasElements) {count : Nat}
    (hends : model.EndsAfter modulePath count shape) (helement : shape.HasElement)
    (h : model.symbolWithin modulePath (count + 1) shape = .error failure) :
    (∃ clash, failure = .collision clash) ∨ ∃ fault, failure = .model fault := by
  -- On the number of elements that are passed: only at their end the search can fail.
  induction count generalizing shape with
  | zero =>
    rw [Model.symbolWithin] at h
    cases hown : shape.ownSymbol? modulePath with
    | some symbol =>
      simp only [hown] at h
      exact .inl (Shape.exists_clash_of_ownSymbol? (h ▸ hown))
    | none =>
      simp only [hown] at h
      rcases bind_eq_error.1 h with h | ⟨element, hfound, -⟩
      · exact .inr (exists_fault_of_element helement hown h)
      · have hnext : model.next? modulePath shape = some element := by
          simp [next?, hown, hfound]
        rw [EndsAfter, hnext] at hends
        simp at hends
  | succ count ih =>
    obtain ⟨element, hnext, hends⟩ := hends
    rw [symbolWithin_of_next? hnext] at h
    rcases bind_eq_error.1 h with h | ⟨symbol, -, h⟩
    · exact ih hends (hmodel _ _ (shape?_of_next? hnext)) h
    · exact absurd h pure_ne_error

/-- **Why a shape has no symbol**: a collision, a fault of the model, or elements without an end. -/
theorem symbolOf_eq_error (hmodel : model.HasElements) (helement : shape.HasElement)
    (h : model.symbolOf modulePath shape = .error failure) :
    (∃ clash, failure = .collision clash) ∨ (∃ fault, failure = .model fault) ∨
      ∀ count, ¬ model.EndsAfter modulePath count shape := by
  by_cases hends : ∃ count, model.EndsAfter modulePath count shape
  · obtain ⟨count, hends⟩ := hends
    have hle : count + 1 ≤ model.size + 1 := Nat.succ_le_succ hends.le_size
    obtain ⟨more, hmore⟩ := Nat.exists_eq_add_of_le hle
    rw [symbolOf, hmore, hends.symbolWithin more] at h
    exact (hends.symbolWithin_eq_error hmodel helement h).imp_right .inl
  · exact .inr (.inr (not_exists.1 hends))

end Model

end ClientGen
