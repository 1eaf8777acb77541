import ClientGen.Model.Basic

/-!
# Reachable shapes

The closure of a shape holds the shape and every shape that can be reached from it by references.
It is found with a stack of shapes to visit; the last reference of a shape is followed first, which
shows only in which of several missing targets is reported.  Main definition: `Model.closure`,
whose result is in the order of shape ids.

The search ends because every visit of a new shape leaves fewer shapes unvisited, and every other
step leaves a shorter stack.
-/

namespace ClientGen.Model

/-- A shape that the model holds, under its id. -/
abbrev Entry (model : Model) := { entry : ShapeId × Shape // entry ∈ model.shapes }

/-- The shape of an id, with the knowledge that the model holds it. -/
def entry? (model : Model) (id : ShapeId) : Option model.Entry :=
  match h : model.shapes.find? (·.1 == id) with
  | some entry => some ⟨entry, List.mem_of_find?_eq_some h⟩
  | none => none

/-- The shapes that have not been seen. -/
def unseen (model : Model) (seen : List model.Entry) : List (ShapeId × Shape) :=
  model.shapes.filter fun entry => !seen.any (·.1.1 == entry.1)

/-- The references of a shape that lead to a shape not seen yet. -/
def expand (model : Model) (seen : List model.Entry) (shape : Shape) :
    Except ModelFault (List model.Entry) :=
  (shape.targets.filter fun target => !seen.any (·.1.1 == target)).mapM fun target =>
    match model.entry? target with
    | some entry => .ok entry
    | none => .error (.targetUnknown target shape.id)

theorem length_filter_lt_of_imp {α : Type} {p q : α → Bool} {xs : List α}
    (himp : ∀ x ∈ xs, q x = true → p x = true) {a : α} (ha : a ∈ xs) (hp : p a = true)
    (hq : q a = false) : (xs.filter q).length < (xs.filter p).length := by
  -- On the list: the filters differ at `a`, and elsewhere the second keeps no more than the first.
  induction xs with
  | nil => simp at ha
  | cons x rest ih =>
    have hle : (rest.filter q).length ≤ (rest.filter p).length := by
      rw [← List.countP_eq_length_filter, ← List.countP_eq_length_filter]
      exact List.countP_mono_left fun y hy => himp y (List.mem_cons_of_mem x hy)
    rcases List.mem_cons.1 ha with rfl | hmem
    · simp only [List.filter_cons, hp, hq, if_true, Bool.false_eq_true, if_false, List.length_cons]
      omega
    · have hlt := ih (fun y hy => himp y (List.mem_cons_of_mem x hy)) hmem
      have himpx := himp x List.mem_cons_self
      simp only [List.filter_cons]
      by_cases hqx : q x = true
      · simp only [hqx, himpx hqx, if_true, List.length_cons]
        omega
      · simp only [hqx, Bool.false_eq_true, if_false]
        split
        · simp only [List.length_cons]
          omega
        · exact hlt

theorem length_unseen_cons_lt (model : Model) (seen : List model.Entry) (entry : model.Entry)
    (h : ¬ (seen.any (·.1.1 == entry.1.1)) = true) :
    (model.unseen (entry :: seen)).length < (model.unseen seen).length := by
  apply length_filter_lt_of_imp _ entry.2
  · rw [Bool.not_eq_true] at h
    rw [h]
    rfl
  · simp
  · intro other _ hother
    simp only [List.any_cons, Bool.not_or, Bool.and_eq_true] at hother
    exact hother.2

/-- Visits the shapes of a stack and all that they lead to. -/
def explore (model : Model) (seen : List model.Entry) :
    List model.Entry → Except ModelFault (List model.Entry)
  | [] => .ok seen
  | entry :: rest =>
    if seen.any (·.1.1 == entry.1.1) then explore model seen rest
    else
      match model.expand (entry :: seen) entry.1.2 with
      -- Reversed, so that the last reference comes to the top of the stack.
      | .ok found => explore model (entry :: seen) (found.reverse ++ rest)
      | .error fault => .error fault
termination_by pending => ((model.unseen seen).length, pending.length)
decreasing_by
  · exact Prod.Lex.right _ (by simp)
  · exact Prod.Lex.left _ _ (length_unseen_cons_lt model seen entry ‹_›)

/-- The shapes that can be reached from the shape of an id, in the order of their ids. -/
def closure (model : Model) (root : ShapeId) : Except Failure (List Shape) := do
  match model.entry? root with
  | none => throw (.model (.shapeNotFound root.text))
  | some entry =>
    let seen ← (model.explore [] [entry]).mapError .model
    sorted (seen.map (·.1.2))

/-- The shapes that can be reached from the shape of a written id. -/
def closureWritten (model : Model) (written : String) : Except Failure (List Shape) := do
  let root ← model.expectWritten written
  model.closure root.id

end ClientGen.Model
