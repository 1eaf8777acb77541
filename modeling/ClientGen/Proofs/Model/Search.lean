import ClientGen.Proofs.Model.Comparison
import Mathlib.Algebra.Order.BigOperators.Group.List
import Mathlib.Algebra.Order.Ring.Nat

/-!
# The search for a closure ends, and misses nothing

The stack of a search may hold a shape several times, and the references of a model may run in
circles, so neither the stack nor the model alone gets smaller in every round.  What does get
smaller is the length of the stack together with the references of the shapes that have not been
seen: a round takes one shape off the stack, and whatever it puts there instead are references of a
shape that is seen from then on.  So a search has no more rounds than the model has references, and
one.

When it ends, it has found everything that the root reaches, or a reference to a shape that the
model lacks.

## Main definitions

* `Model.Advances`, `Model.Ended` — one round of the search; how the rounds end.
* `Model.Dangles` — a shape that a root reaches refers to one that the model lacks.

## Main results

* `exists_ended`, `length_le_of_isChain` — a search goes through rounds to their end, and there are
  not many of them.
* `closure_complete` — a root has a closure unless a reference dangles, and the closure is exactly
  what the root reaches.
-/

namespace ClientGen.Model

open Entry (mem_ids)

variable {model : Model} {root : ShapeId}

/-! ## Rounds -/

/-- One round of the search: the first shape of the stack has been seen, or it is visited. -/
inductive Advances (model : Model) :
    List model.Entry × List model.Entry → List model.Entry × List model.Entry → Prop where
  | skip {seen rest : List model.Entry} {entry : model.Entry} (mem : entry ∈ seen) :
      Advances model (seen, entry :: rest) (seen, rest)
  | visit {seen rest found : List model.Entry} {entry : model.Entry} (new : entry ∉ seen)
      (expanded : model.expand (entry :: seen) entry.1.2 = .ok found) :
      Advances model (seen, entry :: rest) (entry :: seen, found.reverse ++ rest)

/-- The number of references in a model. -/
def referenceCount (model : Model) : Nat :=
  (model.shapes.map fun entry => entry.2.targets.length).sum

/-- What gets smaller in every round: the length of the stack, and the number of references of the
shapes that have not been seen. -/
def potential (model : Model) (state : List model.Entry × List model.Entry) : Nat :=
  state.2.length + ((model.unseen state.1).map fun entry => entry.2.targets.length).sum

variable {state state' : List model.Entry × List model.Entry}

/-- The rounds have come to an end: nothing is left to visit, or a shape cannot be expanded. -/
inductive Ended (model : Model) :
    List model.Entry × List model.Entry → Except ModelFault (List model.Entry) → Prop where
  | done {seen : List model.Entry} : Ended model (seen, []) (.ok seen)
  | stuck {seen rest : List model.Entry} {entry : model.Entry} {fault : ModelFault}
      (new : entry ∉ seen) (failed : model.expand (entry :: seen) entry.1.2 = .error fault) :
      Ended model (seen, entry :: rest) (.error fault)

/-- **A search goes through rounds to their end**, and has the outcome that they have there. -/
theorem exists_ended (seen pending : List model.Entry) :
    ∃ last, Relation.ReflTransGen model.Advances (seen, pending) last ∧
      model.Ended last (model.explore seen pending) := by
  -- Along the search's own recursion: every call that goes on is a round.
  induction seen, pending using Model.explore.induct model with
  | case1 seen =>
    rw [explore]
    exact ⟨_, .refl, .done⟩
  | case2 seen entry rest hmem ih =>
    rw [explore, if_pos hmem]
    obtain ⟨last, hrounds, hended⟩ := ih
    exact ⟨last, .head (.skip (mem_ids.1 (Entry.any_eq_true_iff.1 hmem))) hrounds, hended⟩
  | case3 seen entry rest hnew found hexpand ih =>
    rw [explore, if_neg hnew, hexpand]
    rw [Entry.any_eq_true_iff, mem_ids] at hnew
    obtain ⟨last, hrounds, hended⟩ := ih
    exact ⟨last, .head (.visit hnew hexpand) hrounds, hended⟩
  | case4 seen entry rest hnew fault hexpand =>
    rw [explore, if_neg hnew, hexpand]
    rw [Entry.any_eq_true_iff, mem_ids] at hnew
    exact ⟨_, .refl, .stuck hnew hexpand⟩

theorem length_expand_le {seen found : List model.Entry} {shape : Shape}
    (h : model.expand seen shape = .ok found) : found.length ≤ shape.targets.length := by
  have hlength := (mapM_eq_ok.1 h).length_eq
  rw [← hlength]
  exact List.length_filter_le _ _

/-- Of two filters, the one that drops a value more has a sum that is smaller by it at least. -/
theorem add_sum_filter_le {α : Type} {p q : α → Bool} {f : α → Nat} {xs : List α}
    (himp : ∀ x, q x = true → p x = true) {a : α} (ha : a ∈ xs) (hp : p a = true)
    (hq : q a = false) : f a + ((xs.filter q).map f).sum ≤ ((xs.filter p).map f).sum := by
  have hle : ∀ ys : List α, ((ys.filter q).map f).sum ≤ ((ys.filter p).map f).sum := by
    intro ys
    exact ((List.monotone_filter_right ys himp).map f).sum_le_sum (by simp)
  induction xs with
  | nil => simp at ha
  | cons x rest ih =>
    rcases List.mem_cons.1 ha with rfl | hmem
    · have hrest := hle rest
      simp only [List.filter_cons, hp, hq, if_true, Bool.false_eq_true, if_false, List.map_cons,
        List.sum_cons]
      omega
    · have hrest := ih hmem
      have himpx := himp x
      simp only [List.filter_cons]
      by_cases hqx : q x = true
      · simp only [hqx, himpx hqx, if_true, List.map_cons, List.sum_cons]
        omega
      · simp only [hqx, Bool.false_eq_true, if_false]
        split
        · simp only [List.map_cons, List.sum_cons]
          omega
        · exact hrest

/-- **Every round leaves less to do.** -/
theorem Advances.potential_lt (h : model.Advances state state') :
    model.potential state' < model.potential state := by
  cases h with
  | skip mem => simp [potential]
  | @visit seen rest found entry new expanded =>
    -- The references of the visited shape are paid for by its being seen from now on.
    have hfound := length_expand_le expanded
    have hunseen : entry.1.2.targets.length
        + ((model.unseen (entry :: seen)).map fun entry => entry.2.targets.length).sum
          ≤ ((model.unseen seen).map fun entry => entry.2.targets.length).sum := by
      refine add_sum_filter_le (f := fun entry => entry.2.targets.length) ?_ entry.2 ?_ ?_
      · intro other hother
        simp only [List.any_cons, Bool.not_or, Bool.and_eq_true] at hother
        exact hother.2
      · rw [← mem_ids, ← Entry.any_eq_true_iff, Bool.not_eq_true] at new
        rw [new]
        rfl
      · simp
    simp only [potential, List.length_cons, List.length_append, List.length_reverse]
    omega

/-- **Every search ends**, after as many rounds at most as there is to do. -/
theorem length_le_of_isChain {states : List (List model.Entry × List model.Entry)}
    (h : (state :: states).IsChain model.Advances) : states.length ≤ model.potential state := by
  -- On the rounds: each of them uses up some of the potential.
  induction states generalizing state with
  | nil => exact Nat.zero_le _
  | cons next rest ih =>
    obtain ⟨hround, hrest⟩ := List.isChain_cons_cons.1 h
    have hlt := hround.potential_lt
    have hle := ih hrest
    rw [List.length_cons]
    omega

theorem potential_start (entry : model.Entry) :
    model.potential ([], [entry]) = model.referenceCount + 1 := by
  have hunseen : model.unseen [] = model.shapes := by simp [unseen]
  rw [potential, hunseen, Nat.add_comm]
  rfl

/-! ## References to nothing -/

/-- A shape that the root reaches refers to a target that the model lacks. -/
structure Dangles (model : Model) (root : ShapeId) (shape : Shape) (target : ShapeId) : Prop where
  reached : ∃ id, model.Reaches root id ∧ model.shape? id = some shape
  refers : target ∈ shape.targets
  missing : model.shape? target = none

theorem exists_target_of_expand {seen : List model.Entry} {shape : Shape} {fault : ModelFault}
    (h : model.expand seen shape = .error fault) :
    ∃ target ∈ shape.targets, model.shape? target = none ∧
      fault = .targetUnknown target shape.id := by
  obtain ⟨target, hmem, hfault⟩ := exists_of_mapM_eq_error h
  refine ⟨target, (List.mem_filter.1 hmem).1, ?_⟩
  cases hentry : model.entry? target with
  | some entry => simp [hentry] at hfault
  | none =>
    simp only [hentry, Except.error.injEq] at hfault
    exact ⟨entry?_eq_none_iff.1 hentry, hfault.symm⟩

/-- **A search that fails has found a dangling reference**, and names it. -/
theorem Visited.dangles_of_explore {seen pending : List model.Entry} {fault : ModelFault}
    (hinv : Visited root seen pending) (h : model.explore seen pending = .error fault) :
    ∃ shape target, model.Dangles root shape target ∧ fault = .targetUnknown target shape.id := by
  induction seen, pending using Model.explore.induct model with
  | case1 seen =>
    rw [explore] at h
    simp at h
  | case2 seen entry rest hmem ih =>
    rw [explore, if_pos hmem] at h
    exact ih (hinv.skip (mem_ids.1 (Entry.any_eq_true_iff.1 hmem))) h
  | case3 seen entry rest hnew found hexpand ih =>
    rw [explore, if_neg hnew, hexpand] at h
    refine ih (hinv.visit ?_ hexpand) h
    rwa [Entry.any_eq_true_iff, mem_ids] at hnew
  | case4 seen entry rest hnew other hexpand =>
    rw [explore, if_neg hnew, hexpand] at h
    obtain rfl := Except.error.inj h
    obtain ⟨target, hrefers, hmissing, hfault⟩ := exists_target_of_expand hexpand
    have hreached := hinv.reaches entry (by simp)
    exact ⟨entry.1.2, target, ⟨⟨entry.1.1, hreached, entry.shape?⟩, hrefers, hmissing⟩, hfault⟩

theorem isSome_of_reaches (hroot : (model.shape? root).isSome)
    (hnone : ¬ ∃ shape target, model.Dangles root shape target) {id : ShapeId}
    (hid : model.Reaches root id) : (model.shape? id).isSome := by
  cases hid with
  | refl => exact hroot
  | tail hprev hrefers =>
    obtain ⟨shape, hshape, htarget⟩ := hrefers
    by_contra hmissing
    exact hnone ⟨shape, id, ⟨_, hprev, hshape⟩, htarget, by simpa using hmissing⟩

/-- **Why a shape of the model has no closure**: a dangling reference, which the fault names, or ids
that cannot be compared. -/
theorem dangles_or_incomparable (hroot : (model.shape? root).isSome) {failure : Failure}
    (h : model.closure root = .error failure) :
    (∃ shape target, model.Dangles root shape target ∧
        failure = .model (.targetUnknown target shape.id)) ∨
      ∃ a b, model.Reaches root a ∧ model.Reaches root b ∧ a.incomparable b = true := by
  have hcause := h
  unfold closure at h
  cases hentry : model.entry? root with
  | none => simp [entry?_eq_none_iff.1 hentry] at hroot
  | some entry =>
    simp only [hentry] at h
    rcases bind_eq_error.1 h with h | ⟨seen, -, h⟩
    · obtain ⟨fault, hfault, rfl⟩ := mapError_eq_error.1 h
      obtain ⟨shape, target, hdangles, rfl⟩ := (Visited.start hentry).dangles_of_explore hfault
      exact .inl ⟨shape, target, hdangles, rfl⟩
    · rcases closure_eq_error hcause with ⟨fault, rfl⟩ | ⟨-, a, b, ha, hb, hab⟩
      · exact absurd (sorted_eq_error h) (by simp)
      · exact .inr ⟨_, _, ha, hb, hab⟩

theorem closureWritten_of_read (hroot : (model.shape? root).isSome) {written : String}
    (h : ShapeId.read written = .ok root) : model.closureWritten written = model.closure root := by
  obtain ⟨shape, hshape⟩ := Option.isSome_iff_exists.1 hroot
  have hexpect : model.expectWritten written = .ok shape := by
    rw [expectWritten, find?, h]
    exact bind_eq_ok.2 ⟨some shape, by rw [← hshape]; rfl, rfl⟩
  rw [closureWritten, hexpect, ← id_eq_of_shape? hshape]
  rfl

/-- **A root has a closure unless a reference dangles.**  The search for it always ends; it fails
with a fault of the model exactly if a shape that the root reaches refers to one that the model
lacks, and then names both; otherwise it finds exactly the shapes that the root reaches, each once
and in ascending order of ids.  A root that is given as a text has the same closure. -/
theorem closure_complete (hroot : (model.shape? root).isSome)
    (hcomp : ∀ a b, model.Reaches root a → model.Reaches root b → a.incomparable b = false) :
    (∀ entry, model.entry? root = some entry →
        (∃ last, Relation.ReflTransGen model.Advances ([], [entry]) last ∧
          model.Ended last (model.explore [] [entry])) ∧
        ∀ states, (([], [entry]) :: states).IsChain model.Advances →
          states.length ≤ model.referenceCount + 1) ∧
      ((∃ fault, model.closure root = .error (.model fault)) ↔
        ∃ shape target, model.Dangles root shape target) ∧
      (∀ failure, model.closure root = .error failure → ∃ shape target,
        model.Dangles root shape target ∧ failure = .model (.targetUnknown target shape.id)) ∧
      ((¬ ∃ shape target, model.Dangles root shape target) →
        ∃ shapes, model.closure root = .ok shapes ∧
          (∀ shape, shape ∈ shapes ↔ ∃ id, model.Reaches root id ∧ model.shape? id = some shape) ∧
          shapes.Pairwise fun first second => first.id.Precedes second.id) ∧
      ∀ written, ShapeId.read written = .ok root →
        model.closureWritten written = model.closure root := by
  have hcause : ∀ failure, model.closure root = .error failure → ∃ shape target,
      model.Dangles root shape target ∧ failure = .model (.targetUnknown target shape.id) := by
    intro failure h
    rcases dangles_or_incomparable hroot h with hdangles | ⟨a, b, ha, hb, hab⟩
    · exact hdangles
    · simp [hcomp a b ha hb] at hab
  refine ⟨?_, ⟨?_, ?_⟩, hcause, ?_, fun _ hread => closureWritten_of_read hroot hread⟩
  · refine fun entry _ => ⟨exists_ended [] [entry], fun states hchain => ?_⟩
    rw [← potential_start entry]
    exact length_le_of_isChain hchain
  · rintro ⟨fault, h⟩
    obtain ⟨shape, target, hdangles, -⟩ := hcause _ h
    exact ⟨shape, target, hdangles⟩
  · rintro ⟨shape, target, hdangles⟩
    -- There is no closure, since everything in one refers to shapes of the model only.
    cases h : model.closure root with
    | error failure =>
      obtain ⟨_, _, -, rfl⟩ := hcause failure h
      exact ⟨_, rfl⟩
    | ok shapes =>
      have hmem := (mem_closure_iff h).2 hdangles.reached
      obtain ⟨held, -, hheld⟩ := exists_target_mem_closure h hmem hdangles.refers
      rw [hdangles.missing] at hheld
      simp at hheld
  · intro hnone
    obtain ⟨shapes, hshapes⟩ := exists_closure_iff.2
      ⟨fun id hid => isSome_of_reaches hroot hnone hid, hcomp⟩
    exact ⟨shapes, hshapes, fun shape => mem_closure_iff hshapes,
      pairwise_precedes_closure hshapes⟩

end ClientGen.Model

namespace ClientGen

/-! ## A family -/

namespace Family

/-- A person has a parent, who is a person, and children. -/
def person : Shape :=
  let id : ShapeId := { ns := "a", name := "Person" }
  { id
    type := .struct
    members := [{ name := "parent", container := id, target := id },
      { name := "children", container := id, target := { ns := "a", name := "People" } }] }

def people : Shape :=
  let id : ShapeId := { ns := "a", name := "People" }
  { id
    type := .list
    members := [{ name := "member", container := id, target := person.id }] }

/-- A shape that no person leads to. -/
def house : Shape where
  id := { ns := "a", name := "House" }
  type := .struct

def model : Model :=
  .ofShapes [house, person, people]

theorem closure_eq : model.closure person.id = .ok [people, person] := by
  have hsearch : model.search 4 person.id = some [people, person] := rfl
  exact Model.closure_eq_ok_of_search hsearch (by decide) (by decide)

end Family

namespace Model

/-- The references of a family run in circles. -/
theorem closure_complete_family :
    (Family.model.shape? Family.person.id).isSome ∧
      (∀ a b, Family.model.Reaches Family.person.id a → Family.model.Reaches Family.person.id b →
        a.incomparable b = false) ∧
      Family.model.Reaches Family.person.id Family.people.id ∧
      Family.model.Reaches Family.people.id Family.person.id ∧
      ∃ shapes, Family.model.closure Family.person.id = .ok shapes ∧
        (∀ shape, shape ∈ shapes ↔
          ∃ id, Family.model.Reaches Family.person.id id ∧ Family.model.shape? id = some shape) ∧
        shapes.Pairwise fun first second => first.id.Precedes second.id := by
  have hroot : (Family.model.shape? Family.person.id).isSome := by decide
  obtain ⟨hheld, hcomp⟩ := exists_closure_iff.1 ⟨_, Family.closure_eq⟩
  have hnone : ¬ ∃ shape target, Family.model.Dangles Family.person.id shape target := by
    rintro ⟨shape, target, ⟨id, hid, hshape⟩, hrefers, hmissing⟩
    have htarget := hheld target (hid.tail ⟨shape, hshape, hrefers⟩)
    rw [hmissing] at htarget
    simp at htarget
  have hdown : Family.model.Refers Family.person.id Family.people.id :=
    ⟨Family.person, rfl, by decide⟩
  have hup : Family.model.Refers Family.people.id Family.person.id :=
    ⟨Family.people, rfl, by decide⟩
  exact ⟨hroot, hcomp, .single hdown, .single hup,
    (closure_complete hroot hcomp).2.2.2.1 hnone⟩

end Model

end ClientGen
