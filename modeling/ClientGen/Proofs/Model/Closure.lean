import ClientGen.Model.Closure
import ClientGen.Proofs.Shape.Id
import ClientGen.Proofs.Success
import Mathlib.Logic.Relation

/-!
# The closure of a shape is what it reaches

The search for the closure keeps a list of seen shapes and a stack of shapes to visit.  Its
invariant (`Visited`) says that no shape is seen twice, that everything in the two lists can be
reached from the root, and that the references of a seen shape lead into one of the two lists.
Every step keeps it, and with an empty stack it says that the seen shapes are exactly those that can
be reached.

## Main definitions

* `Model.Refers`, `Model.Reaches` — one shape refers to another; one shape leads to another by any
  number of references.

## Main results

* `mem_closure_iff` — the closure of a root holds the shapes that the root reaches.
* `pairwise_precedes_closure` — every shape stands in it once, in ascending order of ids.
* `target_mem_closure` — the references of its shapes do not leave it.
* `exists_target_mem_closure` — each of these references is held by the model.
* `closure_eq_ok_of_search` — a bounded search finds the closure too, and can be evaluated.
-/

namespace ClientGen.Model

variable {model : Model} {root : ShapeId}

/-! ## References -/

/-- The model holds a shape under the first id that refers to the second. -/
def Refers (model : Model) (a b : ShapeId) : Prop :=
  ∃ shape, model.shape? a = some shape ∧ b ∈ shape.targets

/-- The second id is the first, or follows from it by references. -/
def Reaches (model : Model) : ShapeId → ShapeId → Prop :=
  Relation.ReflTransGen model.Refers

theorem shape?_eq_some_iff {id : ShapeId} {shape : Shape} :
    model.shape? id = some shape ↔ (id, shape) ∈ model.shapes :=
  Entries.lookup_eq_some_iff_mem model.nodup_keys

theorem id_eq_of_shape? {id : ShapeId} {shape : Shape} (h : model.shape? id = some shape) :
    shape.id = id :=
  model.id_eq_of_mem _ (shape?_eq_some_iff.1 h)

theorem expect_eq_ok {id : ShapeId} {shape : Shape} :
    model.expect id = .ok shape ↔ model.shape? id = some shape := by
  unfold expect
  cases model.shape? id <;> simp

theorem exists_fault_of_expect {id : ShapeId} {failure : Failure}
    (h : model.expect id = .error failure) : ∃ fault, failure = .model fault := by
  unfold expect at h
  split at h
  · simp at h
  · exact ⟨_, (Except.error.inj h).symm⟩

namespace Entry

/-- The ids of entries. -/
def ids (entries : List model.Entry) : List ShapeId :=
  entries.map (·.1.1)

theorem shape? (entry : model.Entry) : model.shape? entry.1.1 = some entry.1.2 :=
  shape?_eq_some_iff.2 entry.2

theorem id_shape (entry : model.Entry) : entry.1.2.id = entry.1.1 :=
  model.id_eq_of_mem _ entry.2

theorem eq_of_id_eq {first second : model.Entry} (h : first.1.1 = second.1.1) :
    first = second := by
  have hshape : first.1.2 = second.1.2 := by
    have hsecond := second.shape?
    rw [← h, first.shape?] at hsecond
    exact Option.some.inj hsecond
  exact Subtype.ext (Prod.ext h hshape)

theorem mem_ids {entries : List model.Entry} {entry : model.Entry} :
    entry.1.1 ∈ ids entries ↔ entry ∈ entries := by
  simp only [ids, List.mem_map]
  constructor
  · rintro ⟨other, hother, heq⟩
    rwa [← eq_of_id_eq heq]
  · intro hentry
    exact ⟨entry, hentry, rfl⟩

theorem any_eq_true_iff {entries : List model.Entry} {id : ShapeId} :
    entries.any (·.1.1 == id) = true ↔ id ∈ ids entries := by
  simp [ids]

end Entry

open Entry (ids mem_ids)

theorem id_eq_of_entry_eq_some {id : ShapeId} {entry : model.Entry}
    (h : model.entry? id = some entry) : entry.1.1 = id := by
  unfold entry? at h
  split at h
  · rename_i hfind
    obtain rfl := Option.some.inj h
    simpa using List.find?_some hfind
  · simp at h

theorem ids_of_expand {seen found : List model.Entry} {shape : Shape}
    (h : model.expand seen shape = .ok found) :
    ids found = shape.targets.filter fun target => !seen.any (·.1.1 == target) := by
  have hids : List.Forall₂ (fun target entry => target = entry.1.1)
      (shape.targets.filter fun target => !seen.any (·.1.1 == target)) found := by
    apply (mapM_eq_ok.1 h).imp
    intro target entry hstep
    cases hentry : model.entry? target with
    | none => simp [hentry] at hstep
    | some other =>
      simp only [hentry, Except.ok.injEq] at hstep
      rw [← hstep, id_eq_of_entry_eq_some hentry]
  rw [← List.forall₂_map_right_iff, List.forall₂_eq_eq_eq] at hids
  exact hids.symm

/-! ## The search -/

/-- The invariant of the search from a root, between what was seen and what is to be visited. -/
structure Visited (root : ShapeId) (seen pending : List model.Entry) : Prop where
  nodup : (ids seen).Nodup
  reaches : ∀ entry ∈ seen ++ pending, model.Reaches root entry.1.1
  closed : ∀ entry ∈ seen, ∀ target ∈ entry.1.2.targets, target ∈ ids (seen ++ pending)
  root_mem : root ∈ ids (seen ++ pending)

theorem Visited.start {entry : model.Entry} (h : model.entry? root = some entry) :
    Visited root [] [entry] where
  nodup := List.nodup_nil
  reaches := by
    intro other hother
    obtain rfl := List.mem_singleton.1 hother
    rw [id_eq_of_entry_eq_some h]
    exact Relation.ReflTransGen.refl
  closed := by simp
  root_mem := by simp [ids, id_eq_of_entry_eq_some h]

section Step

variable {seen rest : List model.Entry} {entry : model.Entry}

/-- A shape that was seen already can be dropped from the stack. -/
theorem Visited.skip (h : Visited root seen (entry :: rest)) (hmem : entry ∈ seen) :
    Visited root seen rest := by
  -- The dropped shape is still among the seen ones, so the two lists together lose nothing.
  have hsub : seen ++ entry :: rest ⊆ seen ++ rest := by
    intro other hother
    rcases List.mem_append.1 hother with hseen | hpending
    · exact List.mem_append_left _ hseen
    · rcases List.mem_cons.1 hpending with rfl | hrest
      · exact List.mem_append_left _ hmem
      · exact List.mem_append_right _ hrest
  refine ⟨h.nodup, ?_, ?_, List.map_subset _ hsub h.root_mem⟩
  · intro other hother
    apply h.reaches other
    rcases List.mem_append.1 hother with hseen | hrest
    · exact List.mem_append_left _ hseen
    · exact List.mem_append_right _ (List.mem_cons_of_mem _ hrest)
  · intro other hother target htarget
    exact List.map_subset _ hsub (h.closed other hother target htarget)

/-- A new shape is seen, and what it refers to goes on the stack. -/
theorem Visited.visit {found : List model.Entry} (h : Visited root seen (entry :: rest))
    (hnew : entry ∉ seen) (hfound : model.expand (entry :: seen) entry.1.2 = .ok found) :
    Visited root (entry :: seen) (found.reverse ++ rest) := by
  have hfoundIds := ids_of_expand hfound
  have hsub : seen ++ entry :: rest ⊆ entry :: seen ++ (found.reverse ++ rest) := by
    intro other hother
    rcases List.mem_append.1 hother with hseen | hpending
    · exact List.mem_append_left _ (List.mem_cons_of_mem _ hseen)
    · rcases List.mem_cons.1 hpending with rfl | hrest
      · exact List.mem_append_left _ List.mem_cons_self
      · exact List.mem_append_right _ (List.mem_append_right _ hrest)
  have hentry : model.Reaches root entry.1.1 := h.reaches entry (by simp)
  refine ⟨?_, ?_, ?_, List.map_subset _ hsub h.root_mem⟩
  · exact List.nodup_cons.2 ⟨fun hmem => hnew (mem_ids.1 hmem), h.nodup⟩
  · -- What is new on the stack is one reference further from the root than the visited shape.
    intro other hother
    rcases List.mem_append.1 hother with hseen | hpending
    · rcases List.mem_cons.1 hseen with rfl | hseen
      · exact hentry
      · exact h.reaches other (List.mem_append_left _ hseen)
    · rcases List.mem_append.1 hpending with hother | hrest
      · have htarget : other.1.1 ∈ ids found := mem_ids.2 (List.mem_reverse.1 hother)
        rw [hfoundIds] at htarget
        exact hentry.tail ⟨entry.1.2, entry.shape?, (List.mem_filter.1 htarget).1⟩
      · exact h.reaches other (List.mem_append_right _ (List.mem_cons_of_mem _ hrest))
  · intro other hother target htarget
    rcases List.mem_cons.1 hother with rfl | hseen
    · by_cases hmem : target ∈ ids (other :: seen)
      · simp only [ids, List.map_append, List.mem_append] at hmem ⊢
        exact .inl hmem
      · have htargetFound : target ∈ ids found := by
          rw [hfoundIds, List.mem_filter]
          rw [← Entry.any_eq_true_iff, Bool.not_eq_true] at hmem
          exact ⟨htarget, by rw [hmem]; rfl⟩
        simp only [ids, List.map_append, List.map_reverse, List.mem_append, List.mem_reverse]
        exact .inr (.inl htargetFound)
    · exact List.map_subset _ hsub (h.closed other hseen target htarget)

end Step

/-- The search keeps its invariant to the end. -/
theorem Visited.of_explore {seen pending found : List model.Entry}
    (h : model.explore seen pending = .ok found) (hinv : Visited root seen pending) :
    Visited root found [] := by
  -- Along the search's own recursion: done, a shape seen before, a new shape, a missing one.
  induction seen, pending using Model.explore.induct model with
  | case1 seen =>
    rw [explore] at h
    obtain rfl := Except.ok.inj h
    exact hinv
  | case2 seen entry rest hmem ih =>
    rw [explore, if_pos hmem] at h
    exact ih h (hinv.skip (mem_ids.1 (Entry.any_eq_true_iff.1 hmem)))
  | case3 seen entry rest hnew found' hexpand ih =>
    rw [explore, if_neg hnew] at h
    simp only [hexpand] at h
    refine ih h (hinv.visit ?_ hexpand)
    rwa [Entry.any_eq_true_iff, mem_ids] at hnew
  | case4 seen entry rest hnew fault hexpand =>
    rw [explore, if_neg hnew] at h
    simp [hexpand] at h

/-- When the stack is empty, everything that is reached has been seen. -/
theorem Visited.mem_ids_of_reaches {seen : List model.Entry} (h : Visited root seen [])
    {id : ShapeId} (hid : model.Reaches root id) : id ∈ ids seen := by
  -- The seen shapes are closed under references then, and the root is one of them.
  induction hid with
  | refl => simpa using h.root_mem
  | tail _ hrefers ih =>
    obtain ⟨entry, hentry, rfl⟩ := List.mem_map.1 ih
    obtain ⟨shape, hshape, htarget⟩ := hrefers
    obtain rfl := Option.some.inj (entry.shape?.symm.trans hshape)
    simpa using h.closed entry hentry _ htarget

/-! ## The closure -/

section Closure

variable {shapes : List Shape}

/-- What a closure is made of: the entries that the search leaves, sorted. -/
theorem exists_visited_of_closure (h : model.closure root = .ok shapes) :
    ∃ seen : List model.Entry, Visited root seen [] ∧
      ShapeId.sortBy? Shape.id (seen.map (·.1.2)) = some shapes := by
  unfold closure at h
  cases hentry : model.entry? root with
  | none => simp [hentry, throw_eq_error] at h
  | some entry =>
    simp only [hentry, bind_eq_ok, mapError_eq_ok, sorted] at h
    obtain ⟨seen, hseen, hsorted⟩ := h
    refine ⟨seen, (Visited.start hentry).of_explore hseen, ?_⟩
    split at hsorted
    · rename_i hsort
      rw [hsort, Except.ok.inj hsorted]
    · simp at hsorted

/-- **The closure holds what the root reaches.** -/
theorem mem_closure_iff (h : model.closure root = .ok shapes) {shape : Shape} :
    shape ∈ shapes ↔ ∃ id, model.Reaches root id ∧ model.shape? id = some shape := by
  obtain ⟨seen, hvisited, hsort⟩ := exists_visited_of_closure h
  rw [(ShapeId.perm_of_sortBy? hsort).mem_iff, List.mem_map]
  constructor
  · rintro ⟨entry, hentry, rfl⟩
    exact ⟨entry.1.1, hvisited.reaches entry (by simpa using hentry), entry.shape?⟩
  · rintro ⟨id, hreaches, hshape⟩
    obtain ⟨entry, hentry, rfl⟩ := List.mem_map.1 (hvisited.mem_ids_of_reaches hreaches)
    exact ⟨entry, hentry, Option.some.inj (entry.shape?.symm.trans hshape)⟩

theorem shape?_of_mem_closure (h : model.closure root = .ok shapes) {shape : Shape}
    (hmem : shape ∈ shapes) : model.shape? shape.id = some shape := by
  obtain ⟨id, -, hshape⟩ := (mem_closure_iff h).1 hmem
  rwa [id_eq_of_shape? hshape]

/-- **The closure lists every shape once**, in ascending order of ids. -/
theorem pairwise_precedes_closure (h : model.closure root = .ok shapes) :
    shapes.Pairwise fun first second => first.id.Precedes second.id := by
  obtain ⟨seen, hvisited, hsort⟩ := exists_visited_of_closure h
  refine ShapeId.pairwise_precedes_of_sortBy? hsort ?_
  have hids : (seen.map (·.1.2)).map Shape.id = ids seen := by
    rw [List.map_map]
    exact List.map_congr_left fun entry _ => entry.id_shape
  rw [hids]
  exact hvisited.nodup

theorem incomparable_of_mem_closure (h : model.closure root = .ok shapes) {first second : Shape}
    (hfirst : first ∈ shapes) (hsecond : second ∈ shapes) :
    first.id.incomparable second.id = false := by
  obtain ⟨seen, -, hsort⟩ := exists_visited_of_closure h
  exact ShapeId.incomparable_of_sortBy? hsort hfirst hsecond

/-- **References stay inside the closure.** -/
theorem target_mem_closure (h : model.closure root = .ok shapes) {shape target : Shape}
    {id : ShapeId} (hmem : shape ∈ shapes) (htarget : id ∈ shape.targets)
    (hshape : model.shape? id = some target) : target ∈ shapes := by
  obtain ⟨_, hreaches, hfrom⟩ := (mem_closure_iff h).1 hmem
  exact (mem_closure_iff h).2 ⟨id, hreaches.tail ⟨shape, hfrom, htarget⟩, hshape⟩

/-- **No reference of the closure is missing.** -/
theorem exists_target_mem_closure (h : model.closure root = .ok shapes) {shape : Shape}
    {id : ShapeId} (hmem : shape ∈ shapes) (htarget : id ∈ shape.targets) :
    ∃ target ∈ shapes, model.shape? id = some target := by
  obtain ⟨seen, hvisited, -⟩ := exists_visited_of_closure h
  obtain ⟨_, hreaches, hfrom⟩ := (mem_closure_iff h).1 hmem
  obtain ⟨entry, -, rfl⟩ :=
    List.mem_map.1 (hvisited.mem_ids_of_reaches (hreaches.tail ⟨shape, hfrom, htarget⟩))
  exact ⟨entry.1.2, target_mem_closure h hmem htarget entry.shape?, entry.shape?⟩

end Closure

/-! ## Evaluation

The search recurses on what it has not seen, which no evaluation follows.  A bound on the number of
steps makes it structural. -/

/-- The search with a bound on its steps. -/
def exploreWithin (model : Model) :
    Nat → List model.Entry → List model.Entry → Option (List model.Entry)
  | _, seen, [] => some seen
  | 0, _, _ :: _ => none
  | bound + 1, seen, entry :: rest =>
    if seen.any (·.1.1 == entry.1.1) then exploreWithin model bound seen rest
    else
      match model.expand (entry :: seen) entry.1.2 with
      | .ok found => exploreWithin model bound (entry :: seen) (found.reverse ++ rest)
      | .error _ => none

theorem explore_eq_ok_of_exploreWithin {bound : Nat} {seen pending found : List model.Entry}
    (h : model.exploreWithin bound seen pending = some found) :
    model.explore seen pending = .ok found := by
  -- On the bound: each step of the bounded search is the same step of the search.
  induction bound generalizing seen pending with
  | zero =>
    cases pending with
    | nil => rw [explore, Option.some.inj h]
    | cons entry rest => simp [exploreWithin] at h
  | succ bound ih =>
    cases pending with
    | nil => rw [explore, Option.some.inj h]
    | cons entry rest =>
      rw [explore]
      rw [exploreWithin] at h
      split at h
      · rename_i hmem
        rw [if_pos hmem]
        exact ih h
      · rename_i hnew
        rw [if_neg hnew]
        cases hexpand : model.expand (entry :: seen) entry.1.2 with
        | error fault => simp [hexpand] at h
        | ok next =>
          simp only [hexpand] at h ⊢
          exact ih h

/-- The shapes that a root reaches within a number of steps, in the order in which the search leaves
them. -/
def search (model : Model) (bound : Nat) (root : ShapeId) : Option (List Shape) := do
  let entry ← model.entry? root
  return (← model.exploreWithin bound [] [entry]).map (·.1.2)

/-- A bounded search that leaves its shapes in ascending order has found the closure. -/
theorem closure_eq_ok_of_search {bound : Nat} {shapes : List Shape}
    (h : model.search bound root = some shapes)
    (hcomp : ∀ a ∈ shapes.map Shape.id, ∀ b ∈ shapes.map Shape.id, a.incomparable b = false)
    (hle : (shapes.map Shape.id).Pairwise fun a b => a.le b = true) :
    model.closure root = .ok shapes := by
  simp only [search, Option.bind_eq_bind, Option.bind_eq_some_iff, Option.pure_def,
    Option.some.injEq] at h
  obtain ⟨entry, hentry, found, hfound, rfl⟩ := h
  have hsorted : sorted (found.map (·.1.2)) = .ok (found.map (·.1.2)) := by
    rw [sorted, ShapeId.sortBy?_of_pairwise (fun s hs t ht => hcomp _ (List.mem_map_of_mem hs) _
      (List.mem_map_of_mem ht)) (List.pairwise_map.1 hle)]
  simp only [closure, hentry, explore_eq_ok_of_exploreWithin hfound]
  exact hsorted

end ClientGen.Model
