import ClientGen.Proofs.Agreement
import ClientGen.Proofs.Model.Closure
import Mathlib.Data.List.Perm.Basic

/-!
# Closures of two models

Two models are compared on what a root reaches: under every id that is reached, both or neither
hold a shape, and the two shapes are related.  If related shapes refer to the same shapes, the root
reaches the same in both models, whatever else the models hold and in whatever order; so one closure
is found exactly if the other is, and the two list related shapes.  If related shapes refer to the
same shapes in the same order, the two searches go step by step together, and fail in the same way
too.

## Main definitions

* `Model.Matches` — two models hold related shapes where a root reaches.

## Main results

* `exists_closure_iff` — a closure is found if nothing is missing and all ids can be compared.
* `closure_eq_error` — why there is no closure.
* `Matches.closure_agree` — related models have related closures, or none.
* `Matches.closure_agree_of_targets` — in the same order of references, for the same reason.
-/

namespace ClientGen.Model

open Entry (ids mem_ids)

variable {model model' : Model} {root : ShapeId} {R : Shape → Shape → Prop}

/-! ## When there is a closure -/

theorem shape?_of_entry?_eq_none {id : ShapeId} (h : model.entry? id = none) :
    model.shape? id = none := by
  unfold entry? at h
  split at h
  · simp at h
  · rename_i hfind
    by_contra hshape
    obtain ⟨shape, hshape⟩ := Option.ne_none_iff_exists'.1 hshape
    simpa using List.find?_eq_none.1 hfind _ (shape?_eq_some_iff.1 hshape)

theorem entry?_eq_none_iff {id : ShapeId} : model.entry? id = none ↔ model.shape? id = none := by
  refine ⟨shape?_of_entry?_eq_none, fun hshape => ?_⟩
  by_contra hentry
  obtain ⟨entry, hentry⟩ := Option.ne_none_iff_exists'.1 hentry
  have hheld := entry.shape?
  rw [id_eq_of_entry_eq_some hentry, hshape] at hheld
  simp at hheld

/-- If every reference is held, a shape can be expanded. -/
theorem exists_expand {shape : Shape} (seen : List model.Entry)
    (h : ∀ id ∈ shape.targets, (model.shape? id).isSome) :
    ∃ found, model.expand seen shape = .ok found := by
  refine exists_mapM_of_forall fun target htarget => ?_
  have hheld := h target (List.mem_filter.1 htarget).1
  cases hentry : model.entry? target with
  | none => simp [entry?_eq_none_iff.1 hentry] at hheld
  | some entry => exact ⟨entry, rfl⟩

/-- If nothing that is reached is missing, the search succeeds. -/
theorem Visited.exists_explore (hheld : ∀ id, model.Reaches root id → (model.shape? id).isSome)
    {seen pending : List model.Entry} (hinv : Visited root seen pending) :
    ∃ found, model.explore seen pending = .ok found := by
  induction seen, pending using Model.explore.induct model with
  | case1 seen => exact ⟨seen, by rw [explore]⟩
  | case2 seen entry rest hmem ih =>
    rw [explore, if_pos hmem]
    exact ih (hinv.skip (mem_ids.1 (Entry.any_eq_true_iff.1 hmem)))
  | case3 seen entry rest hnew found hexpand ih =>
    rw [explore, if_neg hnew, hexpand]
    refine ih (hinv.visit ?_ hexpand)
    rwa [Entry.any_eq_true_iff, mem_ids] at hnew
  | case4 seen entry rest hnew fault hexpand =>
    -- The references of a shape on the stack are reached, so expanding it cannot fail.
    have hentry := hinv.reaches entry (by simp)
    obtain ⟨found, hfound⟩ := exists_expand (entry :: seen) fun id hid =>
      hheld id (hentry.tail ⟨entry.1.2, entry.shape?, hid⟩)
    rw [hexpand] at hfound
    simp at hfound

/-- **There is a closure** exactly if every shape that is reached is held, and all their ids can be
compared. -/
theorem exists_closure_iff : (∃ shapes, model.closure root = .ok shapes) ↔
    (∀ id, model.Reaches root id → (model.shape? id).isSome) ∧
      ∀ a b, model.Reaches root a → model.Reaches root b → a.incomparable b = false := by
  constructor
  · rintro ⟨shapes, h⟩
    have hheld : ∀ id, model.Reaches root id → (model.shape? id).isSome := by
      intro id hid
      obtain ⟨seen, hvisited, -⟩ := exists_visited_of_closure h
      obtain ⟨entry, -, rfl⟩ := List.mem_map.1 (hvisited.mem_ids_of_reaches hid)
      rw [entry.shape?, Option.isSome_some]
    refine ⟨hheld, fun a b ha hb => ?_⟩
    obtain ⟨shape, hshape⟩ := Option.isSome_iff_exists.1 (hheld a ha)
    obtain ⟨shape', hshape'⟩ := Option.isSome_iff_exists.1 (hheld b hb)
    have hcomp := incomparable_of_mem_closure h ((mem_closure_iff h).2 ⟨a, ha, hshape⟩)
      ((mem_closure_iff h).2 ⟨b, hb, hshape'⟩)
    rwa [id_eq_of_shape? hshape, id_eq_of_shape? hshape'] at hcomp
  · rintro ⟨hheld, hcomp⟩
    -- The walk comes to its end, and what it has seen is reached, so the ids can be sorted.
    cases hentry : model.entry? root with
    | none => simpa [entry?_eq_none_iff.1 hentry] using hheld root .refl
    | some entry =>
      obtain ⟨seen, hseen⟩ := (Visited.start hentry).exists_explore hheld
      have hvisited := (Visited.start hentry).of_explore hseen
      have hsort : ∃ shapes, ShapeId.sortBy? Shape.id (seen.map (·.1.2)) = some shapes := by
        refine ⟨_, ShapeId.sortBy?_eq_some_iff.2 ⟨?_, rfl⟩⟩
        simp only [List.forall_mem_map, Entry.id_shape]
        exact fun a ha b hb => hcomp _ _ (hvisited.reaches a (by simpa using ha))
          (hvisited.reaches b (by simpa using hb))
      obtain ⟨shapes, hshapes⟩ := hsort
      refine ⟨shapes, ?_⟩
      simp only [closure, hentry, hseen, Model.sorted]
      exact bind_eq_ok.2 ⟨seen, rfl, by rw [hshapes]⟩

theorem sorted_eq_error {shapes : List Shape} {failure : Failure}
    (h : sorted shapes = .error failure) : failure = .malformed .kind := by
  unfold sorted at h
  split at h
  · simp at h
  · exact (Except.error.inj h).symm

/-- **Why there is no closure**: a fault of the model, or two shapes that are reached and whose ids
cannot be compared. -/
theorem closure_eq_error {failure : Failure} (h : model.closure root = .error failure) :
    (∃ fault, failure = .model fault) ∨ (failure = .malformed .kind ∧
      ∃ a b : model.Entry, model.Reaches root a.1.1 ∧ model.Reaches root b.1.1 ∧
        a.1.1.incomparable b.1.1 = true) := by
  unfold closure at h
  cases hentry : model.entry? root with
  | none =>
    rw [hentry] at h
    exact .inl ⟨_, (Except.error.inj h).symm⟩
  | some entry =>
    simp only [hentry] at h
    rcases bind_eq_error.1 h with h | ⟨seen, hseen, h⟩
    · obtain ⟨fault, -, rfl⟩ := mapError_eq_error.1 h
      exact .inl ⟨fault, rfl⟩
    · have hvisited := (Visited.start hentry).of_explore (mapError_eq_ok.1 hseen)
      have hsort : ShapeId.sortBy? Shape.id (seen.map (·.1.2)) = none := by
        cases hfound : ShapeId.sortBy? Shape.id (seen.map (·.1.2)) with
        | none => rfl
        | some shapes => simp [sorted, hfound] at h
      obtain ⟨x, hx, y, hy, hxy⟩ := ShapeId.exists_incomparable_of_sortBy? hsort
      obtain ⟨a, ha, rfl⟩ := List.mem_map.1 hx
      obtain ⟨b, hb, rfl⟩ := List.mem_map.1 hy
      rw [a.id_shape, b.id_shape] at hxy
      exact .inr ⟨sorted_eq_error h, a, b, hvisited.reaches a (by simpa using ha),
        hvisited.reaches b (by simpa using hb), hxy⟩

/-! ## Two models -/

/-- Two models match below a root: under every id that it reaches in the first one, both hold
related shapes or neither holds any. -/
def Matches (R : Shape → Shape → Prop) (root : ShapeId) (model model' : Model) : Prop :=
  ∀ id, model.Reaches root id → Option.Rel R (model.shape? id) (model'.shape? id)

/-- Models of related shapes, listed in the same order, hold related shapes under every id. -/
theorem rel_shape?_ofShapes {shapes shapes' : List Shape} (h : List.Forall₂ R shapes shapes')
    (hid : ∀ shape shape', R shape shape' → shape.id = shape'.id)
    (hprelude : ∀ entry ∈ prelude, R entry.2 entry.2) (id : ShapeId) :
    Option.Rel R ((ofShapes shapes).shape? id) ((ofShapes shapes').shape? id) := by
  have hput : ∀ {entries entries' : List (ShapeId × Shape)},
      List.Forall₂ (fun x y => x.1 = y.1 ∧ R x.2 y.2) entries entries' →
      List.Forall₂ (fun x y => x.1 = y.1 ∧ R x.2 y.2)
        (Entries.putAll (shapes.map fun shape => (shape.id, shape)) entries)
        (Entries.putAll (shapes'.map fun shape => (shape.id, shape)) entries') := by
    induction h with
    | nil => exact fun hentries => hentries
    | @cons shape shape' _ _ hshape _ ih =>
      intro entries entries' hentries
      have hfirst := forall₂_put hentries shape.id hshape
      rw [List.map_cons, List.map_cons, ← hid _ _ hshape]
      exact ih hfirst
  exact rel_lookup (hput (List.forall₂_same.2 fun entry hentry => ⟨rfl, hprelude entry hentry⟩)) id

namespace Matches

theorem exists_shape? (h : Matches R root model model') {id : ShapeId}
    (hid : model.Reaches root id) {shape : Shape} (hshape : model.shape? id = some shape) :
    ∃ shape', model'.shape? id = some shape' ∧ R shape shape' := by
  have hrel := h id hid
  rw [hshape] at hrel
  cases hrel' : model'.shape? id with
  | none => rw [hrel'] at hrel; cases hrel
  | some shape' =>
    rw [hrel'] at hrel
    cases hrel with
    | some hrel => exact ⟨shape', rfl, hrel⟩

theorem isSome_shape? (h : Matches R root model model') {id : ShapeId}
    (hid : model.Reaches root id) : (model'.shape? id).isSome = (model.shape? id).isSome := by
  have hrel := h id hid
  revert hrel
  generalize model.shape? id = found, model'.shape? id = found'
  rintro (_ | _) <;> rfl

/-- Under an id that is reached, both models have an entry or neither has one. -/
theorem entry?_cases (h : Matches R root model model') {id : ShapeId}
    (hid : model.Reaches root id) :
    model.entry? id = none ∧ model'.entry? id = none ∨
      ∃ entry entry', model.entry? id = some entry ∧ model'.entry? id = some entry' ∧
        entry.1.1 = id ∧ entry'.1.1 = id := by
  have hheld := h.isSome_shape? hid
  cases hentry : model.entry? id with
  | none =>
    rw [entry?_eq_none_iff.1 hentry, Option.isSome_none, Option.isSome_eq_false_iff,
      Option.isNone_iff_eq_none] at hheld
    exact .inl ⟨rfl, entry?_eq_none_iff.2 hheld⟩
  | some entry =>
    have hfirst := id_eq_of_entry_eq_some hentry
    cases hentry' : model'.entry? id with
    | none =>
      rw [entry?_eq_none_iff.1 hentry', ← hfirst, entry.shape?] at hheld
      simp at hheld
    | some entry' =>
      exact .inr ⟨entry, entry', rfl, rfl, hfirst, id_eq_of_entry_eq_some hentry'⟩

section

variable (h : Matches R root model model')
  (htargets : ∀ shape shape', R shape shape' → ∀ id, id ∈ shape.targets ↔ id ∈ shape'.targets)
include h htargets

/-- **The root reaches the same in both models.** -/
theorem reaches_iff {id : ShapeId} : model'.Reaches root id ↔ model.Reaches root id := by
  constructor
  · intro hid
    induction hid with
    | refl => exact .refl
    | tail _ hrefers ih =>
      obtain ⟨shape', hshape', htarget⟩ := hrefers
      have hheld := h.isSome_shape? ih
      rw [hshape', Option.isSome_some] at hheld
      obtain ⟨shape, hshape⟩ := Option.isSome_iff_exists.1 hheld.symm
      obtain ⟨other, hother, hrel⟩ := h.exists_shape? ih hshape
      obtain rfl := Option.some.inj (hother.symm.trans hshape')
      exact ih.tail ⟨shape, hshape, (htargets _ _ hrel _).2 htarget⟩
  · intro hid
    induction hid with
    | refl => exact .refl
    | tail hprev hrefers ih =>
      obtain ⟨shape, hshape, htarget⟩ := hrefers
      obtain ⟨shape', hshape', hrel⟩ := h.exists_shape? hprev hshape
      exact ih.tail ⟨shape', hshape', (htargets _ _ hrel _).1 htarget⟩

theorem exists_closure_iff : (∃ shapes, model'.closure root = .ok shapes) ↔
    ∃ shapes, model.closure root = .ok shapes := by
  rw [Model.exists_closure_iff, Model.exists_closure_iff]
  simp only [h.reaches_iff htargets]
  refine and_congr_left fun _ => forall₂_congr fun id hid => ?_
  rw [h.isSome_shape? hid]

/-- **Two closures list related shapes**, in the same order. -/
theorem forall₂_closure {shapes shapes' : List Shape} (hclosure : model.closure root = .ok shapes)
    (hclosure' : model'.closure root = .ok shapes') : List.Forall₂ R shapes shapes' := by
  have hids : ∀ {model : Model} {shapes : List Shape}, model.closure root = .ok shapes → ∀ id,
      id ∈ shapes.map Shape.id ↔ model.Reaches root id := by
    intro model shapes hclosure id
    simp only [List.mem_map, mem_closure_iff hclosure]
    constructor
    · rintro ⟨shape, ⟨id, hid, hshape⟩, rfl⟩
      rwa [id_eq_of_shape? hshape]
    · intro hid
      obtain ⟨shape, hshape⟩ :=
        Option.isSome_iff_exists.1 ((Model.exists_closure_iff.1 ⟨_, hclosure⟩).1 id hid)
      exact ⟨shape, ⟨id, hid, hshape⟩, id_eq_of_shape? hshape⟩
  have hsorted : ∀ {model : Model} {shapes : List Shape}, model.closure root = .ok shapes →
      (shapes.map Shape.id).Pairwise ShapeId.Precedes :=
    fun hclosure => List.pairwise_map.2 (pairwise_precedes_closure hclosure)
  -- Both lists of ids are in strictly ascending order, and they hold the same ids.
  have heq : shapes.map Shape.id = shapes'.map Shape.id := by
    refine List.Perm.eq_of_pairwise ?_ (hsorted hclosure) (hsorted hclosure') ?_
    · intro a b _ _ hab hba
      exact absurd hba.1 (by simp [hab.2])
    · refine (List.perm_ext_iff_of_nodup ((hsorted hclosure).imp ShapeId.Precedes.ne)
        ((hsorted hclosure').imp ShapeId.Precedes.ne)).2 fun id => ?_
      rw [hids hclosure, hids hclosure', h.reaches_iff htargets]
  refine forall₂_imp_of_mem (map_eq_map_iff_forall₂.1 heq) fun shape hshape shape' hshape' hid => ?_
  obtain ⟨id, hreaches, hheld⟩ := (mem_closure_iff hclosure).1 hshape
  obtain ⟨other, hother, hrel⟩ := h.exists_shape? hreaches hheld
  have hheld' := shape?_of_mem_closure hclosure' hshape'
  rw [← hid, id_eq_of_shape? hheld] at hheld'
  obtain rfl := Option.some.inj (hother.symm.trans hheld')
  exact hrel

/-- **Models that match have related closures, or none.** -/
theorem closure_agree :
    Agree (fun _ _ => True) (List.Forall₂ R) (model.closure root) (model'.closure root) := by
  have hiff := h.exists_closure_iff htargets
  cases hclosure : model.closure root with
  | ok shapes =>
    obtain ⟨shapes', hclosure'⟩ := hiff.2 ⟨shapes, hclosure⟩
    rw [hclosure']
    exact .ok (h.forall₂_closure htargets hclosure hclosure')
  | error failure =>
    cases hclosure' : model'.closure root with
    | ok shapes' =>
      obtain ⟨shapes, hshapes⟩ := hiff.1 ⟨shapes', hclosure'⟩
      simp [hclosure] at hshapes
    | error failure' => exact .error trivial

end

/-! ### In the same order -/

/-- Where one list goes on, so does the other, under the same id. -/
theorem exists_of_ids_cons_eq {entry : model.Entry} {rest : List model.Entry}
    {pending' : List model'.Entry} (h : ids (entry :: rest) = ids pending') :
    ∃ entry' rest', pending' = entry' :: rest' ∧ entry.1.1 = entry'.1.1 ∧
      ids rest = ids rest' := by
  cases pending' with
  | nil => simp [ids] at h
  | cons entry' rest' =>
    obtain ⟨hid, hrest⟩ := List.cons.inj h
    exact ⟨entry', rest', rfl, hid, hrest⟩

theorem any_congr {seen : List model.Entry} {seen' : List model'.Entry}
    (hseen : ids seen = ids seen') {id id' : ShapeId} (hid : id = id') :
    seen.any (·.1.1 == id) = seen'.any (·.1.1 == id') := by
  rw [Bool.eq_iff_iff, Entry.any_eq_true_iff, Entry.any_eq_true_iff, hseen, hid]

section

variable (h : Matches R root model model')
  (htargets : ∀ shape shape', R shape shape' → shape.targets = shape'.targets)
include h htargets

theorem expand_agree {seen : List model.Entry} {seen' : List model'.Entry}
    (hseen : ids seen = ids seen') {entry : model.Entry} {entry' : model'.Entry}
    (hid : entry.1.1 = entry'.1.1) (hreaches : model.Reaches root entry.1.1) :
    Agree Eq (fun found found' => ids found = ids found') (model.expand seen entry.1.2)
      (model'.expand seen' entry'.1.2) := by
  obtain ⟨shape', hshape', hrel⟩ := h.exists_shape? hreaches entry.shape?
  rw [hid, entry'.shape?] at hshape'
  obtain rfl := Option.some.inj hshape'
  have hnew : (entry.1.2.targets.filter fun target => !seen.any (·.1.1 == target))
      = entry'.1.2.targets.filter fun target => !seen'.any (·.1.1 == target) := by
    simp only [any_congr hseen rfl, htargets _ _ hrel]
  have hsame : entry.1.2.id = entry'.1.2.id := by rw [entry.id_shape, entry'.id_shape, hid]
  unfold expand
  rw [← hnew, hsame]
  refine (Agree.mapM (S := Eq) (R := fun (a : model.Entry) (b : model'.Entry) => a.1.1 = b.1.1)
    (List.forall₂_same.2 fun _ _ => rfl) ?_).imp (fun _ _ => id) ?_
  · rintro target htarget _ - rfl
    rcases h.entry?_cases (hreaches.tail ⟨entry.1.2, entry.shape?,
      (List.mem_filter.1 htarget).1⟩) with ⟨hnone, hnone'⟩ | ⟨_, _, hsome, hsome', hid, hid'⟩
    · rw [hnone, hnone']
      exact .error rfl
    · rw [hsome, hsome']
      exact .ok (hid.trans hid'.symm)
  · intro found found' hfound
    exact map_eq_map_iff_forall₂.2 hfound

/-- **The two searches go together**, step by step. -/
theorem explore_agree {seen pending : List model.Entry} {seen' pending' : List model'.Entry}
    (hseen : ids seen = ids seen') (hpending : ids pending = ids pending')
    (hreaches : ∀ entry ∈ pending, model.Reaches root entry.1.1) :
    Agree Eq (fun found found' => ids found = ids found') (model.explore seen pending)
      (model'.explore seen' pending') := by
  induction seen, pending using Model.explore.induct model generalizing seen' pending' with
  | case1 seen =>
    obtain rfl : pending' = [] := List.map_eq_nil_iff.1 hpending.symm
    rw [explore, explore]
    exact .ok hseen
  | case2 seen entry rest hmem ih =>
    obtain ⟨entry', rest', rfl, hid, hrest⟩ := exists_of_ids_cons_eq hpending
    rw [explore, if_pos hmem, explore, if_pos (any_congr hseen hid ▸ hmem)]
    exact ih hseen hrest fun other hother => hreaches other (List.mem_cons_of_mem entry hother)
  | case3 seen entry rest hnew found hexpand ih =>
    obtain ⟨entry', rest', rfl, hid, hrest⟩ := exists_of_ids_cons_eq hpending
    have hentry := hreaches entry List.mem_cons_self
    have hseen' : ids (entry :: seen) = ids (entry' :: seen') := congrArg₂ List.cons hid hseen
    have hagree := h.expand_agree htargets hseen' hid hentry
    rw [hexpand] at hagree
    cases hexpand' : model'.expand (entry' :: seen') entry'.1.2 with
    | error fault => rw [hexpand'] at hagree; cases hagree
    | ok found' =>
      rw [hexpand'] at hagree
      cases hagree with
      | ok hfound =>
      rw [explore, if_neg hnew, hexpand, explore, if_neg (any_congr hseen hid ▸ hnew), hexpand']
      refine ih hseen' ?_ fun other hother => ?_
      · simp only [ids, List.map_append, List.map_reverse] at hfound hrest ⊢
        rw [hfound, hrest]
      · rcases List.mem_append.1 hother with hfrom | hother
        · have htarget : other.1.1 ∈ ids found := mem_ids.2 (List.mem_reverse.1 hfrom)
          rw [ids_of_expand hexpand] at htarget
          exact hentry.tail ⟨entry.1.2, entry.shape?, (List.mem_filter.1 htarget).1⟩
        · exact hreaches other (List.mem_cons_of_mem entry hother)
  | case4 seen entry rest hnew fault hexpand =>
    obtain ⟨entry', rest', rfl, hid, hrest⟩ := exists_of_ids_cons_eq hpending
    have hseen' : ids (entry :: seen) = ids (entry' :: seen') := congrArg₂ List.cons hid hseen
    have hagree := h.expand_agree htargets hseen' hid (hreaches entry List.mem_cons_self)
    rw [hexpand] at hagree
    cases hexpand' : model'.expand (entry' :: seen') entry'.1.2 with
    | ok found => rw [hexpand'] at hagree; cases hagree
    | error fault' =>
      rw [hexpand'] at hagree
      cases hagree with
      | error hfault =>
      rw [explore, if_neg hnew, hexpand, explore, if_neg (any_congr hseen hid ▸ hnew), hexpand']
      exact .error hfault

/-- **Two searches that fail do so for one reason.** -/
theorem failure_eq_of_targets {failure failure' : Failure}
    (hfailure : model.closure root = .error failure)
    (hfailure' : model'.closure root = .error failure') : failure = failure' := by
  unfold closure at hfailure hfailure'
  rcases h.entry?_cases .refl with ⟨hnone, hnone'⟩ | ⟨entry, entry', hsome, hsome', hid, hid'⟩
  · rw [hnone] at hfailure
    rw [hnone'] at hfailure'
    exact Except.error.inj (hfailure.symm.trans hfailure')
  · have hagree : Agree Eq (fun found found' => ids found = ids found')
        (model.explore [] [entry]) (model'.explore [] [entry']) := by
      refine h.explore_agree htargets rfl (by simp [ids, hid, hid']) fun other hother => ?_
      rw [List.mem_singleton.1 hother, hid]
      exact .refl
    simp only [hsome, hsome'] at hfailure hfailure'
    generalize model.explore [] [entry] = result at hagree hfailure
    generalize model'.explore [] [entry'] = result' at hagree hfailure'
    cases hagree with
    | error hfault =>
      rw [hfault] at hfailure
      exact Except.error.inj (hfailure.symm.trans hfailure')
    | ok hfound =>
      rw [sorted_eq_error hfailure, sorted_eq_error hfailure']

/-- **Models that match in the order of references too have related closures**, or none for the same
reason. -/
theorem closure_agree_of_targets :
    Agree Eq (List.Forall₂ R) (model.closure root) (model'.closure root) := by
  have hsets : ∀ shape shape', R shape shape' → ∀ id, id ∈ shape.targets ↔ id ∈ shape'.targets :=
    fun shape shape' hrel id => by rw [htargets shape shape' hrel]
  have hagree := h.closure_agree hsets
  generalize hclosure : model.closure root = result at hagree ⊢
  generalize hclosure' : model'.closure root = result' at hagree ⊢
  cases hagree with
  | ok hrel => exact .ok hrel
  | error => exact .error (h.failure_eq_of_targets htargets hclosure hclosure')

end

end Matches

end ClientGen.Model
