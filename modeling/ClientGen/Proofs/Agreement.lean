import ClientGen.Entries
import ClientGen.Proofs.Success
import Mathlib.Data.Option.Basic

/-!
# Two computations that agree

Two computations agree if both give values or both fail, and the values, or the faults, are related.
Agreement goes through every way in which computations are put together, so that two runs of the
same program on related data can be compared part by part.

## Main definitions

* `Agree` — both succeed with related values, or both fail with related faults.

## Main results

* `Agree.bind`, `Agree.mapM`, `Agree.foldlM` — sequences agree if their parts do.
* `rel_lookup`, `rel_find?` — what is found in related lists is related.
* `forall₂_mergeSort` — related lists are sorted alike.
-/

namespace ClientGen

variable {ε ε' α β γ δ : Type}

/-- Two computations agree: both give related values, or both fail with related faults. -/
inductive Agree (F : ε → ε' → Prop) (R : α → β → Prop) : Except ε α → Except ε' β → Prop
  | ok {a : α} {b : β} (h : R a b) : Agree F R (.ok a) (.ok b)
  | error {fault : ε} {fault' : ε'} (h : F fault fault') : Agree F R (.error fault) (.error fault')

namespace Agree

variable {F : ε → ε' → Prop} {R : α → β → Prop} {S : γ → δ → Prop} {x : Except ε α}
  {y : Except ε' β}

theorem refl {F : ε → ε → Prop} {R : α → α → Prop} (hfault : ∀ fault, F fault fault)
    (hvalue : ∀ a, R a a) (x : Except ε α) : Agree F R x x := by
  cases x with
  | error fault => exact .error (hfault fault)
  | ok a => exact .ok (hvalue a)

theorem eq {x y : Except ε α} (h : Agree Eq Eq x y) : x = y := by
  cases h with
  | ok h => rw [h]
  | error h => rw [h]

theorem imp {G : ε → ε' → Prop} {T : α → β → Prop} (h : Agree F R x y)
    (hfault : ∀ fault fault', F fault fault' → G fault fault')
    (hvalue : ∀ a b, R a b → T a b) : Agree G T x y := by
  cases h with
  | ok h => exact .ok (hvalue _ _ h)
  | error h => exact .error (hfault _ _ h)

theorem trans {F : ε → ε → Prop} {R : α → α → Prop} {x y z : Except ε α}
    (hfault : ∀ a b c, F a b → F b c → F a c) (hvalue : ∀ a b c, R a b → R b c → R a c)
    (h : Agree F R x y) (h' : Agree F R y z) : Agree F R x z := by
  cases h with
  | ok h =>
    cases h' with
    | ok h' => exact .ok (hvalue _ _ _ h h')
  | error h =>
    cases h' with
    | error h' => exact .error (hfault _ _ _ h h')

theorem bind {f : α → Except ε γ} {g : β → Except ε' δ} (h : Agree F R x y)
    (hrest : ∀ a b, R a b → Agree F S (f a) (g b)) : Agree F S (x >>= f) (y >>= g) := by
  cases h with
  | ok h => exact hrest _ _ h
  | error h => exact .error h

theorem mapError {G : γ → δ → Prop} {f : ε → γ} {g : ε' → δ} (h : Agree F R x y)
    (hrest : ∀ fault fault', F fault fault' → G (f fault) (g fault')) :
    Agree G R (x.mapError f) (y.mapError g) := by
  cases h with
  | ok h => exact .ok h
  | error h => exact .error (hrest _ _ h)

/-- **A list is gone through in agreement** if its elements are. -/
theorem mapM {f : γ → Except ε α} {g : δ → Except ε' β} {xs : List γ} {ys : List δ}
    (h : List.Forall₂ S xs ys) (hstep : ∀ x ∈ xs, ∀ y ∈ ys, S x y → Agree F R (f x) (g y)) :
    Agree F (List.Forall₂ R) (xs.mapM f) (ys.mapM g) := by
  induction h with
  | nil => exact .ok .nil
  | @cons x y xs ys hxy _ ih =>
    rw [List.mapM_cons, List.mapM_cons]
    refine (hstep x List.mem_cons_self y List.mem_cons_self hxy).bind fun a b hab => ?_
    refine (ih fun x hx y hy => hstep x (List.mem_cons_of_mem _ hx) y
      (List.mem_cons_of_mem _ hy)).bind fun as bs hs => ?_
    exact .ok (.cons hab hs)

/-- **States are carried along in agreement** if every step keeps them related. -/
theorem foldlM {f : α → γ → Except ε α} {g : β → δ → Except ε' β} {xs : List γ} {ys : List δ}
    (h : List.Forall₂ S xs ys)
    (hstep : ∀ a b, R a b → ∀ x y, S x y → Agree F R (f a x) (g b y)) {a : α} {b : β}
    (hab : R a b) : Agree F R (xs.foldlM f a) (ys.foldlM g b) := by
  induction h generalizing a b with
  | nil => exact .ok hab
  | @cons x y xs ys hxy _ ih =>
    rw [List.foldlM_cons, List.foldlM_cons]
    exact (hstep a b hab x y hxy).bind fun _ _ => ih

end Agree

/-! ## Related lists -/

/-- A key is there exactly if it has a value. -/
theorem has_eq_isSome_lookup {κ : Type} [BEq κ] [LawfulBEq κ] (key : κ) (xs : List (κ × α)) :
    Entries.has key xs = (xs.lookup key).isSome := by
  induction xs with
  | nil => rfl
  | cons x rest ih =>
    obtain ⟨k, a⟩ := x
    have hcomm : (k == key) = (key == k) := BEq.comm
    rw [Entries.has] at ih
    rw [Entries.has, List.any_cons, List.lookup_cons, ih, hcomm]
    cases key == k <;> rfl

/-- Leaving out one key leaves what is found under the others. -/
theorem lookup_filter_of_ne {κ : Type} [BEq κ] [LawfulBEq κ] {key removed : κ} (h : key ≠ removed)
    (xs : List (κ × α)) : (xs.filter (·.1 != removed)).lookup key = xs.lookup key := by
  rw [Entries.lookup_filter_key (· != removed), if_pos (by simpa using h)]

/-- Values that are changed under their keys are found changed. -/
theorem lookup_map_of_key {κ : Type} [BEq κ] [LawfulBEq κ] (f : κ → α → β) (key : κ)
    (xs : List (κ × α)) :
    (xs.map fun x => (x.1, f x.1 x.2)).lookup key = (xs.lookup key).map (f key) := by
  induction xs with
  | nil => rfl
  | cons x rest ih =>
    obtain ⟨k, a⟩ := x
    rw [List.map_cons, List.lookup_cons, List.lookup_cons, ih]
    by_cases hkey : key = k
    · simp [hkey]
    · simp [beq_false_of_ne hkey]

/-- Values under keys of their own are found by these. -/
theorem lookup_map_self {κ : Type} [BEq κ] [LawfulBEq κ] (f : α → κ) (key : κ) (values : List α) :
    (values.map fun value => (f value, value)).lookup key = values.find? (f · == key) := by
  induction values with
  | nil => rfl
  | cons value rest ih =>
    rw [List.map_cons, List.lookup_cons, List.find?_cons, ih]
    by_cases hkey : f value = key
    · simp [hkey]
    · rw [beq_false_of_ne hkey, beq_false_of_ne (Ne.symm hkey)]

variable {κ : Type} [BEq κ] {R : α → β → Prop}

theorem forall₂_imp_of_mem {S : α → β → Prop} {xs : List α} {ys : List β}
    (h : List.Forall₂ R xs ys) (himp : ∀ x ∈ xs, ∀ y ∈ ys, R x y → S x y) :
    List.Forall₂ S xs ys := by
  rw [List.forall₂_iff_zip] at h ⊢
  exact ⟨h.1, fun hmem => himp _ (List.of_mem_zip hmem).1 _ (List.of_mem_zip hmem).2 (h.2 hmem)⟩

/-- Two lists have the same images exactly if their elements have, one by one. -/
theorem map_eq_map_iff_forall₂ {f : α → γ} {g : β → γ} {xs : List α} {ys : List β} :
    xs.map f = ys.map g ↔ List.Forall₂ (fun x y => f x = g y) xs ys := by
  rw [← List.forall₂_eq_eq_eq, List.forall₂_map_left_iff, List.forall₂_map_right_iff]

theorem exists_of_forall₂ {xs : List α} {ys : List β} (h : List.Forall₂ R xs ys) {x : α}
    (hx : x ∈ xs) : ∃ y ∈ ys, R x y := by
  induction h with
  | nil => simp at hx
  | @cons x' y xs ys hxy _ ih =>
    rcases List.mem_cons.1 hx with rfl | hx
    · exact ⟨y, List.mem_cons_self, hxy⟩
    · obtain ⟨z, hz, hxz⟩ := ih hx
      exact ⟨z, List.mem_cons_of_mem y hz, hxz⟩

theorem rel_lookup {xs : List (κ × α)} {ys : List (κ × β)}
    (h : List.Forall₂ (fun x y => x.1 = y.1 ∧ R x.2 y.2) xs ys) (key : κ) :
    Option.Rel R (xs.lookup key) (ys.lookup key) := by
  induction h with
  | nil => exact .none
  | @cons x y xs ys hxy _ ih =>
    obtain ⟨k, a⟩ := x
    obtain ⟨k', b⟩ := y
    obtain ⟨rfl, hab⟩ := hxy
    simp only [List.lookup_cons]
    split
    · exact .some hab
    · exact ih

theorem rel_find? {p : α → Bool} {q : β → Bool} {xs : List α} {ys : List β}
    (h : List.Forall₂ R xs ys) (hpq : ∀ x y, R x y → p x = q y) :
    Option.Rel R (xs.find? p) (ys.find? q) := by
  induction h with
  | nil => exact .none
  | @cons x y xs ys hxy _ ih =>
    simp only [List.find?_cons, hpq x y hxy]
    split
    · exact .some hxy
    · exact ih

theorem forall₂_put {xs : List (κ × α)} {ys : List (κ × β)}
    (h : List.Forall₂ (fun x y => x.1 = y.1 ∧ R x.2 y.2) xs ys) (key : κ) {a : α} {b : β}
    (hab : R a b) :
    List.Forall₂ (fun x y => x.1 = y.1 ∧ R x.2 y.2) (Entries.put key a xs)
      (Entries.put key b ys) := by
  induction h with
  | nil => exact .cons ⟨rfl, hab⟩ .nil
  | @cons x y xs ys hxy hrest ih =>
    obtain ⟨k, x⟩ := x
    obtain ⟨k', y⟩ := y
    obtain ⟨rfl, hxy⟩ := hxy
    rw [Entries.put, Entries.put]
    split
    · exact .cons ⟨rfl, hab⟩ hrest
    · exact .cons ⟨rfl, hxy⟩ ih

theorem has_eq_of_forall₂ {xs : List (κ × α)} {ys : List (κ × β)}
    (h : List.Forall₂ (fun x y => x.1 = y.1 ∧ R x.2 y.2) xs ys) (key : κ) :
    Entries.has key xs = Entries.has key ys := by
  induction h with
  | nil => rfl
  | cons hxy _ ih => exact congrArg₂ or (congrArg (· == key) hxy.1) ih

/-- **Related lists are sorted alike** if related elements are compared alike. -/
theorem forall₂_mergeSort {le : α → α → Bool} {le' : β → β → Bool} {xs : List α} {ys : List β}
    (h : List.Forall₂ R xs ys)
    (hle : ∀ x y, R x y → ∀ x' y', R x' y' → le x x' = le' y y') :
    List.Forall₂ R (xs.mergeSort le) (ys.mergeSort le') := by
  obtain ⟨hlength, hrel⟩ := List.forall₂_iff_zip.1 h
  -- Sorting the list of pairs sorts both lists at once.
  have hfirst := List.map_mergeSort (r := fun z z' => le z.1 z'.1) (s := le) (f := Prod.fst)
    (l := xs.zip ys) fun _ _ _ _ => rfl
  have hsecond := List.map_mergeSort (r := fun z z' => le z.1 z'.1) (s := le') (f := Prod.snd)
    (l := xs.zip ys) fun z hz z' hz' => hle _ _ (hrel hz) _ _ (hrel hz')
  rw [List.map_fst_zip (Nat.le_of_eq hlength)] at hfirst
  rw [List.map_snd_zip (Nat.le_of_eq hlength.symm)] at hsecond
  rw [← hfirst, ← hsecond, List.forall₂_map_left_iff, List.forall₂_map_right_iff, List.forall₂_same]
  exact fun z hz => hrel (List.mem_mergeSort.1 hz)

end ClientGen
