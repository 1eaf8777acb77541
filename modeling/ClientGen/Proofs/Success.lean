import ClientGen.Failure
import Mathlib.Data.List.Forall2

/-!
# Computations that succeed or fail

What the success of a computation says about its parts: a sequence succeeds exactly if every part
does, and it fails with the failure of its first part that does.  These are the rules by which a run
is taken apart.
-/

namespace ClientGen

variable {ε ε' α β : Type}

theorem bind_eq_ok {x : Except ε α} {f : α → Except ε β} {b : β} :
    (x >>= f) = .ok b ↔ ∃ a, x = .ok a ∧ f a = .ok b := by
  cases x with
  | error fault => simp [bind, Except.bind]
  | ok a => simp [bind, Except.bind]

theorem mapError_eq_ok {reword : ε → ε'} {x : Except ε α} {a : α} :
    Except.mapError reword x = .ok a ↔ x = .ok a := by
  cases x with
  | error fault => simp [Except.mapError]
  | ok a => simp [Except.mapError]

theorem pure_eq_ok {a b : α} : (pure a : Except ε α) = .ok b ↔ a = b := by
  simp [pure, Except.pure]

theorem mapM_eq_ok {f : α → Except ε β} {xs : List α} {ys : List β} :
    xs.mapM f = .ok ys ↔ List.Forall₂ (fun x y => f x = .ok y) xs ys := by
  induction xs generalizing ys with
  | nil =>
    rw [List.mapM_nil, pure_eq_ok, List.forall₂_nil_left_iff]
    exact eq_comm
  | cons x rest ih =>
    simp only [List.mapM_cons, bind_eq_ok, pure_eq_ok, ih, List.forall₂_cons_left_iff]
    constructor
    · rintro ⟨y, hy, ys', hys', rfl⟩
      exact ⟨y, ys', hy, hys', rfl⟩
    · rintro ⟨y, ys', hy, hys', rfl⟩
      exact ⟨y, hy, ys', hys', rfl⟩

theorem exists_of_mem_mapM {f : α → Except ε β} {xs : List α} {ys : List β}
    (h : xs.mapM f = .ok ys) {y : β} (hy : y ∈ ys) : ∃ x ∈ xs, f x = .ok y := by
  replace h := mapM_eq_ok.1 h
  induction h with
  | nil => simp at hy
  | @cons x z rest others hx _ ih =>
    rcases List.mem_cons.1 hy with rfl | hy
    · exact ⟨x, List.mem_cons_self, hx⟩
    · obtain ⟨w, hw, hfw⟩ := ih hy
      exact ⟨w, List.mem_cons_of_mem x hw, hfw⟩

theorem exists_mem_of_mapM {f : α → Except ε β} {xs : List α} {ys : List β}
    (h : xs.mapM f = .ok ys) {x : α} (hx : x ∈ xs) : ∃ y ∈ ys, f x = .ok y := by
  replace h := mapM_eq_ok.1 h
  induction h with
  | nil => simp at hx
  | @cons z y rest others hy _ ih =>
    rcases List.mem_cons.1 hx with rfl | hx
    · exact ⟨y, List.mem_cons_self, hy⟩
    · obtain ⟨w, hw, hfw⟩ := ih hx
      exact ⟨w, List.mem_cons_of_mem y hw, hfw⟩

theorem exists_mapM_of_forall {f : α → Except ε β} {xs : List α}
    (h : ∀ x ∈ xs, ∃ y, f x = .ok y) : ∃ ys, xs.mapM f = .ok ys := by
  induction xs with
  | nil => exact ⟨[], rfl⟩
  | cons x rest ih =>
    obtain ⟨⟨y, hy⟩, hrest⟩ := List.forall_mem_cons.1 h
    obtain ⟨ys, hys⟩ := ih hrest
    exact ⟨y :: ys, mapM_eq_ok.2 (.cons hy (mapM_eq_ok.1 hys))⟩

/-- What every step of a loop keeps holds after the loop, together with what each step adds. -/
theorem foldlM_spec {f : β → α → Except ε β} {I : β → Prop} {Q : β → α → Prop} {xs : List α}
    (hstep : ∀ b, I b → ∀ x ∈ xs, ∀ b', f b x = .ok b' →
      I b' ∧ Q b' x ∧ ∀ y, Q b y → Q b' y)
    {first last : β} (hfirst : I first) (h : xs.foldlM f first = .ok last) :
    I last ∧ (∀ x ∈ xs, Q last x) ∧ ∀ y, Q first y → Q last y := by
  -- On the list, for every start: what a step has added, the steps behind it keep.
  induction xs generalizing first with
  | nil =>
    obtain rfl := pure_eq_ok.1 h
    exact ⟨hfirst, by simp, fun _ hy => hy⟩
  | cons x rest ih =>
    obtain ⟨next, hnext, h⟩ := bind_eq_ok.1 h
    obtain ⟨hinvariant, hadded, hkept⟩ := hstep first hfirst x List.mem_cons_self next hnext
    obtain ⟨hlast, hothers, hkept'⟩ :=
      ih (fun b hb y hy => hstep b hb y (List.mem_cons_of_mem x hy)) hinvariant h
    refine ⟨hlast, ?_, fun y hy => hkept' y (hkept y hy)⟩
    intro y hy
    rcases List.mem_cons.1 hy with rfl | hy
    · exact hkept' y hadded
    · exact hothers y hy

/-- Lists that are found one after another are, taken together, what each of them is. -/
theorem flatMap_flatten_of_mapM {γ : Type} {f : α → Except ε (List β)} {xs : List α}
    {found : List (List β)} {g : β → List γ} {whole : α → List γ} (h : xs.mapM f = .ok found)
    (hall : ∀ x ∈ xs, ∀ ys ∈ found, f x = .ok ys → ys.flatMap g = whole x) :
    found.flatten.flatMap g = xs.flatMap whole := by
  replace h := mapM_eq_ok.1 h
  induction h with
  | nil => rfl
  | @cons x ys rest others hx _ ih =>
    rw [List.flatten_cons, List.flatMap_append, List.flatMap_cons,
      hall x List.mem_cons_self ys List.mem_cons_self hx,
      ih fun z hz zs hzs => hall z (List.mem_cons_of_mem x hz) zs (List.mem_cons_of_mem ys hzs)]

/-! ## Failures -/

theorem throw_eq_error {fault : ε} : (throw fault : Except ε α) = .error fault := rfl

theorem bind_eq_error {x : Except ε α} {f : α → Except ε β} {fault : ε} :
    (x >>= f) = .error fault ↔ x = .error fault ∨ ∃ a, x = .ok a ∧ f a = .error fault := by
  cases x with
  | error other => simp [bind, Except.bind]
  | ok a => simp [bind, Except.bind]

theorem mapError_eq_error {reword : ε → ε'} {x : Except ε α} {fault : ε'} :
    Except.mapError reword x = .error fault ↔ ∃ cause, x = .error cause ∧ reword cause = fault := by
  cases x with
  | error cause => simp [Except.mapError]
  | ok a => simp [Except.mapError]

theorem pure_ne_error {a : α} {fault : ε} : (pure a : Except ε α) ≠ .error fault := by
  simp [pure, Except.pure]

theorem exists_of_mapM_eq_error {f : α → Except ε β} {xs : List α} {fault : ε}
    (h : xs.mapM f = .error fault) : ∃ x ∈ xs, f x = .error fault := by
  induction xs with
  | nil => exact absurd h pure_ne_error
  | cons x rest ih =>
    rw [List.mapM_cons] at h
    rcases bind_eq_error.1 h with h | ⟨y, -, h⟩
    · exact ⟨x, List.mem_cons_self, h⟩
    · rcases bind_eq_error.1 h with h | ⟨ys, -, h⟩
      · obtain ⟨z, hz, hfault⟩ := ih h
        exact ⟨z, List.mem_cons_of_mem x hz, hfault⟩
      · exact absurd h pure_ne_error

theorem exists_of_foldlM_eq_error {f : β → α → Except ε β} {xs : List α} {b : β} {fault : ε}
    (h : xs.foldlM f b = .error fault) : ∃ b', ∃ x ∈ xs, f b' x = .error fault := by
  induction xs generalizing b with
  | nil => exact absurd h pure_ne_error
  | cons x rest ih =>
    rw [List.foldlM_cons] at h
    rcases bind_eq_error.1 h with h | ⟨next, -, h⟩
    · exact ⟨b, x, List.mem_cons_self, h⟩
    · obtain ⟨b', y, hy, hfault⟩ := ih h
      exact ⟨b', y, List.mem_cons_of_mem x hy, hfault⟩

end ClientGen
