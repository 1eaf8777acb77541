import Mathlib.Data.List.Basic

/-!
# Updates in place, and calls one after another

Some parts of the library are kept while they change, and outlive the calls that fail.  A call on
them is written here as an update in place, write by write: what an update has written before it
fails stays written, so that a failing call changes nothing has to be shown of every call.

Calls that are made one after another have a history, the answers in their order.  Where a state
only shows what the history says, that is shown for one call and follows for all
(`Calls.after_eq_foldl`).

## Main definitions

* `Update` — a computation on a state in place, `Update.perform` what it gives and leaves behind.
* `Calls.after`, `Calls.history` — the state after calls, and the answers to them.

## Main results

* `Update.perform_bind` — updates one after the other.
* `Calls.after_eq_foldl` — a state as the sum of its history.
-/

namespace ClientGen

/-- A computation on a state in place: what it has written stays written when it fails. -/
abbrev Update (ε σ α : Type) : Type :=
  ExceptT ε (StateM σ) α

namespace Update

variable {ε σ α β : Type} {state : σ}

/-- What an update gives, and the state that it leaves behind. -/
def perform (update : Update ε σ α) (state : σ) : Except ε α × σ :=
  (update.run.run state).run

theorem perform_bind (update : Update ε σ α) (next : α → Update ε σ β) :
    (update >>= next).perform state =
      match update.perform state with
      | (.ok a, state) => (next a).perform state
      | (.error fault, state) => (.error fault, state) := by
  simp only [perform, ExceptT.run_bind, StateT.run_bind, Id.run_bind]
  cases (update.run.run state).run with
  | mk answer next => cases answer <;> rfl

theorem perform_get : (get : Update ε σ σ).perform state = (.ok state, state) := rfl

theorem perform_modify (f : σ → σ) :
    (modify f : Update ε σ Unit).perform state = (.ok (), f state) := rfl

theorem perform_throw (fault : ε) :
    (throw fault : Update ε σ α).perform state = (.error fault, state) := rfl

theorem perform_pure (a : α) : (pure a : Update ε σ α).perform state = (.ok a, state) := rfl

end Update

namespace Calls

variable {σ ι α β τ : Type} (on : ι → σ → α × σ)

/-- The state after calls that are made one after another. -/
def after (state : σ) : List ι → σ
  | [] => state
  | call :: rest => after (on call state).2 rest

/-- Calls that are made one after another, each with the answer to it. -/
def history (state : σ) : List ι → List (ι × α)
  | [] => []
  | call :: rest => (call, (on call state).1) :: history (on call state).2 rest

variable {on} {state : σ} {calls : List ι}

theorem after_append {rest : List ι} :
    after on state (calls ++ rest) = after on (after on state calls) rest := by
  induction calls generalizing state with
  | nil => rfl
  | cons call others ih => exact ih

/-- What every call keeps holds after all of them. -/
theorem invariant {I : σ → Prop} (hstep : ∀ call state, I state → I (on call state).2)
    (h : I state) : I (after on state calls) := by
  induction calls generalizing state with
  | nil => exact h
  | cons call rest ih => exact ih (hstep call state h)

/-- **A state is the sum of its history** as far as every call adds only what its answer says. -/
theorem after_eq_foldl (view : σ → τ) {add : τ → β → τ} {given : ι × α → Option β}
    (hstep : ∀ call state, view (on call state).2
      = (given (call, (on call state).1)).toList.foldl add (view state)) :
    view (after on state calls)
      = ((history on state calls).filterMap given).foldl add (view state) := by
  induction calls generalizing state with
  | nil => rfl
  | cons call rest ih =>
    rw [after, ih, hstep, history, List.filterMap_cons]
    cases given (call, (on call state).1) <;> rfl

end Calls

end ClientGen
