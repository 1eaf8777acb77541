import ClientGen.Json.Parser

/-!
# Reading within limits

Limits change nothing in what a text stands for.  A reader with limits reads a text like one without
them, to the same value or the same fault, unless it stops where the text goes beyond the limits.

## Main definitions

* `Reader.Complies` — what a limited reader gives, beside what an unlimited one gives.

## Main results

* `parse_limits` — a text is read as without limits, or exceeds them.
-/

namespace ClientGen.Json

namespace Reader

variable {α β : Type}

/-- A limited reader gives what an unlimited one gives, or says that the limits are exceeded. -/
def Complies (limited unlimited : Except Stop α) : Prop :=
  limited = unlimited ∨ ∃ excess, limited = .error (.excess excess)

theorem Complies.refl (result : Except Stop α) : Complies result result :=
  .inl rfl

theorem Complies.bind {limited unlimited : Except Stop α} {next next' : α → Except Stop β}
    (h : Complies limited unlimited) (hnext : ∀ found, Complies (next found) (next' found)) :
    Complies (limited >>= next) (unlimited >>= next') := by
  rcases h with rfl | ⟨excess, rfl⟩
  · cases limited with
    | error stop => exact .inl rfl
    | ok found => exact hnext found
  · exact .inr ⟨excess, rfl⟩

/-- Behind a bracket an unlimited reader has no limits either. -/
theorem Complies.inside {limits : Limits} {next next' : Limits → Except Stop β}
    (hnext : ∀ inner, Complies (next inner) (next' {})) :
    Complies (Reader.inside limits >>= next) (Reader.inside {} >>= next') := by
  unfold Reader.inside
  split
  · exact hnext limits
  · exact .inr ⟨.depth, rfl⟩
  · exact hnext _

/-- A number passes as it is, or not at all. -/
theorem allow_cases (limits : Limits) (read : Front Json) :
    allow limits read = .ok read ∨ ∃ excess, allow limits read = .error (.excess excess) := by
  unfold allow
  split
  · dsimp only
    split
    · exact .inr ⟨_, rfl⟩
    · exact .inl rfl
  · exact .inl rfl

/-- Without limits every number passes. -/
theorem allow_unlimited (read : Front Json) : allow {} read = .ok read := by
  unfold allow
  split
  · rename_i heq
    cases heq
  · rfl

theorem complies_allow (limits : Limits) (read : Front Json) :
    Complies (allow limits read) (allow {} read) := by
  rw [allow_unlimited]
  exact allow_cases limits read

theorem complies_plain (limits : Limits) (cs : List Char) :
    Complies (plain limits cs) (plain {} cs) := by
  unfold plain
  split
  · exact .refl _
  · dsimp only
    split
    · exact complies_allow limits _
    · exact .refl _

/-- With this much fuel, limits only stop the reader. -/
structure Compliant (fuel : Nat) : Prop where
  value : ∀ limits cs, Complies (Reader.value fuel limits cs) (Reader.value fuel {} cs)
  members : ∀ limits done cs,
    Complies (Reader.members fuel limits done cs) (Reader.members fuel {} done cs)
  items : ∀ limits done cs,
    Complies (Reader.items fuel limits done cs) (Reader.items fuel {} done cs)

variable {fuel : Nat}

theorem Compliant.value_succ (h : Compliant fuel) (limits : Limits) (cs : List Char) :
    Complies (Reader.value (fuel + 1) limits cs) (Reader.value (fuel + 1) {} cs) := by
  unfold Reader.value
  split
  · exact .refl _
  · refine .inside fun inner => ?_
    split
    · exact .refl _
    · exact (h.members inner [] _).bind fun _ => .refl _
  · refine .inside fun inner => ?_
    split
    · exact .refl _
    · exact (h.items inner [] _).bind fun _ => .refl _
  · exact complies_plain limits cs

theorem Compliant.members_succ (h : Compliant fuel) (limits : Limits)
    (done : List (String × Json)) (cs : List Char) :
    Complies (Reader.members (fuel + 1) limits done cs) (Reader.members (fuel + 1) {} done cs) := by
  unfold Reader.members
  split
  · refine (Complies.refl _).bind fun name => ?_
    dsimp only
    split
    · refine (h.value limits _).bind fun found => ?_
      split
      · exact .refl _
      · exact h.members limits _ _
      · exact .refl _
    · exact .refl _
  · exact .refl _

theorem Compliant.items_succ (h : Compliant fuel) (limits : Limits) (done : List Json)
    (cs : List Char) :
    Complies (Reader.items (fuel + 1) limits done cs) (Reader.items (fuel + 1) {} done cs) := by
  unfold Reader.items
  refine (h.value limits _).bind fun found => ?_
  dsimp only
  split
  · exact .refl _
  · exact h.items limits _ _
  · exact .refl _

theorem compliant (fuel : Nat) : Compliant fuel := by
  induction fuel with
  | zero => constructor <;> intros <;> exact .inl (by simp [value, members, items])
  | succ fuel ih => exact ⟨ih.value_succ, ih.members_succ, ih.items_succ⟩

theorem complies_document (limits : Limits) (cs : List Char) :
    Complies (document limits cs) (document {} cs) := by
  have hvalue := (compliant (2 * cs.length + 2)).value limits (skip cs)
  unfold document
  dsimp only
  split
  · exact .refl _
  · exact hvalue.bind fun _ => .refl _

end Reader

/-- **A text is read as without limits, or exceeds them.** -/
theorem parse_limits (text : String) (limits : Limits) :
    parse text limits = parse text ∨ ∃ excess, parse text limits = .error (.excess excess) := by
  unfold parse
  dsimp only
  rcases Reader.complies_document limits text.toList with h | ⟨excess, h⟩
  · exact .inl (by rw [h])
  · exact .inr ⟨excess, by rw [h]⟩

end ClientGen.Json
