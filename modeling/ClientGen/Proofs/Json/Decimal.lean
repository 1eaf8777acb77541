import ClientGen.Json.Decimal
import Mathlib.Algebra.Order.Ring.Nat
import Mathlib.Data.List.Basic
import Mathlib.Tactic.Ring

/-!
# Normal decimals

Numbers with digits behind the point are kept in one form each: the coefficient has no zeros at its
end, zero has no exponent, and the first digit stands within the range of exponents.  Numbers that
are read have this form, and a number of this form can be told from its coefficient with any zeros
behind it.

## Main definitions

* `Decimal.digits` — the digits of a coefficient.
* `Decimal.IsNormal` — the form in which numbers are kept.

## Main results

* `Decimal.isNormal_ofScientific` — numbers that are put together are normal.
* `Decimal.ofScientific_mul_pow` — a normal number is put together from its coefficient and zeros.
-/

namespace ClientGen.Decimal

/-! ## Digits -/

/-- The decimal digits of a coefficient. -/
def digits (coefficient : Nat) : List Char :=
  Nat.toDigits 10 coefficient

theorem digits_of_lt {n : Nat} (h : n < 10) : digits n = [n.digitChar] := by
  rw [digits, Nat.toDigits_eq_if (by decide), if_pos h]

theorem digits_of_le {n : Nat} (h : 10 ≤ n) :
    digits n = digits (n / 10) ++ [(n % 10).digitChar] := by
  rw [digits, Nat.toDigits_of_base_le (by decide) h, digits]

theorem digits_ne_nil (n : Nat) : digits n ≠ [] :=
  Nat.toDigits_ne_nil

theorem isDigit_of_mem_digits {n : Nat} {c : Char} (h : c ∈ digits n) : c.isDigit = true :=
  Nat.isDigit_of_mem_toDigits (by decide) (by decide) h

/-- A coefficient other than zero does not start with a zero. -/
theorem head?_digits_ne {n : Nat} (h : n ≠ 0) : (digits n).head? ≠ some '0' := by
  induction n using Nat.strongRecOn with
  | _ n ih =>
    by_cases hlt : n < 10
    · rw [digits_of_lt hlt]
      have hall : ∀ m < 10, m ≠ 0 → [m.digitChar].head? ≠ some '0' := by decide
      exact hall n hlt h
    · rw [digits_of_le (by omega), List.head?_append_of_ne_nil _ (digits_ne_nil _)]
      exact ih (n / 10) (by omega) (by omega)

/-- A zero at the end is one digit more. -/
theorem digits_mul_ten {n : Nat} (h : n ≠ 0) : digits (n * 10) = digits n ++ ['0'] := by
  rw [digits_of_le (by omega), Nat.mul_div_cancel _ (by decide), Nat.mul_mod_left]
  rfl

theorem digits_mul_pow {n : Nat} (h : n ≠ 0) (count : Nat) :
    digits (n * 10 ^ count) = digits n ++ List.replicate count '0' := by
  induction count with
  | zero => simp
  | succ count ih =>
    have hne : n * 10 ^ count ≠ 0 := Nat.mul_ne_zero h (Nat.pow_pos (by decide)).ne'
    rw [pow_succ, ← Nat.mul_assoc, digits_mul_ten hne, ih, List.append_assoc,
      List.replicate_succ']

/-! ## Zeros at the end -/

theorem shedZeros_of_mod {n : Nat} (h : n % 10 ≠ 0) (fuel : Nat) (exponent : Int) :
    shedZeros fuel n exponent = (n, exponent) := by
  cases fuel with
  | zero => rfl
  | succ fuel => simp [shedZeros, h]

/-- Zeros behind a coefficient without any go into the exponent. -/
theorem shedZeros_mul_pow {n : Nat} (h : n % 10 ≠ 0) {count fuel : Nat} (hfuel : count ≤ fuel)
    (exponent : Int) : shedZeros fuel (n * 10 ^ count) exponent = (n, exponent + count) := by
  induction count generalizing fuel exponent with
  | zero => simpa using shedZeros_of_mod h fuel exponent
  | succ count ih =>
    obtain ⟨fuel, rfl⟩ := Nat.exists_eq_add_of_le' (Nat.lt_of_lt_of_le (Nat.succ_pos count) hfuel)
    have hne : n * 10 ^ (count + 1) ≠ 0 :=
      Nat.mul_ne_zero (fun hzero => h (by rw [hzero])) (Nat.pow_pos (by decide)).ne'
    have hmod : n * 10 ^ (count + 1) % 10 = 0 := by
      rw [pow_succ, ← Nat.mul_assoc, Nat.mul_mod_left]
    have hdiv : n * 10 ^ (count + 1) / 10 = n * 10 ^ count := by
      rw [pow_succ, ← Nat.mul_assoc, Nat.mul_div_cancel _ (by decide)]
    simp only [shedZeros, hmod, hdiv, ne_eq, hne, not_false_eq_true, decide_true, Bool.and_self,
      if_true]
    rw [ih (by omega)]
    refine Prod.ext rfl ?_
    push_cast
    ring

/-- What is left has no zeros at its end, and its first digit stands where it stood. -/
theorem shedZeros_spec {n fuel : Nat} (h : n ≠ 0) (hfuel : (digits n).length ≤ fuel)
    (exponent : Int) :
    (shedZeros fuel n exponent).1 % 10 ≠ 0 ∧
      ((digits (shedZeros fuel n exponent).1).length : Int) + (shedZeros fuel n exponent).2
        = (digits n).length + exponent := by
  induction fuel generalizing n exponent with
  | zero => exact absurd (List.eq_nil_of_length_eq_zero (by omega)) (digits_ne_nil n)
  | succ fuel ih =>
    by_cases hmod : n % 10 = 0
    · have hdiv : n / 10 ≠ 0 := by omega
      have hdigits : digits n = digits (n / 10) ++ ['0'] := by
        rw [← digits_mul_ten hdiv, Nat.div_mul_cancel (Nat.dvd_of_mod_eq_zero hmod)]
      rw [hdigits, List.length_append, List.length_singleton] at hfuel ⊢
      obtain ⟨hend, hplace⟩ := ih hdiv (by omega) (exponent + 1)
      simp only [shedZeros, hmod, ne_eq, h, not_false_eq_true, decide_true, Bool.and_self, if_true]
      refine ⟨hend, hplace.trans ?_⟩
      push_cast
      ring
    · rw [shedZeros_of_mod hmod]
      exact ⟨hmod, rfl⟩

/-! ## Normal numbers -/

/-- The first digit of a number stands within the range of exponents. -/
def InRange (coefficient : Nat) (exponent : Int) : Prop :=
  -323 ≤ ((digits coefficient).length : Int) + exponent ∧
    ((digits coefficient).length : Int) + exponent ≤ 309

/-- The form in which numbers are kept. -/
def IsNormal : Decimal → Prop
  | finite _ coefficient exponent =>
    coefficient = 0 ∧ exponent = 0 ∨ coefficient % 10 ≠ 0 ∧ InRange coefficient exponent
  | infinite _ | undefined => True

/-- **Numbers that are put together are normal.** -/
theorem isNormal_ofScientific (negative : Bool) (coefficient : Nat) (exponent : Int) :
    (ofScientific negative coefficient exponent).IsNormal := by
  unfold ofScientific
  dsimp only
  split
  · exact .inl ⟨rfl, rfl⟩
  · rename_i hlow
    split
    · trivial
    · rename_i hhigh
      simp only [Bool.or_eq_true, decide_eq_true_eq, not_or, not_lt] at hlow hhigh
      obtain ⟨hend, hplace⟩ := shedZeros_spec hlow.1 (Nat.le_refl _) exponent
      refine .inr ⟨hend, ?_⟩
      rw [InRange, ← digits, hplace]
      exact ⟨hlow.2, hhigh⟩

/-- **A normal number is put together** from its coefficient, with any zeros behind it. -/
theorem ofScientific_mul_pow {coefficient : Nat} (hend : coefficient % 10 ≠ 0) {exponent : Int}
    (count : Nat) (hrange : InRange coefficient (exponent + count)) (negative : Bool) :
    ofScientific negative (coefficient * 10 ^ count) exponent
      = finite negative coefficient (exponent + count) := by
  have hne : coefficient ≠ 0 := fun hzero => hend (by rw [hzero])
  have hlength : (digits (coefficient * 10 ^ count)).length
      = (digits coefficient).length + count := by
    rw [digits_mul_pow hne, List.length_append, List.length_replicate]
  have hfuel : count ≤ (digits (coefficient * 10 ^ count)).length := by omega
  have hplace : ((digits (coefficient * 10 ^ count)).length : Int) + exponent
      = (digits coefficient).length + (exponent + count) := by omega
  have hmul : coefficient * 10 ^ count ≠ 0 := Nat.mul_ne_zero hne (Nat.pow_pos (by decide)).ne'
  obtain ⟨hlow, hhigh⟩ := hrange
  unfold ofScientific
  rw [← digits]
  dsimp only
  rw [hplace, shedZeros_mul_pow hend hfuel, if_neg, if_neg (by omega)]
  simp only [Bool.or_eq_true, decide_eq_true_eq, not_or, not_lt]
  exact ⟨hmul, hlow⟩

/-- A normal number is put together from its coefficient and exponent. -/
theorem ofScientific_of_inRange {coefficient : Nat} (hend : coefficient % 10 ≠ 0) {exponent : Int}
    (hrange : InRange coefficient exponent) (negative : Bool) :
    ofScientific negative coefficient exponent = finite negative coefficient exponent := by
  simpa using ofScientific_mul_pow hend 0 (by simpa using hrange) negative

end ClientGen.Decimal
