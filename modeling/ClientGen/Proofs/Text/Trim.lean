import ClientGen.Text.Split
import Mathlib.Data.List.Basic
import Mathlib.Data.List.DropRight
import Mathlib.Data.List.Find
import Mathlib.Data.List.Infix
import Mathlib.Data.List.TakeWhile

/-!
# Trimmed texts

What trimming the two ends of a text keeps: everything between the first and the last character
that is not trimmed away, and of the other characters those that stand there.

## Main results

* `head?_trim` — how a trimmed text begins.
* `trim_trim` — what was trimmed is not trimmed again.
* `filter_trim` — trimming keeps what is not trimmed away.
-/

namespace ClientGen.Text

variable {cs : List Char}

theorem mem_of_mem_trim {p : Char → Bool} {cs : List Char} {c : Char} (h : c ∈ trim p cs) :
    c ∈ cs := by
  rw [trim, trimEnd, List.mem_reverse] at h
  have hdropped := (List.dropWhile_sublist p).mem h
  rw [List.mem_reverse] at hdropped
  exact (List.dropWhile_sublist p).mem hdropped

theorem trimEnd_cons {p : Char → Bool} {c : Char} (h : p c = false) (rest : List Char) :
    trimEnd p (c :: rest) = c :: trimEnd p rest := by
  rw [trimEnd, List.reverse_cons, List.dropWhile_append]
  split
  · rename_i hempty
    rw [trimEnd, List.isEmpty_iff.1 hempty]
    simp [h]
  · simp [trimEnd]

theorem eq_false_of_dropWhile_eq_cons {p : Char → Bool} {cs rest : List Char} {c : Char}
    (h : cs.dropWhile p = c :: rest) : p c = false := by
  have hhead := List.head_dropWhile_not p (h ▸ List.cons_ne_nil c rest)
  simpa [h] using hhead

/-- A trimmed text begins with the first character that is not trimmed away. -/
theorem head?_trim (p : Char → Bool) (cs : List Char) :
    (trim p cs).head? = cs.find? fun c => !p c := by
  rw [List.find?_not_eq_head?_dropWhile, trim]
  cases hdropped : cs.dropWhile p with
  | nil => rfl
  | cons c rest =>
    rw [trimEnd_cons (eq_false_of_dropWhile_eq_cons hdropped)]
    rfl

theorem eq_false_of_head?_trim {p : Char → Bool} {cs : List Char} {c : Char}
    (h : (trim p cs).head? = some c) : p c = false := by
  rw [head?_trim] at h
  simpa using List.find?_some h

theorem eq_false_of_getLast?_trim {p : Char → Bool} {cs : List Char} {c : Char}
    (h : (trim p cs).getLast? = some c) : p c = false := by
  rw [trim, trimEnd, List.getLast?_reverse] at h
  obtain ⟨rest, hrest⟩ := List.head?_eq_some_iff.1 h
  exact eq_false_of_dropWhile_eq_cons hrest

/-- What was trimmed is not trimmed again. -/
theorem trim_trim (p : Char → Bool) (cs : List Char) : trim p (trim p cs) = trim p cs := by
  have hfront : (trim p cs).dropWhile p = trim p cs := by
    cases hdropped : cs.dropWhile p with
    | nil => simp [trim, hdropped, trimEnd]
    | cons c rest =>
      have hc := eq_false_of_dropWhile_eq_cons hdropped
      rw [trim, hdropped, trimEnd_cons hc, List.dropWhile_cons_of_neg (by simp [hc])]
  rw [trim, hfront, trim]
  exact List.rdropWhile_idempotent p _

theorem length_trim_le (p : Char → Bool) (cs : List Char) : (trim p cs).length ≤ cs.length := by
  rw [trim, trimEnd, List.length_reverse]
  refine (List.length_dropWhile_le p _).trans ?_
  rw [List.length_reverse]
  exact List.length_dropWhile_le p cs

theorem filter_dropWhile {p q : Char → Bool} (h : ∀ c, p c = true → q c = false) (cs : List Char) :
    (cs.dropWhile p).filter q = cs.filter q := by
  induction cs with
  | nil => rfl
  | cons c rest ih =>
    rw [List.dropWhile_cons]
    split
    · rename_i hc
      rw [ih, List.filter_cons_of_neg (by simp [h c hc])]
    · rfl

/-- Trimming keeps what is not trimmed away. -/
theorem filter_trim {p q : Char → Bool} (h : ∀ c, p c = true → q c = false) (cs : List Char) :
    (trim p cs).filter q = cs.filter q := by
  rw [trim, trimEnd, List.filter_reverse, filter_dropWhile h, List.filter_reverse,
    List.reverse_reverse, filter_dropWhile h]

theorem trim_append_singleton {p : Char → Bool} {c : Char} (h : p c = true) (cs : List Char) :
    trim p (cs ++ [c]) = trim p cs := by
  rw [trim, trim, List.dropWhile_append]
  split
  · rename_i hempty
    rw [List.isEmpty_iff.1 hempty, List.dropWhile_cons_of_pos h, List.dropWhile_nil]
  · rw [trimEnd, trimEnd, List.reverse_append, List.reverse_singleton, List.singleton_append,
      List.dropWhile_cons_of_pos h]

theorem dropWhile_of_head? {p : Char → Bool} (h : ∀ c ∈ cs.head?, p c = false) :
    cs.dropWhile p = cs := by
  cases cs with
  | nil => rfl
  | cons c rest => exact List.dropWhile_cons_of_neg (by simp [h c rfl])

/-- A text that holds nothing to trim. -/
theorem trim_of_forall {p : Char → Bool} (h : ∀ c ∈ cs, p c = false) : trim p cs = cs := by
  have hreverse : ∀ c ∈ cs.reverse.head?, p c = false := fun c hc =>
    h c (List.mem_reverse.1 (List.mem_of_mem_head? hc))
  rw [trim, dropWhile_of_head? fun c hc => h c (List.mem_of_mem_head? hc), trimEnd,
    dropWhile_of_head? hreverse, List.reverse_reverse]

theorem isInfix_trim (p : Char → Bool) (cs : List Char) : trim p cs <:+: cs := by
  have hend : trimEnd p (cs.dropWhile p) <+: cs.dropWhile p := by
    rw [trimEnd, ← List.reverse_suffix, List.reverse_reverse]
    exact List.dropWhile_suffix p
  exact hend.isInfix.trans (List.dropWhile_suffix p).isInfix

theorem dropWhile_congr {p q : Char → Bool} (h : ∀ c ∈ cs, p c = q c) :
    cs.dropWhile p = cs.dropWhile q := by
  induction cs with
  | nil => rfl
  | cons c rest ih =>
    obtain ⟨hc, hrest⟩ := List.forall_mem_cons.1 h
    rw [List.dropWhile_cons, List.dropWhile_cons, hc, ih hrest]

theorem trim_congr {p q : Char → Bool} (h : ∀ c ∈ cs, p c = q c) :
    trim p cs = trim q cs := by
  rw [trim, trim, dropWhile_congr h, trimEnd, trimEnd]
  refine congrArg List.reverse (dropWhile_congr fun c hc => h c ?_)
  exact (List.dropWhile_sublist q).mem (List.mem_reverse.1 hc)

end ClientGen.Text
