import ClientGen.Text.Notation
import Mathlib.Data.List.Basic

/-!
# Where a quoted text begins

Inside a quoted text its mark only stands behind a backslash.  So the mark that opens the text can be
found from behind, and a quoted text at the end of a line can be cut off it: what stands in front is
then determined.  This holds of every way to write characters that escapes the mark, and so of the
texts that messages show.

## Main definitions

* `Escapes` — a way to write characters in which the mark stands behind backslashes only.
* `Escapes.literal` — the characters of a text between two marks.

## Main results

* `Escapes.getLast?_of_mark` — a mark between the marks stands behind a backslash.
* `Escapes.append_literal_inj` — a literal behind a space can be told from what precedes it.
* `Shown.append_encode_inj` — so can a shown text.
-/

namespace ClientGen.Text

/-- The mark is written for itself only, and behind a backslash. -/
structure Escapes (m : Char) (encode : Char → List Char) : Prop where
  ne_backslash : m ≠ '\\'
  eq_of_mem : ∀ c, m ∈ encode c → encode c = ['\\', m]

namespace Escapes

variable {m : Char} {encode : Char → List Char}

/-- The characters of a text between two marks. -/
def literal (m : Char) (encode : Char → List Char) (cs : List Char) : List Char :=
  m :: (cs.flatMap encode ++ [m])

/-- **A mark between the marks stands behind a backslash.** -/
theorem getLast?_of_mark (he : Escapes m encode) {cs before after : List Char}
    (h : cs.flatMap encode = before ++ m :: after) : before.getLast? = some '\\' := by
  -- On the characters: the mark is written for a later character, or for the first one.
  induction cs generalizing before with
  | nil => simp at h
  | cons c rest ih =>
    rw [List.flatMap_cons, List.append_eq_append_iff] at h
    rcases h with ⟨more, rfl, hrest⟩ | ⟨cut, hfirst, hcut⟩
    · rw [List.getLast?_append, ih hrest]
      rfl
    · cases cut with
      | nil =>
        have hlast := @ih [] hcut.symm
        simp at hlast
      | cons d cut =>
        obtain ⟨rfl, -⟩ := List.cons.inj hcut
        have hmem : m ∈ encode c := by simp [hfirst]
        rw [he.eq_of_mem c hmem] at hfirst
        cases before with
        | nil => exact absurd (List.cons.inj hfirst).1 he.ne_backslash.symm
        | cons d before =>
          obtain ⟨rfl, htail⟩ := List.cons.inj hfirst
          cases before with
          | nil => rfl
          | cons d before => simp at htail

/-- What stands in front of a literal at the end of another one ends in a backslash. -/
theorem getLast?_of_literal_eq_append (he : Escapes m encode) {v w before : List Char}
    (h : literal m encode v = before ++ literal m encode w) (hne : before ≠ []) :
    before.getLast? = some '\\' := by
  obtain ⟨c, more, rfl⟩ := List.exists_cons_of_ne_nil hne
  obtain ⟨rfl, hbody⟩ := List.cons.inj h
  have hbody' : v.flatMap encode ++ [m] = (more ++ m :: w.flatMap encode) ++ [m] := by
    simpa [literal] using hbody
  -- The mark that opens the second literal stands between the marks of the first.
  rw [List.getLast?_cons, he.getLast?_of_mark (List.append_cancel_right hbody')]
  rfl

/-- A literal does not end in another one behind a space. -/
theorem literal_ne_append (he : Escapes m encode) {a v w : List Char} :
    literal m encode v ≠ a ++ ' ' :: literal m encode w := by
  intro h
  have hfront : literal m encode v = (a ++ [' ']) ++ literal m encode w := by simpa using h
  have hlast := he.getLast?_of_literal_eq_append hfront (by simp)
  simp at hlast

theorem eq_of_literal_eq_append (he : Escapes m encode) {a b v w between : List Char}
    (hfront : b ++ [' '] = a ++ [' '] ++ between)
    (h : literal m encode v = between ++ literal m encode w) : a = b := by
  by_cases hne : between = []
  · rw [hne, List.append_nil] at hfront
    exact (List.append_cancel_right hfront).symm
  · have hlast := congrArg List.getLast? hfront
    rw [List.getLast?_append, List.getLast?_append, he.getLast?_of_literal_eq_append h hne] at hlast
    simp at hlast

/-- **A literal behind a space can be told from what precedes it.** -/
theorem append_literal_inj (he : Escapes m encode) {a b v w : List Char}
    (h : a ++ ' ' :: literal m encode v = b ++ ' ' :: literal m encode w) : a = b := by
  have hsplit : (a ++ [' ']) ++ literal m encode v = (b ++ [' ']) ++ literal m encode w := by
    simpa using h
  rcases List.append_eq_append_iff.1 hsplit with ⟨between, hfront, henc⟩ | ⟨between, hfront, henc⟩
  · exact he.eq_of_literal_eq_append hfront henc
  · exact (he.eq_of_literal_eq_append hfront henc).symm

end Escapes

namespace Shown

variable {m : Char}

/-- The two quotes that can stand around a text. -/
def IsMark (m : Char) : Prop :=
  m = '\x27' ∨ m = '"'

theorem isMark_mark (cs : List Char) : IsMark (mark cs) := by
  unfold mark
  split
  · exact .inr rfl
  · exact .inl rfl

theorem not_mem_hexDigits (hm : IsMark m) (width n : Nat) : m ∉ Quoted.hexDigits width n := by
  have hdigit : ∀ d < 16, Nat.digitChar d ≠ '\x27' ∧ Nat.digitChar d ≠ '"' := by decide
  induction width generalizing n with
  | zero => simp [Quoted.hexDigits]
  | succ width ih =>
    rw [Quoted.hexDigits, List.mem_append, not_or, List.mem_singleton]
    obtain ⟨hsingle, hdouble⟩ := hdigit (n % 16) (Nat.mod_lt _ (by decide))
    refine ⟨ih (n / 16), ?_⟩
    intro heq
    rcases hm with rfl | rfl
    · exact hsingle heq.symm
    · exact hdouble heq.symm

/-- A mark among the characters for one character is that character. -/
theorem eq_of_mem_encodeChar (hm : IsMark m) {c : Char} (h : m ∈ encodeChar m c) :
    encodeChar m c = ['\\', m] := by
  have hother : ∀ d, d ≠ '\x27' → d ≠ '"' → m ≠ d := by
    rintro d hsingle hdouble rfl
    exact hm.elim hsingle hdouble
  have hslash := hother '\\' (by decide) (by decide)
  have hescape : ∀ d width n, d ≠ '\x27' → d ≠ '"' →
      m ∉ '\\' :: d :: Quoted.hexDigits width n := by
    intro d width n hsingle hdouble hmem
    simp only [List.mem_cons, hslash, hother d hsingle hdouble, false_or] at hmem
    exact not_mem_hexDigits hm width n hmem
  unfold encodeChar at h ⊢
  split at h
  · rename_i hc
    simp only [List.mem_cons, hslash, false_or, List.not_mem_nil, or_false] at h
    rw [if_pos hc, h]
  · rename_i hc
    exfalso
    split at h
    · simp [hslash, hother 'n' (by decide) (by decide)] at h
    · simp [hslash, hother 'r' (by decide) (by decide)] at h
    · simp [hslash, hother 't' (by decide) (by decide)] at h
    · split at h
      · simp only [List.mem_singleton] at h
        simp [h] at hc
      · split at h
        · exact hescape 'x' 2 _ (by decide) (by decide) h
        · split at h
          · exact hescape 'u' 4 _ (by decide) (by decide) h
          · exact hescape 'U' 8 _ (by decide) (by decide) h

theorem escapes_encodeChar (hm : IsMark m) : Escapes m (encodeChar m) where
  ne_backslash := by
    rintro rfl
    exact hm.elim (by decide) (by decide)
  eq_of_mem _ hmem := eq_of_mem_encodeChar hm hmem

theorem encode_eq (cs : List Char) :
    encode cs = Escapes.literal (mark cs) (encodeChar (mark cs)) cs := rfl

/-- **A shown text behind a space can be told from what precedes it.** -/
theorem append_encode_inj {a b v w : List Char}
    (h : a ++ ' ' :: encode v = b ++ ' ' :: encode w) : a = b := by
  rw [encode_eq, encode_eq] at h
  have hmark : mark v = mark w := by
    have hlast := congrArg List.getLast? h
    simpa [Escapes.literal, List.getLast?_append, List.getLast?_cons] using hlast
  rw [hmark] at h
  exact (escapes_encodeChar (isMark_mark w)).append_literal_inj h

end Shown

end ClientGen.Text
