import ClientGen.Proofs.Text.Literal
import ClientGen.Proofs.Text.Notation

/-!
# Literals in ASCII characters

No two texts have one literal, although a literal in ASCII characters writes a character in up to
three ways and some characters in two parts.  What is written for a character begins with one code
unit: the character itself, or the first half of its surrogate pair.  The halves stand for no
character on their own, so the unit that comes first says which of the ways was taken.

## Main definitions

* `Quoted.unit?` — the code unit that begins a text inside a literal.
* `Quoted.firstUnit` — the code unit that begins what is written for a character.

## Main results

* `Quoted.encodeCharAscii_append_inj` — what is written for a character tells the character and what
  stands behind it.
* `quoteAscii_inj` — no two texts have one literal.
* `Quoted.escapes_encodeCharAscii` — inside a literal the quote stands behind a backslash.
-/

namespace ClientGen.Text

namespace Quoted

/-! ## Code units -/

/-- The code unit that begins a text inside a literal. -/
def unit? : List Char → Option Nat
  | '\\' :: 'u' :: a :: b :: c :: d :: _ => number? 0 [a, b, c, d]
  | '\\' :: letter :: _ => (ofLetter? letter).map Char.toNat
  | c :: _ => some c.toNat
  | [] => none

/-- The code unit that begins what is written for a character. -/
def firstUnit (c : Char) : Nat :=
  if c.toNat < 0x10000 then c.toNat else 0xd800 + (c.toNat - 0x10000) / 0x400

theorem unit?_numbered {n : Nat} (h : n < 0x10000) (rest : List Char) :
    unit? (numbered n ++ rest) = some n := by
  have hread : unit? (numbered n ++ rest) = number? 0 (hexDigits 4 n) := by
    rw [numbered, hexDigits_four]
    rfl
  rw [hread, number?_hexDigits, Nat.zero_mul, Nat.zero_add, Nat.mod_eq_of_lt (by omega)]

/-- A character beyond the basic plane is written as the two halves of its pair. -/
theorem encodeCharAscii_of_le {c : Char} (h : 0x10000 ≤ c.toNat) :
    encodeCharAscii c = numbered (0xd800 + (c.toNat - 0x10000) / 0x400)
      ++ numbered (0xdc00 + (c.toNat - 0x10000) % 0x400) := by
  have hshort : shortEscape? c = none := by
    unfold shortEscape?
    split <;> first | rfl | exact absurd h (by decide)
  have hplain : (0x20 ≤ c.toNat && c.toNat < 0x7f) = false := by
    simp only [Bool.and_eq_false_iff, decide_eq_false_iff_not]
    omega
  rw [encodeCharAscii, hshort]
  simp only [hplain, Bool.false_eq_true, if_false, if_neg (Nat.not_lt.2 h)]

theorem toNat_lt (c : Char) : c.toNat < 0x110000 := by
  rcases c.valid with h | h
  · exact Nat.lt_trans h (by decide)
  · exact h.2

/-- **What is written for a character begins with its first code unit.** -/
theorem unit?_encodeCharAscii (c : Char) (rest : List Char) :
    unit? (encodeCharAscii c ++ rest) = some (firstUnit c) := by
  by_cases hpair : 0x10000 ≤ c.toNat
  · have hbound := toNat_lt c
    rw [encodeCharAscii_of_le hpair, List.append_assoc, unit?_numbered (by omega), firstUnit,
      if_neg (Nat.not_lt.2 hpair)]
  · rw [firstUnit, if_pos (Nat.lt_of_not_le hpair)]
    unfold encodeCharAscii
    cases hshort : shortEscape? c with
    | some letter =>
      obtain ⟨hletter, hnumbered⟩ := ofLetter?_of_shortEscape? hshort
      have hread : unit? ('\\' :: letter :: rest) = (ofLetter? letter).map Char.toNat := by
        rw [unit?]
        exact fun _ _ _ _ _ heq _ => hnumbered heq
      exact hread.trans (by rw [hletter, Option.map_some])
    | none =>
      obtain ⟨-, hslash, -⟩ := ne_of_shortEscape?_eq_none hshort
      dsimp only
      split
      · rw [List.singleton_append, unit?]
        · exact fun _ _ _ _ _ heq => absurd heq hslash
        · exact fun _ _ heq => absurd heq hslash
      · rw [if_pos (Nat.lt_of_not_le hpair), unit?_numbered (Nat.lt_of_not_le hpair)]

/-! ## Literals -/

/-- A character of the basic plane is no half of a surrogate pair. -/
theorem firstUnit_ne {c d : Char} (hc : c.toNat < 0x10000) (hd : 0x10000 ≤ d.toNat) :
    firstUnit c ≠ firstUnit d := by
  have hbound := toNat_lt d
  rw [firstUnit, firstUnit, if_pos hc, if_neg (Nat.not_lt.2 hd)]
  have hvalid : c.toNat < 0xd800 ∨ 0xdfff < c.toNat := by
    rcases c.valid with h | h
    · exact .inl h
    · exact .inr h.1
  omega

/-- **What is written for a character tells the character** and what stands behind it. -/
theorem encodeCharAscii_append_inj {c d : Char} {v w : List Char}
    (h : encodeCharAscii c ++ v = encodeCharAscii d ++ w) : c = d ∧ v = w := by
  have hfirst : firstUnit c = firstUnit d := by
    have hunit := congrArg unit? h
    rwa [unit?_encodeCharAscii, unit?_encodeCharAscii, Option.some.injEq] at hunit
  have heq : c = d := by
    by_cases hc : c.toNat < 0x10000
    · by_cases hd : d.toNat < 0x10000
      · rw [firstUnit, firstUnit, if_pos hc, if_pos hd] at hfirst
        exact Char.toNat_inj.1 hfirst
      · exact absurd hfirst (firstUnit_ne hc (Nat.le_of_not_lt hd))
    · by_cases hd : d.toNat < 0x10000
      · exact absurd hfirst.symm (firstUnit_ne hd (Nat.le_of_not_lt hc))
      · rw [firstUnit, firstUnit, if_neg hc, if_neg hd] at hfirst
        rw [encodeCharAscii_of_le (Nat.le_of_not_lt hc), encodeCharAscii_of_le (Nat.le_of_not_lt hd),
          hfirst, List.append_assoc, List.append_assoc, List.append_cancel_left_eq] at h
        have hsecond := congrArg unit? h
        rw [unit?_numbered (by omega), unit?_numbered (by omega), Option.some.injEq] at hsecond
        exact Char.toNat_inj.1 (by omega)
  exact ⟨heq, List.append_cancel_left (heq ▸ h)⟩

theorem encodeCharAscii_ne_nil (c : Char) : encodeCharAscii c ≠ [] := by
  intro h
  have hunit := unit?_encodeCharAscii c []
  rw [h] at hunit
  simp [unit?] at hunit

theorem flatMap_encodeCharAscii_inj {v w : List Char}
    (h : v.flatMap encodeCharAscii = w.flatMap encodeCharAscii) : v = w := by
  induction v generalizing w with
  | nil =>
    cases w with
    | nil => rfl
    | cons d rest => simp [encodeCharAscii_ne_nil] at h
  | cons c more ih =>
    cases w with
    | nil => simp [encodeCharAscii_ne_nil] at h
    | cons d rest =>
      rw [List.flatMap_cons, List.flatMap_cons] at h
      obtain ⟨rfl, hrest⟩ := encodeCharAscii_append_inj h
      rw [ih hrest]

theorem encodeAscii_inj {v w : List Char} (h : encodeAscii v = encodeAscii w) : v = w :=
  flatMap_encodeCharAscii_inj (List.append_cancel_right (List.cons.inj h).2)

/-! ## The quote inside a literal -/

theorem not_mem_numbered (n : Nat) : '"' ∉ numbered n := by
  simp [numbered, Shown.not_mem_hexDigits (.inr rfl)]

/-- **Inside a literal the quote stands behind a backslash.** -/
theorem escapes_encodeCharAscii : Escapes '"' encodeCharAscii where
  ne_backslash := by decide
  eq_of_mem c h := by
    unfold encodeCharAscii at h ⊢
    cases hshort : shortEscape? c with
    | some letter =>
      rw [hshort] at h
      simp only [List.mem_cons, List.not_mem_nil, or_false, Char.reduceEq, false_or] at h
      rw [h]
    | none =>
      obtain ⟨hquote, -, -⟩ := ne_of_shortEscape?_eq_none hshort
      rw [hshort] at h
      dsimp only at h
      split at h
      · exact absurd (List.mem_singleton.1 h).symm hquote
      · split at h
        · exact absurd h (not_mem_numbered _)
        · exact absurd h (by simp [not_mem_numbered])

end Quoted

/-- **No two texts have one literal.** -/
theorem quoteAscii_inj {s t : String} (h : quoteAscii s = quoteAscii t) : s = t :=
  String.toList_inj.1 (Quoted.encodeAscii_inj (String.ofList_injective h))

end ClientGen.Text
