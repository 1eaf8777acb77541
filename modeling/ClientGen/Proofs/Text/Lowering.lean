import ClientGen.Proofs.Text.Casing

/-!
# Lower case, twice

A text in lower case stays as it is when it is put in lower case again.  That is seen from the
table of letter case: what a stride puts in the place of a letter is moved by no stride.  The one
letter that looks at its neighbours, the capital sigma, does not occur in lower case.

## Main definitions

* `Casing.Shift.settles` — the strides of a table do not move what a stride has moved.
* `IsSmall` — a character that is its own lower-case form.

## Main results

* `isSmall_of_mem_lowerForm` — a lower-case form is in lower case.
* `toLower_toLower` — a text in lower case stays as it is.
* `mem_of_mem_toLower` — a sign that has no case comes into a text in lower case from the text alone.
-/

namespace ClientGen.Text

open Casing

namespace Casing.Shift

/-- No stride of a table moves what the stride has moved. -/
def settles (table : List Shift) (s : Shift) : Bool :=
  table.all fun t =>
    Nat.blt (s.target s.last) t.first || Nat.blt t.last (s.target s.first) ||
      s.codes.all fun n => (t.image? (s.target n)).isNone

theorem image?_of_settles {table : List Shift} {s t : Shift} {n m : Nat}
    (h : s.settles table = true) (ht : t ∈ table) (himage : s.image? n = some m) :
    t.image? m = none := by
  obtain ⟨hfirst, hlast, hmem, rfl⟩ := image?_eq_some himage
  have hlow := target_mono (s := s) hfirst
  have hhigh := target_mono (s := s) hlast
  have hsettles := List.all_eq_true.1 h t ht
  simp only [Bool.or_eq_true, Nat.blt_eq] at hsettles
  -- The moved stride lies before the other one, behind it, or was looked through.
  rcases hsettles with (hbefore | hbehind) | hcodes
  · exact image?_eq_none (.inl (by omega))
  · exact image?_eq_none (.inr (by omega))
  · exact Option.isNone_iff_eq_none.1 (List.all_eq_true.1 hcodes n hmem)

end Casing.Shift

/-- **What a table has moved stays** if each of its strides settles. -/
theorem moved_moved {table : List Shift}
    (h : (table.all fun s => s.isSound && s.settles table) = true) (c : Char) :
    moved table (moved table c) = moved table c := by
  cases hfound : table.findSome? (·.image? c.toNat) with
  | none =>
    have hsame : moved table c = c := by rw [moved, hfound]; rfl
    rw [hsame, hsame]
  | some m =>
    obtain ⟨s, hs, himage⟩ := List.exists_of_findSome?_eq_some hfound
    have hstride := List.all_eq_true.1 h s hs
    rw [Bool.and_eq_true] at hstride
    have hcode := Shift.toNat_ofNat_image hstride.1 himage
    have hmoved : moved table c = Char.ofNat m := by rw [moved, hfound]; rfl
    have hnone : table.findSome? (·.image? m) = none :=
      List.findSome?_eq_none_iff.2 fun t ht => Shift.image?_of_settles hstride.2 ht himage
    rw [hmoved, moved, hcode, hnone]
    rfl

/-- A character that is its own lower-case form. -/
def IsSmall (c : Char) : Prop :=
  lowerForm c = [c]

/-- **A lower-case form is in lower case.** -/
theorem isSmall_of_mem_lowerForm {c d : Char} (h : d ∈ lowerForm c) : IsSmall d := by
  by_cases hc : c = 'İ'
  · subst hc
    have hforms : d = 'i' ∨ d = '\u0307' := List.mem_pair.1 h
    rcases hforms with rfl | rfl
    · rfl
    · show lowerForm '\u0307' = ['\u0307']
      decide +kernel
  · rw [lowerForm_eq_moved hc, List.mem_singleton] at h
    have hkept : areKept lowering [('İ'.toNat, 'İ'.toNat)] = true := by decide +kernel
    have hset := contains_moved (c := c) hkept fun _ hs _ _ => hs
    have hd : d ≠ 'İ' := by
      rintro rfl
      rw [← h, CharacterSet.contains_singleton_iff.2 rfl, eq_comm,
        CharacterSet.contains_singleton_iff] at hset
      exact hc (Char.toNat_inj.1 hset)
    rw [IsSmall, lowerForm_eq_moved hd, h, moved_moved (by decide +kernel)]

/-! ## Texts -/

variable {cs : List Char} {c : Char}

/-- What stands for a character in lower case: its form, or one of the two small sigmas. -/
theorem mem_toLowerAfter {before : List Char} (h : c ∈ toLowerAfter before cs) :
    (∃ d ∈ cs, c ∈ lowerForm d) ∨ c = 'ς' ∨ c = 'σ' := by
  induction cs generalizing before with
  | nil => exact absurd h List.not_mem_nil
  | cons d rest ih =>
    rw [toLowerAfter] at h
    rcases List.mem_append.1 h with hform | hrest
    · split at hform
      · split at hform
        · exact .inr (.inl (List.mem_singleton.1 hform))
        · exact .inr (.inr (List.mem_singleton.1 hform))
      · exact .inl ⟨d, List.mem_cons_self, hform⟩
    · rcases ih hrest with ⟨e, he, hmem⟩ | hsigma
      · exact .inl ⟨e, List.mem_cons_of_mem d he, hmem⟩
      · exact .inr hsigma

theorem isSmall_of_mem_toLower (h : c ∈ toLower cs) : IsSmall c := by
  rcases mem_toLowerAfter h with ⟨d, -, hform⟩ | rfl | rfl
  · exact isSmall_of_mem_lowerForm hform
  · show lowerForm 'ς' = ['ς']
    decide +kernel
  · show lowerForm 'σ' = ['σ']
    decide +kernel

/-- A text of small characters is in lower case, since no sigma in it looks at its neighbours. -/
theorem toLower_of_isSmall (h : ∀ c ∈ cs, IsSmall c) : toLower cs = cs := by
  have hafter : ∀ before, toLowerAfter before cs = cs := by
    induction cs with
    | nil => exact fun _ => rfl
    | cons c rest ih =>
      intro before
      obtain ⟨hc, hrest⟩ := List.forall_mem_cons.1 h
      have hsigma : (c == 'Σ') = false := by
        apply beq_false_of_ne
        rintro rfl
        exact absurd (show lowerForm 'Σ' = ['Σ'] from hc) (by decide +kernel)
      rw [toLowerAfter, ih hrest, hsigma]
      exact congrArg (· ++ rest) hc
  exact hafter []

/-- **A text in lower case stays as it is.** -/
theorem toLower_toLower (cs : List Char) : toLower (toLower cs) = toLower cs :=
  toLower_of_isSmall fun _ => isSmall_of_mem_toLower

/-- **A sign that no stride moves**, nor puts in the place of another, comes from the text alone. -/
theorem mem_of_mem_toLower (hkept : areKept lowering [(c.toNat, c.toNat)] = true)
    (hform : c ∉ ['ς', 'σ', 'i', '\u0307']) (h : c ∈ toLower cs) : c ∈ cs := by
  simp only [List.mem_cons, List.not_mem_nil, or_false, not_or] at hform
  obtain ⟨hfinal, hsigma, hi, hdot⟩ := hform
  rcases mem_toLowerAfter h with ⟨d, hd, hmem⟩ | rfl | rfl
  · by_cases hdotted : d = 'İ'
    · subst hdotted
      have hforms : c ∈ ['i', '\u0307'] := hmem
      simp [hi, hdot] at hforms
    · obtain ⟨e, hlower, hsame⟩ := exists_lowerForm hdotted
      rw [hlower, List.mem_singleton] at hmem
      subst hmem
      have hin := (hsame _ hkept).symm.trans (CharacterSet.contains_singleton_iff.2 rfl)
      rwa [Char.toNat_inj.1 (CharacterSet.contains_singleton_iff.1 hin)] at hd
  · exact absurd rfl hfinal
  · exact absurd rfl hsigma

end ClientGen.Text
