import ClientGen.Proofs.Text.Letter
import ClientGen.Text.Casing
import Mathlib.Data.List.Basic

/-!
# What letter case keeps

The tables of letter case move code points in strides.  Whether a character belongs to a set is
kept by a stride if the set holds all of it before and after the move, or none of it; this is
checked for the ends of the stride, and code point by code point where the set changes in between.

The set at stake is that of the characters an identifier may hold.  Nearly every character is in it
exactly if its lower-case and upper-case forms are.  The exceptions are forms of several characters:
the small form of `İ` and the capitals of 26 letters hold a mark that combines with a letter.  One
mark, the iota below, has a letter for its capital.

## Main definitions

* `Casing.Shift.keeps` — a stride is moved within a set or outside of it.
* `moved` — the character that a table of strides puts in the place of another.
* `hasCombinedCapital` — the letters whose capital is written with a mark.
* `Lowers` — what stands for a character in the lower-case form of a text.

## Main results

* `contains_moved` — a table whose strides keep a set neither adds to it nor takes from it.
* `forall_toLowerAfter_iff` — when a text in lower case may stand in an identifier.
* `forall_upperForm_iff` — when the upper-case form of a character may.
-/

namespace ClientGen.Text

namespace CharacterSet

variable {set : CharacterSet} {first last : Nat} {c : Char}

/-- One range holds every code point between the two. -/
def covers (set : CharacterSet) (first last : Nat) : Bool :=
  set.any fun range => Nat.ble range.1 first && Nat.ble last range.2

/-- No range holds a code point between the two. -/
def misses (set : CharacterSet) (first last : Nat) : Bool :=
  set.all fun range => Nat.blt last range.1 || Nat.blt range.2 first

theorem contains_of_covers (h : set.covers first last = true) (hfirst : first ≤ c.toNat)
    (hlast : c.toNat ≤ last) : set.contains c = true := by
  obtain ⟨range, hrange, hbounds⟩ := List.any_eq_true.1 h
  rw [Bool.and_eq_true, Nat.ble_eq, Nat.ble_eq] at hbounds
  exact contains_iff.2 ⟨range, hrange, by omega, by omega⟩

theorem contains_of_misses (h : set.misses first last = true) (hfirst : first ≤ c.toNat)
    (hlast : c.toNat ≤ last) : set.contains c = false := by
  rw [Bool.eq_false_iff, ne_eq, contains_iff]
  rintro ⟨range, hrange, hbounds⟩
  have hout := List.all_eq_true.1 h range hrange
  rw [Bool.or_eq_true, Nat.blt_eq, Nat.blt_eq] at hout
  omega

theorem contains_singleton_iff {n : Nat} : contains [(n, n)] c = true ↔ c.toNat = n := by
  rw [contains_iff]
  simp [Nat.le_antisymm_iff, and_comm]

theorem covers_toNat (set : CharacterSet) (c : Char) :
    set.covers c.toNat c.toNat = set.contains c := by
  rw [Bool.eq_iff_iff, contains_iff]
  simp [covers]

end CharacterSet

namespace Casing.Shift

/-- Where a code point of the stride is moved. -/
def target (s : Shift) (n : Nat) : Nat :=
  ((n : Int) + s.offset).toNat

/-- The code points of the stride. -/
def codes (s : Shift) : List Nat :=
  List.range' s.first ((s.last - s.first) / s.step + 1) s.step

/-- The stride is moved to code points of characters. -/
def isSound (s : Shift) : Bool :=
  Nat.blt (s.target s.last) 0xD800 ||
    (Nat.blt 0xDFFF (s.target s.first) && Nat.blt (s.target s.last) 0x110000)

/-- The stride is moved within the set or outside of it. -/
def keeps (set : CharacterSet) (s : Shift) : Bool :=
  (set.covers s.first s.last && set.covers (s.target s.first) (s.target s.last)) ||
    (set.misses s.first s.last && set.misses (s.target s.first) (s.target s.last)) ||
    s.codes.all fun n => set.covers n n == set.covers (s.target n) (s.target n)

variable {s : Shift} {n m : Nat}

theorem image?_eq_some (h : s.image? n = some m) :
    s.first ≤ n ∧ n ≤ s.last ∧ n ∈ s.codes ∧ m = s.target n := by
  unfold image? at h
  split at h
  · rename_i hinside
    simp only [Bool.and_eq_true, decide_eq_true_eq, beq_iff_eq] at hinside
    obtain ⟨⟨hfirst, hlast⟩, hstep⟩ := hinside
    refine ⟨hfirst, hlast, ?_, (Option.some.inj h).symm⟩
    have hdiv := Nat.div_add_mod (n - s.first) s.step
    refine List.mem_range'.2 ⟨(n - s.first) / s.step, ?_, by omega⟩
    exact Nat.lt_succ_of_le (Nat.div_le_div_right (by omega))
  · exact absurd h (by simp)

theorem image?_eq_none (h : n < s.first ∨ s.last < n) : s.image? n = none := by
  cases himage : s.image? n with
  | none => rfl
  | some m =>
    obtain ⟨hfirst, hlast, -, -⟩ := image?_eq_some himage
    omega

theorem target_mono {first last : Nat} (h : first ≤ last) : s.target first ≤ s.target last := by
  unfold target
  omega

theorem toNat_ofNat_image (hsound : s.isSound = true) (h : s.image? n = some m) :
    (Char.ofNat m).toNat = m := by
  obtain ⟨hfirst, hlast, -, rfl⟩ := image?_eq_some h
  have hlow := target_mono (s := s) hfirst
  have hhigh := target_mono (s := s) hlast
  have hvalid : (s.target n).isValidChar := by
    simp only [isSound, Bool.or_eq_true, Bool.and_eq_true, Nat.blt_eq] at hsound
    show s.target n < 55296 ∨ 57343 < s.target n ∧ s.target n < 1114112
    omega
  rw [Char.ofNat, dif_pos hvalid]
  rfl

/-- **A stride that keeps a set moves no character into it or out of it.** -/
theorem contains_image {set : CharacterSet} (hsound : s.isSound = true)
    (hkeeps : s.keeps set = true) {c : Char} (h : s.image? c.toNat = some m) :
    set.contains (Char.ofNat m) = set.contains c := by
  have hcode := toNat_ofNat_image hsound h
  obtain ⟨hfirst, hlast, hmem, rfl⟩ := image?_eq_some h
  have hlow := target_mono (s := s) hfirst
  have hhigh := target_mono (s := s) hlast
  rw [← hcode] at hlow hhigh
  simp only [keeps, Bool.or_eq_true, Bool.and_eq_true] at hkeeps
  -- The set holds all of the stride, none of it, or was asked for every code point.
  rcases hkeeps with (⟨hbefore, hafter⟩ | ⟨hbefore, hafter⟩) | hcodes
  · rw [CharacterSet.contains_of_covers hbefore hfirst hlast,
      CharacterSet.contains_of_covers hafter hlow hhigh]
  · rw [CharacterSet.contains_of_misses hbefore hfirst hlast,
      CharacterSet.contains_of_misses hafter hlow hhigh]
  · have hsame := beq_iff_eq.1 (List.all_eq_true.1 hcodes c.toNat hmem)
    rw [← CharacterSet.covers_toNat set c, hsame, ← CharacterSet.covers_toNat, hcode]

end Casing.Shift

open Casing

/-! ## Tables -/

/-- The character that a table of strides puts in the place of another. -/
def moved (table : List Shift) (c : Char) : Char :=
  ((table.findSome? (·.image? c.toNat)).map Char.ofNat).getD c

/-- Every stride of a table keeps a set. -/
def areKept (table : List Shift) (set : CharacterSet) : Bool :=
  table.all fun s => s.isSound && s.keeps set

/-- **A table whose strides keep a set neither adds to it nor takes from it.** -/
theorem contains_moved {table kept : List Shift} {set : CharacterSet} {c : Char}
    (h : areKept kept set = true)
    (htable : ∀ s ∈ table, ∀ m, s.image? c.toNat = some m → s ∈ kept) :
    set.contains (moved table c) = set.contains c := by
  unfold moved
  cases hfound : table.findSome? (·.image? c.toNat) with
  | none => rfl
  | some m =>
    obtain ⟨s, hs, himage⟩ := List.exists_of_findSome?_eq_some hfound
    have hkept := List.all_eq_true.1 h s (htable s hs m himage)
    rw [Bool.and_eq_true] at hkept
    exact Shift.contains_image hkept.1 hkept.2 himage

/-- All strides to lower case. -/
def lowering : List Shift :=
  ⟨0x41, 0x5A, 1, 32⟩ :: toLowerShifts

/-- All strides to upper case but the one of the iota below, which becomes a letter of its own. -/
def raising : List Shift :=
  ⟨0x61, 0x7A, 1, -32⟩ :: toUpperShifts.filter (·.first != 0x345)

/-- **The lower-case form of a character** is one character, put in its place by the strides; only
`İ` becomes two. -/
theorem lowerForm_eq_moved {c : Char} (hc : c ≠ 'İ') : lowerForm c = [moved lowering c] := by
  have habove : ∀ s ∈ toLowerShifts, 128 ≤ s.first := by decide +kernel
  unfold lowerForm
  split
  · rename_i hascii
    have hmoved : c.toLower = moved [⟨0x41, 0x5A, 1, 32⟩] c :=
      forall_ascii (p := fun c => c.toLower = moved [⟨0x41, 0x5A, 1, 32⟩] c) (by decide) c
        hascii
    have hrest : toLowerShifts.findSome? (·.image? c.toNat) = none :=
      List.findSome?_eq_none_iff.2 fun s hs =>
        Shift.image?_eq_none (.inl (Nat.lt_of_lt_of_le hascii (habove s hs)))
    rw [hmoved, moved, moved, lowering, List.findSome?_cons, List.findSome?_cons, hrest]
    rfl
  · rename_i hbeyond
    have hfirst : (⟨0x41, 0x5A, 1, 32⟩ : Shift).image? c.toNat = none :=
      Shift.image?_eq_none (.inr (Nat.lt_of_lt_of_le (by decide) (Nat.le_of_not_lt hbeyond)))
    rw [if_neg (by simpa using hc), moved, lowering, List.findSome?_cons, hfirst]

/-- **One character in lower case** belongs to the sets that the strides keep. -/
theorem exists_lowerForm {c : Char} (hc : c ≠ 'İ') :
    ∃ d, lowerForm c = [d] ∧
      ∀ set : CharacterSet, areKept lowering set = true → set.contains d = set.contains c :=
  ⟨moved lowering c, lowerForm_eq_moved hc, fun _ hset => contains_moved hset fun _ hs _ _ => hs⟩

/-- **One character in upper case**, if it stays one, belongs to the sets that the strides keep. -/
theorem exists_upperForm {c : Char} (hspecial : toUpperSpecial.lookup c.toNat = none)
    (hc : c ≠ '\u0345') :
    ∃ d, upperForm c = [d] ∧
      ∀ set : CharacterSet, areKept raising set = true → set.contains d = set.contains c := by
  have hiota : ∀ s ∈ toUpperShifts, s.first = 0x345 → s.last = 0x345 := by decide +kernel
  unfold upperForm
  split
  · rename_i hascii
    have hmoved : c.toUpper = moved [⟨0x61, 0x7A, 1, -32⟩] c :=
      forall_ascii (p := fun c => c.toUpper = moved [⟨0x61, 0x7A, 1, -32⟩] c) (by decide +kernel) c
        hascii
    rw [hmoved]
    refine ⟨_, rfl, fun set hset => contains_moved hset ?_⟩
    intro s hs m _
    exact List.mem_cons.2 (.inl (List.mem_singleton.1 hs))
  · rw [hspecial]
    refine ⟨_, rfl, fun set hset => contains_moved hset ?_⟩
    intro s hs m himage
    obtain ⟨hfirst, hlast, -, -⟩ := Shift.image?_eq_some himage
    refine List.mem_cons_of_mem _ (List.mem_filter.2 ⟨hs, ?_⟩)
    rw [bne_iff_ne]
    intro heq
    have hlast' := hiota s hs heq
    exact hc (Char.toNat_inj.1 (by show c.toNat = 0x345; omega))

/-! ## Name parts -/

/-- The letters whose upper-case form is written with a mark behind the letter. -/
def combinedCapitals : List Nat := [
  0x1F0, 0x390, 0x3B0, 0x1E96, 0x1E97, 0x1E98, 0x1E99, 0x1F50, 0x1F52, 0x1F54, 0x1F56, 0x1FB6,
  0x1FB7, 0x1FC6, 0x1FC7, 0x1FD2, 0x1FD3, 0x1FD6, 0x1FD7, 0x1FE2, 0x1FE3, 0x1FE4, 0x1FE6, 0x1FE7,
  0x1FF6, 0x1FF7]

/-- The upper-case form has a mark of its own. -/
def hasCombinedCapital (c : Char) : Bool :=
  CharacterSet.contains (combinedCapitals.map fun n => (n, n)) c

theorem hasCombinedCapital_iff {c : Char} :
    hasCombinedCapital c = true ↔ c.toNat ∈ combinedCapitals := by
  rw [hasCombinedCapital, CharacterSet.contains_iff]
  constructor
  · rintro ⟨range, hrange, hfirst, hlast⟩
    obtain ⟨n, hn, rfl⟩ := List.mem_map.1 hrange
    rwa [Nat.le_antisymm hlast hfirst]
  · intro hmem
    exact ⟨(c.toNat, c.toNat), List.mem_map_of_mem hmem, Nat.le_refl _, Nat.le_refl _⟩

/-- Two characters that do the same for an identifier, also where a capital is made of them, and for
the end of a line.  The iota below is told apart: it is no name part, but its capital is. -/
structure Alike (c d : Char) : Prop where
  part : isNamePart d = isNamePart c
  combined : hasCombinedCapital d = hasCombinedCapital c
  iota : d = '\u0345' ↔ c = '\u0345'
  newline : d = '\n' ↔ c = '\n'

/-- **One character in lower case** does the same for an identifier. -/
theorem exists_alike_lowerForm {c : Char} (hc : c ≠ 'İ') : ∃ d, lowerForm c = [d] ∧ Alike c d := by
  obtain ⟨d, hform, hkept⟩ := exists_lowerForm hc
  have hsame (e : Char) (he : areKept lowering [(e.toNat, e.toNat)] = true) : d = e ↔ c = e := by
    rw [← Char.toNat_inj, ← Char.toNat_inj, ← CharacterSet.contains_singleton_iff, hkept _ he,
      CharacterSet.contains_singleton_iff]
  refine ⟨d, hform, ?_, hkept _ (by decide +kernel), hsame _ (by decide +kernel),
    hsame _ (by decide +kernel)⟩
  rw [← contains_nameParts, ← contains_nameParts]
  exact hkept nameParts (by decide +kernel)

theorem mem_toUpperSpecial {n : Nat} {codes : List Nat}
    (h : toUpperSpecial.lookup n = some codes) : (n, codes) ∈ toUpperSpecial := by
  obtain ⟨before, after, htable, -⟩ := List.lookup_eq_some_iff.1 h
  rw [htable]
  exact List.mem_append_right before List.mem_cons_self

/-- A letter that becomes several characters is a name part, and they are unless one is a mark. -/
theorem isNamePart_of_mem_toUpperSpecial : ∀ entry ∈ toUpperSpecial, 128 ≤ entry.1 ∧
    nameParts.covers entry.1 entry.1 = true ∧
    (entry.2.all fun n => nameParts.covers (Char.ofNat n).toNat (Char.ofNat n).toNat)
      = !combinedCapitals.contains entry.1 := by
  decide +kernel

/-- **The upper-case form of a character** consists of name parts exactly if the character is one
and no mark is needed. -/
theorem forall_upperForm_iff {c : Char} (hc : c ≠ '\u0345') :
    (∀ d ∈ upperForm c, isNamePart d = true) ↔
      isNamePart c = true ∧ hasCombinedCapital c = false := by
  cases hspecial : toUpperSpecial.lookup c.toNat with
  | none =>
    obtain ⟨d, hform, hkept⟩ := exists_upperForm hspecial hc
    have hpart : isNamePart d = isNamePart c := by
      rw [← contains_nameParts, ← contains_nameParts]
      exact hkept nameParts (by decide +kernel)
    have hsimple : hasCombinedCapital c = false := by
      have hlisted : ∀ n ∈ combinedCapitals, toUpperSpecial.lookup n ≠ none := by decide +kernel
      rw [Bool.eq_false_iff, ne_eq, hasCombinedCapital_iff]
      exact fun hmem => hlisted _ hmem hspecial
    rw [hform, List.forall_mem_singleton, hpart, hsimple]
    exact (and_iff_left rfl).symm
  | some codes =>
    obtain ⟨habove, hsource, hcodes⟩ :=
      isNamePart_of_mem_toUpperSpecial _ (mem_toUpperSpecial hspecial)
    have hpart : isNamePart c = true := by
      rw [← contains_nameParts, ← CharacterSet.covers_toNat]
      exact hsource
    have hcombined : combinedCapitals.contains c.toNat = hasCombinedCapital c := by
      rw [Bool.eq_iff_iff, List.contains_iff_mem, hasCombinedCapital_iff]
    rw [upperForm, if_neg (Nat.not_lt.2 habove), hspecial, hpart, ← Bool.not_eq_true',
      ← hcombined, ← hcodes, List.all_eq_true]
    simp only [List.forall_mem_map, CharacterSet.covers_toNat, contains_nameParts, true_and]

/-- No upper-case form ends a line but the end of a line. -/
theorem newline_not_mem_upperForm {c : Char} (hc : c ≠ '\n') : '\n' ∉ upperForm c := by
  by_cases hiota : c = '\u0345'
  · rw [hiota]
    decide
  · cases hspecial : toUpperSpecial.lookup c.toNat with
    | none =>
      obtain ⟨d, hform, hkept⟩ := exists_upperForm hspecial hiota
      have hsame := hkept [('\n'.toNat, '\n'.toNat)] (by decide)
      rw [hform, List.mem_singleton]
      rintro rfl
      rw [CharacterSet.contains_singleton_iff.2 rfl, eq_comm,
        CharacterSet.contains_singleton_iff] at hsame
      exact hc (Char.toNat_inj.1 hsame)
    | some codes =>
      have hcodes : ∀ entry ∈ toUpperSpecial, 128 ≤ entry.1 ∧
          '\n' ∉ entry.2.map Char.ofNat := by
        decide
      obtain ⟨habove, hnot⟩ := hcodes _ (mem_toUpperSpecial hspecial)
      rw [upperForm, if_neg (Nat.not_lt.2 habove), hspecial]
      exact hnot

/-! ## Words -/

/-- What stands for a character in the lower-case form of a text. -/
inductive Lowers : Char → List Char → Prop
  | alike {c d : Char} (hc : c ≠ 'İ') (h : Alike c d) : Lowers c [d]
  | dotted : Lowers 'İ' ['i', '\u0307']

theorem exists_lowers (before rest : List Char) (c : Char) :
    ∃ form, Lowers c form ∧
      toLowerAfter before (c :: rest) = form ++ toLowerAfter (c :: before) rest := by
  refine ⟨_, ?_, rfl⟩
  by_cases hsigma : c = 'Σ'
  · subst hsigma
    rw [if_pos (by decide)]
    split
    · exact .alike (by decide) ⟨by decide, by decide, by decide, by decide⟩
    · exact .alike (by decide) ⟨by decide, by decide, by decide, by decide⟩
  · rw [if_neg (by simpa using hsigma)]
    by_cases hdotted : c = 'İ'
    · subst hdotted
      exact .dotted
    · obtain ⟨d, hform, halike⟩ := exists_alike_lowerForm hdotted
      rw [hform]
      exact .alike hdotted halike

theorem Lowers.forall_iff {c : Char} {form : List Char} (h : Lowers c form) :
    (∀ d ∈ form, isNamePart d = true) ↔ isNamePart c = true ∧ c ≠ 'İ' := by
  cases h with
  | alike hc halike => rw [List.forall_mem_singleton, halike.part, and_iff_left hc]
  | dotted =>
    constructor
    · intro hall
      exact absurd (hall '\u0307' (by simp)) (by decide +kernel)
    · rintro ⟨-, hne⟩
      exact absurd rfl hne

theorem forall_toLowerAfter_iff (before cs : List Char) :
    (∀ d ∈ toLowerAfter before cs, isNamePart d = true) ↔
      ∀ c ∈ cs, isNamePart c = true ∧ c ≠ 'İ' := by
  induction cs generalizing before with
  | nil => simp [toLowerAfter]
  | cons c rest ih =>
    obtain ⟨form, hlowers, heq⟩ := exists_lowers before rest c
    rw [heq, List.forall_mem_append, hlowers.forall_iff, ih, List.forall_mem_cons]

theorem newline_mem_toLowerAfter_iff (before cs : List Char) :
    '\n' ∈ toLowerAfter before cs ↔ '\n' ∈ cs := by
  induction cs generalizing before with
  | nil => simp [toLowerAfter]
  | cons c rest ih =>
    obtain ⟨form, hlowers, heq⟩ := exists_lowers before rest c
    have hform : '\n' ∈ form ↔ '\n' = c := by
      cases hlowers with
      | alike hc halike => rw [List.mem_singleton, eq_comm, halike.newline, eq_comm]
      | dotted => decide
    rw [heq, List.mem_append, hform, ih, List.mem_cons]

end ClientGen.Text
