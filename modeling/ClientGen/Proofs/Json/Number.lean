import ClientGen.Json.Printer
import ClientGen.Proofs.Json.Decimal
import ClientGen.Proofs.Json.Limits
import Mathlib.Data.List.TakeWhile

/-!
# Numbers are read back

A number is written as its digits before and behind a point and, if the point is far off, with an
exponent.  Reading puts the same parts together again, in front of any text with which a number
cannot go on.

## Main definitions

* `Reader.EndsNumber` — no number goes on with a text.
* `Reader.IsWhole` — the digits in front of a point.

## Main results

* `Reader.unsigned?_append` — what is read of digits around a point.
* `Reader.unsigned?_digitsText` — a normal number is read back.
* `Reader.plain_int`, `Reader.plain_real` — whole and other numbers are read back.
-/

namespace ClientGen.Json.Reader

open Decimal (digits)

/-- No number goes on with the text. -/
def EndsNumber (rest : List Char) : Prop :=
  ∀ c ∈ rest.head?, c.isDigit = false ∧ c ≠ '.' ∧ c ≠ 'e' ∧ c ≠ 'E'

/-! ## Digits -/

theorem natural_append (first second : List Char) :
    natural (first ++ second) = natural first * 10 ^ second.length + natural second := by
  have h := Nat.ofDigitChars_append (b := 10) (l := first) (m := second) 0
  rw [Nat.ofDigitChars_eq_ofDigitChars_zero (l := second)] at h
  rw [Nat.mul_comm]
  exact h

theorem natural_digits (n : Nat) : natural (digits n) = n :=
  Nat.ofDigitChars_ten_toDigits

theorem natural_replicate (count : Nat) : natural (List.replicate count '0') = 0 :=
  Nat.ofDigitChars_replicate_zero

/-- Digits in front of a text that does not start with one. -/
theorem takeWhile_isDigit_append {ds rest : List Char} (hds : ∀ c ∈ ds, c.isDigit = true)
    (hrest : ∀ c ∈ rest.head?, c.isDigit = false) :
    (ds ++ rest).takeWhile Char.isDigit = ds := by
  rw [List.takeWhile_append_of_pos hds]
  cases rest with
  | nil => simp
  | cons c rest => simp [hrest c rfl]

/-- Digits that stand in front of a point: a zero, or digits that do not start with one. -/
structure IsWhole (whole : List Char) : Prop where
  isDigit : ∀ c ∈ whole, c.isDigit = true
  ne_nil : whole ≠ []
  zero : whole.head? = some '0' → whole = ['0']

theorem isDigit_zero : ∀ c ∈ ['0'], c.isDigit = true :=
  List.forall_mem_singleton.2 rfl

theorem isWhole_zero : IsWhole ['0'] :=
  ⟨isDigit_zero, by decide, fun _ => rfl⟩

theorem isWhole_digits (n : Nat) : IsWhole (digits n) where
  isDigit _ h := Decimal.isDigit_of_mem_digits h
  ne_nil := Decimal.digits_ne_nil n
  zero h := by
    by_cases hzero : n = 0
    · rw [hzero]
      rfl
    · exact absurd h (Decimal.head?_digits_ne hzero)

/-- A point and the digits behind it; nothing if there are none. -/
def pointed (ds : List Char) : List Char :=
  if ds.isEmpty then [] else '.' :: ds

/-- What stands behind a whole part does not go on with it. -/
theorem isDigit_eq_false_of_pointed {ds rest : List Char}
    (hrest : ∀ c ∈ rest.head?, c.isDigit = false) :
    ∀ c ∈ (pointed ds ++ rest).head?, c.isDigit = false := by
  unfold pointed
  split
  · exact hrest
  · intro c hc
    obtain rfl : '.' = c := by simpa using hc
    decide

/-- A whole part is taken as it is: behind a leading zero there is nothing more of it. -/
theorem whole_append {whole rest : List Char} (hwhole : IsWhole whole)
    (hrest : ∀ c ∈ rest.head?, c.isDigit = false) :
    (match whole ++ rest with
      | '0' :: _ => ['0']
      | _ => (whole ++ rest).takeWhile Char.isDigit) = whole := by
  split
  · rename_i heq
    have hhead : whole.head? = some '0' := by
      rw [← List.head?_append_of_ne_nil _ hwhole.ne_nil, heq]
      rfl
    exact (hwhole.zero hhead).symm
  · exact takeWhile_isDigit_append hwhole.isDigit hrest

theorem fraction_pointed {ds rest : List Char} (hds : ∀ c ∈ ds, c.isDigit = true)
    (hrest : ∀ c ∈ rest.head?, c.isDigit = false ∧ c ≠ '.') :
    fraction (pointed ds ++ rest) = (ds, rest) := by
  unfold pointed
  split
  · rename_i hempty
    rw [List.isEmpty_iff.1 hempty, List.nil_append]
    unfold fraction
    split
    · exact absurd rfl (hrest '.' rfl).2
    · rfl
  · rename_i hne
    rw [List.cons_append, fraction, takeWhile_isDigit_append hds fun c hc => (hrest c hc).1,
      if_neg hne, List.drop_left]

/-! ## Exponents -/

theorem exponent?_eq_none {rest : List Char} (h : EndsNumber rest) : exponent? rest = none := by
  cases rest with
  | nil => rfl
  | cons c rest =>
    obtain ⟨-, -, hsmall, hlarge⟩ := h c rfl
    simp [exponent?, hsmall, hlarge]

theorem exponent?_mark {ds rest : List Char} (small : Prop) [Decidable small]
    (hds : ∀ c ∈ ds, c.isDigit = true) (hne : ds ≠ []) (hrest : EndsNumber rest) :
    exponent? ('e' :: (if small then '-' else '+') :: (ds ++ rest))
      = some (if small then -(natural ds : Int) else natural ds, rest) := by
  have htake := takeWhile_isDigit_append hds fun c hc => (hrest c hc).1
  have hempty : ds.isEmpty = false := by simpa using hne
  by_cases hsmall : small <;> simp [exponent?, htake, hempty, hsmall]

/-! ## Unsigned numbers -/

/-- **What is read of digits around a point**, with or without an exponent behind them. -/
theorem unsigned?_append {whole ds rest : List Char} (hwhole : IsWhole whole)
    (hds : ∀ c ∈ ds, c.isDigit = true) (hrest : ∀ c ∈ rest.head?, c.isDigit = false ∧ c ≠ '.')
    (negative : Bool) :
    unsigned? negative (whole ++ (pointed ds ++ rest)) =
      match exponent? rest with
      | some (power, more) => some (real (.ofScientific negative (natural (whole ++ ds))
          (power - ds.length)), more)
      | none =>
        if ds.isEmpty then
          some (int (if negative then -(natural (whole ++ ds) : Int) else natural (whole ++ ds)),
            rest)
        else some (real (.ofScientific negative (natural (whole ++ ds)) (-(ds.length : Int))),
          rest) := by
  have hne : ¬ whole.isEmpty = true := by simpa using hwhole.ne_nil
  delta unsigned?
  extract_lets front part coefficient
  have hfront : front = whole :=
    whole_append hwhole (isDigit_eq_false_of_pointed fun c hc => (hrest c hc).1)
  have hpart : part = (ds, rest) := by
    unfold part
    rw [hfront, List.drop_left, fraction_pointed hds hrest]
  have hcoefficient : coefficient = natural (whole ++ ds) := by
    unfold coefficient
    rw [hfront, hpart]
  rw [if_neg (hfront ▸ hne)]
  cases hexponent : exponent? rest with
  | none => simp only [hpart, hcoefficient, hexponent]
  | some read =>
    obtain ⟨power, more⟩ := read
    simp only [hpart, hcoefficient, hexponent]

/-- A whole number. -/
theorem unsigned?_digits {rest : List Char} (n : Nat) (hrest : EndsNumber rest)
    (negative : Bool) :
    unsigned? negative (digits n ++ rest)
      = some (int (if negative then -(n : Int) else n), rest) := by
  have hnone : ∀ c ∈ ([] : List Char), c.isDigit = true := by simp
  have h := unsigned?_append (isWhole_digits n) hnone
    (fun c hc => ⟨(hrest c hc).1, (hrest c hc).2.1⟩) negative
  rw [exponent?_eq_none hrest, List.append_nil, natural_digits] at h
  exact h

/-- Digits around a point, and no exponent. -/
theorem unsigned?_point {whole ds rest : List Char} (hwhole : IsWhole whole)
    (hds : ∀ c ∈ ds, c.isDigit = true) (hne : ds ≠ []) (hrest : EndsNumber rest)
    (negative : Bool) :
    unsigned? negative (whole ++ '.' :: ds ++ rest) = some
      (real (.ofScientific negative (natural (whole ++ ds)) (-(ds.length : Int))), rest) := by
  have hempty : ¬ ds.isEmpty = true := by simpa using hne
  have h := unsigned?_append hwhole hds
    (fun c hc => ⟨(hrest c hc).1, (hrest c hc).2.1⟩) negative
  rw [exponent?_eq_none hrest, pointed, if_neg hempty] at h
  rw [List.append_assoc, h]
  exact if_neg hempty

/-- Digits around a point, or none behind it, and an exponent. -/
theorem unsigned?_exponent {whole ds size rest : List Char} (hwhole : IsWhole whole)
    (hds : ∀ c ∈ ds, c.isDigit = true) (hsize : ∀ c ∈ size, c.isDigit = true) (hne : size ≠ [])
    (hrest : EndsNumber rest) (negative : Bool) (small : Prop) [Decidable small] :
    unsigned? negative
        (whole ++ (pointed ds ++ 'e' :: (if small then '-' else '+') :: (size ++ rest))) = some
      (real (.ofScientific negative (natural (whole ++ ds))
        ((if small then -(natural size : Int) else natural size) - ds.length)), rest) := by
  have hmark : ∀ c ∈ ('e' :: (if small then '-' else '+') :: (size ++ rest)).head?,
      c.isDigit = false ∧ c ≠ '.' := by
    intro c hc
    obtain rfl : 'e' = c := by simpa using hc
    decide
  have h := unsigned?_append hwhole hds hmark negative
  rw [exponent?_mark small hsize hne hrest] at h
  exact h

/-! ## Normal numbers -/

theorem toList_toString (n : Nat) : (toString n).toList = digits n :=
  String.toList_ofList

/-- An exponent of at least two digits. -/
theorem natural_padded (n : Nat) :
    natural ((if n < 10 then "0" ++ toString n else toString n).toList) = n := by
  split
  · have hzero : natural "0".toList = 0 := rfl
    rw [String.toList_append, natural_append, toList_toString, natural_digits, hzero, Nat.zero_mul,
      Nat.zero_add]
  · rw [toList_toString, natural_digits]

theorem isDigit_padded (n : Nat) :
    ∀ c ∈ (if n < 10 then "0" ++ toString n else toString n).toList, c.isDigit = true := by
  intro c hc
  split at hc
  · rw [String.toList_append, List.mem_append, toList_toString] at hc
    rcases hc with hc | hc
    · obtain rfl : c = '0' := by simpa using hc
      decide
    · exact Decimal.isDigit_of_mem_digits hc
  · rw [toList_toString] at hc
    exact Decimal.isDigit_of_mem_digits hc

section

variable {coefficient : Nat} {exponent : Int} {rest : List Char}

/-- The point stands in front of the digits, perhaps with zeros between them. -/
theorem unsigned?_before (hend : coefficient % 10 ≠ 0)
    (hrange : Decimal.InRange coefficient exponent) (hrest : EndsNumber rest) (negative : Bool)
    {zeros : Nat} (hzeros : ((digits coefficient).length : Int) + exponent = -zeros) :
    unsigned? negative (['0'] ++ '.' :: (List.replicate zeros '0' ++ digits coefficient) ++ rest)
      = some (real (.finite negative coefficient exponent), rest) := by
  have hdigits : ∀ c ∈ List.replicate zeros '0' ++ digits coefficient, c.isDigit = true := by
    intro c hc
    rcases List.mem_append.1 hc with hc | hc
    · rw [List.eq_of_mem_replicate hc]
      decide
    · exact Decimal.isDigit_of_mem_digits hc
  have hexponent : -(((List.replicate zeros '0' ++ digits coefficient).length : Nat) : Int)
      = exponent := by
    rw [List.length_append, List.length_replicate]
    omega
  have hzero : natural ['0'] = 0 := rfl
  rw [unsigned?_point isWhole_zero hdigits (by simp [Decimal.digits_ne_nil]) hrest, natural_append,
    natural_append, natural_replicate, natural_digits, hexponent, hzero, Nat.zero_mul,
    Nat.zero_mul, Nat.zero_add, Nat.zero_add, Decimal.ofScientific_of_inRange hend hrange]

/-- The point stands behind the digits, perhaps after zeros. -/
theorem unsigned?_behind (hend : coefficient % 10 ≠ 0)
    (hrange : Decimal.InRange coefficient exponent) (hrest : EndsNumber rest) (negative : Bool)
    {zeros : Nat} (hzeros : exponent = zeros) :
    unsigned? negative (digits coefficient ++ List.replicate zeros '0' ++ '.' :: ['0'] ++ rest)
      = some (real (.finite negative coefficient exponent), rest) := by
  have hne : coefficient ≠ 0 := fun hzero => hend (by rw [hzero])
  have hexponent : exponent = -((['0'].length : Nat) : Int) + (zeros + 1 : Nat) := by
    simp only [List.length_singleton]
    omega
  have hnatural : natural (digits (coefficient * 10 ^ zeros) ++ ['0'])
      = coefficient * 10 ^ (zeros + 1) := by
    rw [natural_append, natural_digits, Nat.pow_succ, ← Nat.mul_assoc]
    rfl
  rw [← Decimal.digits_mul_pow hne,
    unsigned?_point (isWhole_digits _) isDigit_zero (by decide) hrest, hnatural, hexponent,
    Decimal.ofScientific_mul_pow hend _ (hexponent ▸ hrange)]

/-- The point stands among the digits. -/
theorem unsigned?_among (hend : coefficient % 10 ≠ 0)
    (hrange : Decimal.InRange coefficient exponent) (hrest : EndsNumber rest) (negative : Bool)
    {place : Nat} (hplace : ((digits coefficient).length : Int) + exponent = place)
    (hpos : 0 < place) (hlt : place < (digits coefficient).length) :
    unsigned? negative
        ((digits coefficient).take place ++ '.' :: (digits coefficient).drop place ++ rest)
      = some (real (.finite negative coefficient exponent), rest) := by
  have hne : coefficient ≠ 0 := fun hzero => hend (by rw [hzero])
  have hwhole : IsWhole ((digits coefficient).take place) := by
    refine ⟨fun c hc => Decimal.isDigit_of_mem_digits (List.mem_of_mem_take hc), ?_, ?_⟩
    · rw [Ne, List.take_eq_nil_iff, not_or]
      exact ⟨hpos.ne', Decimal.digits_ne_nil _⟩
    · rw [List.head?_take, if_neg hpos.ne']
      exact fun h => absurd h (Decimal.head?_digits_ne hne)
  have hexponent : -((((digits coefficient).drop place).length : Nat) : Int) = exponent := by
    rw [List.length_drop]
    omega
  rw [unsigned?_point hwhole (fun c hc => Decimal.isDigit_of_mem_digits (List.mem_of_mem_drop hc))
    (by rw [Ne, List.drop_eq_nil_iff]; omega) hrest, List.take_append_drop, natural_digits,
    hexponent, Decimal.ofScientific_of_inRange hend hrange]

/-- The point is far off, so that an exponent says where it stands. -/
theorem unsigned?_far (hend : coefficient % 10 ≠ 0)
    (hrange : Decimal.InRange coefficient exponent) (hrest : EndsNumber rest) (negative : Bool)
    {first : Char} {others : List Char} (hdigits : digits coefficient = first :: others)
    {power : Int} (hpower : ((digits coefficient).length : Int) + exponent - 1 = power) :
    unsigned? negative ([first] ++ (pointed others ++ 'e' :: (if power < 0 then '-' else '+') ::
        ((if power.natAbs < 10 then "0" ++ toString power.natAbs
          else toString power.natAbs).toList ++ rest)))
      = some (real (.finite negative coefficient exponent), rest) := by
  have hall : ∀ c ∈ first :: others, c.isDigit = true := fun c hc =>
    Decimal.isDigit_of_mem_digits (hdigits ▸ hc)
  have hwhole : IsWhole [first] := by
    refine ⟨by simpa using hall first List.mem_cons_self, by simp, fun h => ?_⟩
    rw [Option.some.inj h]
  have hlength : (digits coefficient).length = others.length + 1 := by
    rw [hdigits, List.length_cons]
  have hexponent : (if power < 0 then -(power.natAbs : Int) else power.natAbs) - others.length
      = exponent := by
    split <;> omega
  have hread := unsigned?_exponent hwhole (fun c hc => hall c (List.mem_cons_of_mem _ hc))
    (isDigit_padded power.natAbs) (by split <;> simp) hrest negative (power < 0)
  rw [natural_padded, List.singleton_append (l := others), ← hdigits, natural_digits] at hread
  rw [hread, hexponent, Decimal.ofScientific_of_inRange hend hrange]

end

/-- **A normal number is read back.** -/
theorem unsigned?_digitsText {coefficient : Nat} {exponent : Int} {rest : List Char}
    (hend : coefficient % 10 ≠ 0) (hrange : Decimal.InRange coefficient exponent)
    (hrest : EndsNumber rest) (negative : Bool) :
    unsigned? negative ((Decimal.digitsText (digits coefficient)
        ((digits coefficient).length + exponent)).toList ++ rest)
      = some (real (.finite negative coefficient exponent), rest) := by
  unfold Decimal.digitsText
  split
  · rename_i hnear
    simp only [Bool.and_eq_true, decide_eq_true_eq] at hnear
    split
    · simp only [String.toList_append, String.toList_ofList]
      exact unsigned?_before hend hrange hrest negative (by omega)
    · split
      · simp only [String.toList_append, String.toList_ofList]
        exact unsigned?_behind hend hrange hrest negative (by omega)
      · simp only [String.toList_append, String.toList_ofList]
        rw [List.append_assoc _ ".".toList]
        have hplace : ((digits coefficient).length : Int) + exponent
            = (((digits coefficient).length : Int) + exponent).toNat := by omega
        exact unsigned?_among hend hrange hrest negative hplace (by omega) (by omega)
  · obtain ⟨first, others, hdigits⟩ :=
      List.exists_cons_of_ne_nil (Decimal.digits_ne_nil coefficient)
    have hread := unsigned?_far hend hrange hrest negative hdigits rfl
    rw [hdigits] at hread ⊢
    dsimp only at hread ⊢
    have hmark (power : Int) : (if power < 0 then "e-" else "e+").toList
        = ['e', if power < 0 then '-' else '+'] := by
      split <;> rfl
    simp only [String.toList_append, hmark]
    cases others with
    | nil => simpa only [pointed, String.toList_ofList, List.append_assoc, List.cons_append,
        List.nil_append, List.isEmpty_nil, if_true] using hread
    | cons second others => simpa only [pointed, String.toList_ofList, List.append_assoc,
        List.cons_append, List.nil_append, List.isEmpty_cons, Bool.false_eq_true, if_false]
        using hread

/-! ## Words, whole numbers and others -/

/-- A number starts with a digit. -/
theorem isDigit_of_unsigned? {negative : Bool} {cs rest : List Char} {found : Json}
    (h : unsigned? negative cs = some (found, rest)) :
    ∃ c others, cs = c :: others ∧ c.isDigit = true := by
  cases cs with
  | nil => simp [unsigned?] at h
  | cons c others =>
    refine ⟨c, others, rfl, ?_⟩
    by_cases hzero : c = '0'
    · rw [hzero]
      decide
    · by_contra hdigit
      simp [unsigned?, hzero, hdigit] at h

/-- The first two characters of a word are no digits. -/
theorem exists_cons_of_mem_words : ∀ word ∈ words, ∃ first second others,
    word.1.toList = first :: second :: others ∧ first.isDigit = false ∧ second.isDigit = false := by
  simp only [words, List.forall_mem_cons]
  exact ⟨⟨_, _, _, rfl, rfl, rfl⟩, ⟨_, _, _, rfl, rfl, rfl⟩, ⟨_, _, _, rfl, rfl, rfl⟩,
    ⟨_, _, _, rfl, rfl, rfl⟩, ⟨_, _, _, rfl, rfl, rfl⟩, ⟨_, _, _, rfl, rfl, rfl⟩, by simp⟩

/-- No word starts with a digit, nor with a sign and a digit. -/
theorem word?_eq_none {cs : List Char} {c : Char} {others : List Char} (hc : c.isDigit = true)
    (hcs : cs = c :: others ∨ cs = '-' :: c :: others) : word? cs = none := by
  rw [word?, List.findSome?_eq_none_iff]
  intro word hword
  obtain ⟨first, second, more, htext, hfirst, hsecond⟩ := exists_cons_of_mem_words word hword
  rw [if_neg]
  intro hprefix
  rw [htext, List.isPrefixOf_iff_prefix] at hprefix
  rcases hcs with rfl | rfl
  · obtain ⟨rfl, -⟩ := List.cons_prefix_cons.1 hprefix
    simp [hc] at hfirst
  · obtain ⟨rfl, -⟩ := List.cons_prefix_cons.1 (List.cons_prefix_cons.1 hprefix).2
    simp [hc] at hsecond

theorem plain_of_unsigned? {cs rest : List Char} {found : Json} (negative : Bool)
    (h : unsigned? negative cs = some (found, rest)) :
    plain {} ((if negative then ['-'] else []) ++ cs) = .ok (found, rest) := by
  obtain ⟨c, others, rfl, hc⟩ := isDigit_of_unsigned? h
  cases negative with
  | false =>
    have hne : c ≠ '-' := by
      rintro rfl
      simp at hc
    simp [plain, word?_eq_none hc (.inl rfl), hne, h, allow_unlimited]
  | true => simp [plain, word?_eq_none hc (.inr rfl), h, allow_unlimited]

/-- **A whole number is read back.** -/
theorem plain_int (n : Int) {rest : List Char} (hrest : EndsNumber rest) :
    plain {} ((toString n).toList ++ rest) = .ok (int n, rest) := by
  cases n with
  | ofNat n =>
    change plain {} ((toString n).toList ++ rest) = _
    rw [toList_toString]
    exact plain_of_unsigned? false (unsigned?_digits n hrest false)
  | negSucc n =>
    change plain {} (("-" ++ toString (n + 1)).toList ++ rest) = _
    rw [String.toList_append, List.append_assoc, toList_toString]
    exact plain_of_unsigned? true (unsigned?_digits (n + 1) hrest true)

/-- **A normal number with digits behind the point is read back.** -/
theorem plain_real {d : Decimal} (hnormal : d.IsNormal) {rest : List Char}
    (hrest : EndsNumber rest) :
    plain {} ((d.textWith "Infinity" "NaN").toList ++ rest) = .ok (real d, rest) := by
  cases d with
  | undefined => rfl
  | infinite negative => cases negative <;> rfl
  | finite negative coefficient exponent =>
    have hsign : (if negative then "-" else "").toList = if negative then ['-'] else [] := by
      split <;> rfl
    rw [Decimal.textWith, String.toList_append, hsign, List.append_assoc]
    refine plain_of_unsigned? negative ?_
    rcases hnormal with ⟨rfl, rfl⟩ | ⟨hend, hrange⟩
    · exact unsigned?_point isWhole_zero isDigit_zero (by decide) hrest negative
    · have hne : coefficient ≠ 0 := fun hzero => hend (by rw [hzero])
      rw [if_neg hne]
      exact unsigned?_digitsText hend hrange hrest negative

end ClientGen.Json.Reader
