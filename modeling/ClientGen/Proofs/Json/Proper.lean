import ClientGen.Proofs.Json.Decimal
import ClientGen.Proofs.Json.Limits
import ClientGen.Proofs.Success

/-!
# Values that texts hold

A value that is read from a text is proper: the names of an object are distinct, and a number with
digits behind the point has its normal form.  For either, only one of several ways to write the same
data is kept.

## Main definitions

* `Json.IsProper` — the values that texts hold.
* `Json.Reader.ReadsProper` — whatever is read with some fuel is proper.

## Main results

* `Json.isProper_of_parse` — what is read is proper.
-/

namespace ClientGen.Json

/-- A value as a text can hold it. -/
inductive IsProper : Json → Prop
  | null : IsProper null
  | bool (b : Bool) : IsProper (bool b)
  | int (n : Int) : IsProper (int n)
  | real {d : Decimal} (h : d.IsNormal) : IsProper (real d)
  | str (s : String) : IsProper (str s)
  | arr {items : List Json} (h : ∀ item ∈ items, IsProper item) : IsProper (arr items)
  | obj {fields : List (String × Json)} (hkeys : (Entries.keys fields).Nodup)
      (h : ∀ field ∈ fields, IsProper field.2) : IsProper (obj fields)

theorem IsProper.of_mem {fields : List (String × Json)} (h : IsProper (.obj fields))
    {field : String × Json} (hfield : field ∈ fields) : IsProper field.2 := by
  cases h with
  | obj _ h => exact h field hfield

theorem IsProper.nodup_keys {fields : List (String × Json)} (h : IsProper (.obj fields)) :
    (Entries.keys fields).Nodup := by
  cases h with
  | obj hkeys _ => exact hkeys

namespace Reader

theorem isProper_of_unsigned? {negative : Bool} {cs rest : List Char} {found : Json}
    (h : unsigned? negative cs = some (found, rest)) : found.IsProper := by
  delta unsigned? at h
  extract_lets whole part coefficient at h
  split at h
  · simp at h
  · split at h
    · simp only [Option.some.injEq, Prod.mk.injEq] at h
      obtain ⟨rfl, -⟩ := h
      exact .real (Decimal.isNormal_ofScientific _ _ _)
    · split at h
      · simp only [Option.some.injEq, Prod.mk.injEq] at h
        obtain ⟨rfl, -⟩ := h
        exact .int _
      · simp only [Option.some.injEq, Prod.mk.injEq] at h
        obtain ⟨rfl, -⟩ := h
        exact .real (Decimal.isNormal_ofScientific _ _ _)

theorem isProper_of_word? {cs rest : List Char} {found : Json} (h : word? cs = some (found, rest)) :
    found.IsProper := by
  have hwords : ∀ word ∈ words, word.2.IsProper := by
    simp only [words, List.forall_mem_cons]
    exact ⟨.null, .bool _, .bool _, .real trivial, .real trivial, .real trivial, by simp⟩
  obtain ⟨word, hword, hread⟩ := List.exists_of_findSome?_eq_some h
  split at hread
  · simp only [Option.some.injEq, Prod.mk.injEq] at hread
    exact hread.1 ▸ hwords word hword
  · simp at hread

theorem isProper_of_plain {limits : Limits} {cs rest : List Char} {found : Json}
    (h : plain limits cs = .ok (found, rest)) : found.IsProper := by
  unfold plain at h
  split at h
  · rename_i read hword
    obtain rfl := Except.ok.inj h
    exact isProper_of_word? hword
  · dsimp only at h
    split at h
    · rename_i read hnumber
      obtain hpass | ⟨excess, hpass⟩ := allow_cases limits read
      · obtain rfl := Except.ok.inj (hpass.symm.trans h)
        split at hnumber
        · exact isProper_of_unsigned? hnumber
        · exact isProper_of_unsigned? hnumber
      · cases hpass.symm.trans h
    · simp at h

/-- With this much fuel, what is read is proper: a value, the entries of an object and the items of
an array.  Entries and items are read behind those that are done. -/
structure ReadsProper (fuel : Nat) : Prop where
  value : ∀ limits cs found rest, Reader.value fuel limits cs = .ok (found, rest) → found.IsProper
  members : ∀ limits done cs fields rest, Reader.members fuel limits done cs = .ok (fields, rest) →
    IsProper (.obj done) → IsProper (.obj fields)
  items : ∀ limits done cs found rest, Reader.items fuel limits done cs = .ok (found, rest) →
    (∀ item ∈ done, IsProper item) → ∀ item ∈ found, IsProper item

variable {fuel : Nat} {limits : Limits} {cs rest : List Char}

/-- A value holds what its brackets hold, which takes less fuel. -/
theorem ReadsProper.value_succ (h : ReadsProper fuel) {found : Json}
    (hread : Reader.value (fuel + 1) limits cs = .ok (found, rest)) : found.IsProper := by
  unfold Reader.value at hread
  split at hread
  · -- A text.
    obtain ⟨⟨s, more⟩, -, hread⟩ := bind_eq_ok.1 hread
    obtain ⟨rfl, -⟩ := Prod.mk.inj (pure_eq_ok.1 hread)
    exact .str s
  · -- An object, empty or with entries.
    obtain ⟨inner, -, hread⟩ := bind_eq_ok.1 hread
    split at hread
    · obtain ⟨rfl, -⟩ := Prod.mk.inj (Except.ok.inj hread)
      exact .obj (by simp [Entries.keys]) (by simp)
    · obtain ⟨⟨fields, more⟩, hfields, hread⟩ := bind_eq_ok.1 hread
      obtain ⟨rfl, -⟩ := Prod.mk.inj (pure_eq_ok.1 hread)
      exact h.members _ _ _ _ _ hfields (.obj (by simp [Entries.keys]) (by simp))
  · -- An array, empty or with items.
    obtain ⟨inner, -, hread⟩ := bind_eq_ok.1 hread
    split at hread
    · obtain ⟨rfl, -⟩ := Prod.mk.inj (Except.ok.inj hread)
      exact .arr (by simp)
    · obtain ⟨⟨items, more⟩, hitems, hread⟩ := bind_eq_ok.1 hread
      obtain ⟨rfl, -⟩ := Prod.mk.inj (pure_eq_ok.1 hread)
      exact .arr (h.items _ _ _ _ _ hitems (by simp))
  · exact isProper_of_plain hread

/-- An entry is put under its name, so the names stay distinct. -/
theorem ReadsProper.members_succ (h : ReadsProper fuel) {done fields : List (String × Json)}
    (hread : Reader.members (fuel + 1) limits done cs = .ok (fields, rest))
    (hdone : IsProper (.obj done)) : IsProper (.obj fields) := by
  unfold Reader.members at hread
  split at hread
  · obtain ⟨⟨name, behind⟩, -, hread⟩ := bind_eq_ok.1 hread
    dsimp only at hread
    split at hread
    · obtain ⟨⟨found, more⟩, hfound, hread⟩ := bind_eq_ok.1 hread
      have hnext : IsProper (.obj (Entries.put name found done)) :=
        .obj (Entries.nodup_keys_put name found hdone.nodup_keys)
          (Entries.forall_mem_put (h.value _ _ _ _ hfound) fun _ hfield => hdone.of_mem hfield)
      dsimp only at hread
      split at hread
      · obtain ⟨rfl, -⟩ := Prod.mk.inj (pure_eq_ok.1 hread)
        exact hnext
      · exact h.members _ _ _ _ _ hread hnext
      · cases hread
    · cases hread
  · cases hread

/-- Items are collected back to front, and turned round at the end. -/
theorem ReadsProper.items_succ (h : ReadsProper fuel) {done found : List Json}
    (hread : Reader.items (fuel + 1) limits done cs = .ok (found, rest))
    (hdone : ∀ item ∈ done, IsProper item) : ∀ item ∈ found, IsProper item := by
  unfold Reader.items at hread
  obtain ⟨⟨item, more⟩, hitem, hread⟩ := bind_eq_ok.1 hread
  have hnext : ∀ other ∈ item :: done, other.IsProper :=
    List.forall_mem_cons.2 ⟨h.value _ _ _ _ hitem, hdone⟩
  dsimp only at hread
  split at hread
  · obtain ⟨rfl, -⟩ := Prod.mk.inj (pure_eq_ok.1 hread)
    exact fun other hother => hnext other (List.mem_reverse.1 hother)
  · exact h.items _ _ _ _ _ hread hnext
  · cases hread

theorem readsProper (fuel : Nat) : ReadsProper fuel := by
  induction fuel with
  | zero => constructor <;> simp [Reader.value, Reader.members, Reader.items]
  | succ fuel ih =>
    exact ⟨fun _ _ _ _ => ih.value_succ, fun _ _ _ _ _ => ih.members_succ,
      fun _ _ _ _ _ => ih.items_succ⟩

end Reader

/-- **What is read is proper.** -/
theorem isProper_of_parse {text : String} {limits : Limits} {found : Json}
    (h : parse text limits = .ok found) : found.IsProper := by
  unfold parse at h
  dsimp only at h
  split at h
  · rename_i hread
    obtain rfl := Except.ok.inj h
    unfold Reader.document at hread
    dsimp only at hread
    split at hread
    · simp [throw_eq_error, bind, Except.bind] at hread
    obtain ⟨⟨value, rest⟩, hvalue, hread⟩ := bind_eq_ok.1 hread
    dsimp only at hread
    split at hread
    · obtain rfl := pure_eq_ok.1 hread
      exact (Reader.readsProper _).value _ _ _ _ hvalue
    · cases hread
  all_goals simp at h

end ClientGen.Json
