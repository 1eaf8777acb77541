import ClientGen.Proofs.File.Text
import ClientGen.Proofs.Json.Reading

/-!
# Values in files

The text of a value holds no carriage return: in strings it is escaped, and lines end in line feeds.
So the text of a proper value is read back from the file that it is written into, and with it the
value.

## Main results

* `Json.return_notMem_prettyAt` — the text of a value holds no carriage return.
* `Json.textOf_encode_pretty` — it is read back from a file.
-/

namespace ClientGen.Json

/-! ## Parts -/

theorem return_notMem_digits (n : Nat) : '\r' ∉ Decimal.digits n :=
  fun h => absurd (Decimal.isDigit_of_mem_digits h) (by decide)

theorem return_notMem_toString (n : Nat) : '\r' ∉ (toString n).toList := by
  rw [Reader.toList_toString]
  exact return_notMem_digits n

theorem return_notMem_digitsText {ds : List Char} (h : '\r' ∉ ds) (point : Int) :
    '\r' ∉ (Decimal.digitsText ds point).toList := by
  have htake (place : Nat) : '\r' ∉ ds.take place := fun hmem => h (List.mem_of_mem_take hmem)
  have hdrop (place : Nat) : '\r' ∉ ds.drop place := fun hmem => h (List.mem_of_mem_drop hmem)
  unfold Decimal.digitsText
  split
  · split
    · simp [h]
    · split
      · simp [h]
      · simp [htake, hdrop]
  · have hsize : '\r' ∉ (if (point - 1).natAbs < 10 then "0" ++ toString (point - 1).natAbs
        else toString (point - 1).natAbs).toList := fun hmem =>
      absurd (Reader.isDigit_padded _ _ hmem) (by decide)
    have hmark : '\r' ∉ (if point - 1 < 0 then "e-" else "e+").toList := by split <;> decide
    dsimp only
    rw [String.toList_append, String.toList_append, List.mem_append, List.mem_append, not_or,
      not_or]
    refine ⟨⟨?_, hmark⟩, hsize⟩
    split
    · simpa using h
    · simpa using h
    · decide

theorem return_notMem_quote (s : String) : '\r' ∉ (Text.quote s).toList := by
  have hall : ∀ n < 0x20, '\r' ∉ Text.Quoted.numbered n := by decide
  have hchar (c : Char) : '\r' ∉ Text.Quoted.encodeChar c := by
    unfold Text.Quoted.encodeChar
    split
    · rename_i letter hshort
      unfold Text.Quoted.shortEscape? at hshort
      split at hshort <;> first | (obtain rfl := Option.some.inj hshort; decide) | simp at hshort
    · rename_i hshort
      split
      · rename_i hcontrol
        exact hall _ hcontrol
      · rename_i hcontrol
        rw [List.mem_singleton]
        rintro rfl
        exact hcontrol (by decide)
  simp [Text.quote, Text.Quoted.encode, hchar]

theorem return_notMem_scalarText (value : Json) : '\r' ∉ (scalarText value).toList := by
  cases value with
  | null => decide
  | bool b => cases b <;> decide
  | int n =>
    cases n with
    | ofNat n => exact return_notMem_toString n
    | negSucc n =>
      change '\r' ∉ ("-" ++ toString (n + 1)).toList
      rw [String.toList_append, List.mem_append, not_or]
      exact ⟨by decide, return_notMem_toString (n + 1)⟩
  | real d =>
    cases d with
    | undefined => decide
    | infinite negative => cases negative <;> decide
    | finite negative coefficient exponent =>
      have hsign : '\r' ∉ (if negative then "-" else "").toList := by split <;> decide
      change '\r' ∉ (_ ++ _ : String).toList
      rw [String.toList_append, List.mem_append, not_or]
      refine ⟨hsign, ?_⟩
      split
      · decide
      · exact return_notMem_digitsText (return_notMem_digits coefficient) _
  | str s => exact return_notMem_quote s
  | arr items =>
    change '\r' ∉ "[]".toList
    decide
  | obj fields =>
    change '\r' ∉ "\x7b\x7d".toList
    decide

/-! ## Values -/

theorem return_notMem_lineStart (level : Nat) : '\r' ∉ (lineStart level).toList := by
  rw [Reader.toList_lineStart]
  simp

theorem return_notMem_joined (level : Nat) {parts : List String}
    (h : ∀ part ∈ parts, '\r' ∉ part.toList) : '\r' ∉ Reader.joined level parts := by
  induction parts with
  | nil => simp [Reader.joined]
  | cons part others ih =>
    obtain ⟨hpart, hothers⟩ := List.forall_mem_cons.1 h
    cases others with
    | nil => rwa [Reader.joined_singleton]
    | cons second others =>
      rw [Reader.joined_cons_cons]
      simp [hpart, return_notMem_lineStart, ih hothers]

theorem return_notMem_bracketed {opening closing : String} (hopening : '\r' ∉ opening.toList)
    (hclosing : '\r' ∉ closing.toList) (level : Nat) {parts : List String}
    (h : ∀ part ∈ parts, '\r' ∉ part.toList) :
    '\r' ∉ (bracketed opening closing level parts).toList := by
  by_cases hnil : parts = []
  · simp [bracketed, hnil, hopening, hclosing]
  · rw [Reader.toList_bracketed hnil]
    simp [hopening, hclosing, return_notMem_lineStart, return_notMem_joined _ h]

mutual

/-- **The text of a value holds no carriage return.** -/
theorem return_notMem_prettyAt (level : Nat) : (value : Json) →
    '\r' ∉ (prettyAt level value).toList
  | arr items =>
    return_notMem_bracketed (by decide) (by decide) level
      (return_notMem_prettyItems (level + 1) items)
  | obj fields =>
    return_notMem_bracketed (by decide) (by decide) level
      (return_notMem_prettyFields (level + 1) fields)
  | null => return_notMem_scalarText null
  | bool b => return_notMem_scalarText (bool b)
  | int n => return_notMem_scalarText (int n)
  | real d => return_notMem_scalarText (real d)
  | str s => return_notMem_scalarText (str s)
termination_by structural value => value

theorem return_notMem_prettyItems (level : Nat) : (items : List Json) →
    ∀ part ∈ prettyItems level items, '\r' ∉ part.toList
  | [] => by simp [prettyItems]
  | item :: rest => List.forall_mem_cons.2
    ⟨return_notMem_prettyAt level item, return_notMem_prettyItems level rest⟩
termination_by structural items => items

theorem return_notMem_prettyFields (level : Nat) : (fields : List (String × Json)) →
    ∀ part ∈ prettyFields level fields, '\r' ∉ part.toList
  | [] => by simp [prettyFields]
  | (key, value) :: rest => by
    refine List.forall_mem_cons.2 ⟨?_, return_notMem_prettyFields level rest⟩
    simp [return_notMem_quote, return_notMem_prettyAt level value]
termination_by structural fields => fields

end

/-- **The text of a value is read back from a file.** -/
theorem textOf_encode_pretty (value : Json) :
    Tree.textOf (Tree.encode value.pretty) = .ok value.pretty :=
  Tree.textOf_encode (return_notMem_prettyAt 0 value)

end ClientGen.Json
