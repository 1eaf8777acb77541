import ClientGen.Proofs.Name.Sanitizer
import ClientGen.Proofs.Shape.EnumValue
import ClientGen.Proofs.Text.Casing

/-!
# Labels as identifiers

A label is the name of a constant, so it should be an identifier.  It is made of the runs of word
characters of a text, and word characters are more than an identifier may hold: every numeral is
one, not only the decimal digits.  Letter case adds marks: the small form of `İ` has one, and so
have the capitals of 26 letters.  These are the only ways for a label to go wrong.

## Main results

* `forall_capitalized_iff` — when a capitalised word may stand in an identifier.
* `EnumValue.label_isGoIdentifier_iff` — when a label is an identifier.
-/

namespace ClientGen

namespace Text

/-- **A capitalised word** consists of name parts exactly if the word does, holds no dotted capital
I, whose small form has a mark, and begins with no letter whose capital has one. -/
theorem forall_capitalized_iff {c : Char} (hc : c ≠ '\u0345') (rest : List Char) :
    (∀ d ∈ Name.capitalized (toLower (c :: rest)), isNamePart d = true) ↔
      (∀ d ∈ c :: rest, isNamePart d = true ∧ d ≠ 'İ') ∧ hasCombinedCapital c = false := by
  obtain ⟨form, hlowers, heq⟩ := exists_lowers [] rest c
  rw [toLower, heq]
  cases hlowers with
  | alike hdotted halike =>
    rename_i d
    have hd : d ≠ '\u0345' := fun hd => hc (halike.iota.1 hd)
    rw [List.singleton_append, Name.capitalized, List.forall_mem_append, forall_upperForm_iff hd,
      halike.part, halike.combined, forall_toLowerAfter_iff, List.forall_mem_cons]
    tauto
  | dotted =>
    constructor
    · intro hall
      exact absurd (hall '\u0307' (by simp [Name.capitalized])) (by decide +kernel)
    · rintro ⟨hall, -⟩
      exact absurd rfl (hall 'İ' List.mem_cons_self).2

end Text

namespace EnumValue

open Text

variable {value : EnumValue}

theorem forall_capitalizedWords_iff (text : String) :
    (∀ c ∈ capitalizedWords text, isNamePart c = true) ↔
      ∀ word ∈ Name.segments isWord text.toList,
        (∀ c ∈ word, isNamePart c = true ∧ c ≠ 'İ') ∧
          ∀ c ∈ word.head?, hasCombinedCapital c = false := by
  rw [capitalizedWords, List.forall_mem_flatMap]
  apply forall₂_congr
  intro word hword
  obtain ⟨hne, hinside⟩ := Name.ne_nil_of_mem_segments hword
  obtain ⟨first, rest, rfl⟩ := List.exists_cons_of_ne_nil hne
  have hiota : first ≠ '\u0345' := by
    rintro rfl
    exact absurd (hinside '\u0345' List.mem_cons_self).2 (by decide +kernel)
  rw [forall_capitalized_iff hiota]
  simp only [List.head?_cons, Option.mem_some_iff, forall_eq']

/-- A label is one line if the name of its type is. -/
theorem newline_not_mem_constantName (value : EnumValue) {typeName : String}
    (h : '\n' ∉ typeName.toList) :
    '\n' ∉ (value.constantName typeName).toList := by
  rw [constantName, String.toList_append, String.toList_ofList, List.mem_append, not_or]
  refine ⟨h, fun hmem => ?_⟩
  obtain ⟨word, hword, hmem⟩ := List.mem_flatMap.1 hmem
  have hinside := (Name.ne_nil_of_mem_segments hword).2
  -- No character of a word ends a line, and lowering brings none about that does.
  have hlower : '\n' ∉ toLower word := by
    rw [toLower, newline_mem_toLowerAfter_iff]
    exact fun hmem => absurd (hinside '\n' hmem).2 (by decide)
  cases hform : toLower word with
  | nil => simp [hform, Name.capitalized] at hmem
  | cons first rest =>
    rw [hform, List.mem_cons, not_or] at hlower
    rw [hform, Name.capitalized, List.mem_append] at hmem
    rcases hmem with hmem | hmem
    · exact newline_not_mem_upperForm (Ne.symm hlower.1) hmem
    · exact hlower.2 hmem

/-- **When a label is an identifier.**  Every value with a readable name has a label.  Behind the
name of a type it is an identifier exactly if the words that it is made of hold only letters,
underscores and decimal digits, none of them a dotted capital I, and begin with no letter whose
capital has a mark. -/
theorem label_isGoIdentifier_iff {typeName : String} (htype : IsGoIdentifier typeName)
    (hname : value.HasTextName) :
    ∃ label, value.label typeName = .ok label ∧
      (IsGoIdentifier label ↔ ∀ word ∈ Name.segments isWord value.sourceText.toList,
        (∀ c ∈ word, isNamePart c = true ∧ c ≠ 'İ') ∧
          ∀ c ∈ word.head?, hasCombinedCapital c = false) := by
  refine ⟨value.constantName typeName, label_eq hname typeName, ?_⟩
  rw [constantName, isGoIdentifier_append_iff htype]
  exact forall_capitalizedWords_iff value.sourceText

/-- The name of a type. -/
theorem isGoIdentifier_kind : IsGoIdentifier "Kind" := by
  refine ⟨'K', ['i', 'n', 'd'], rfl, .inl (by decide), ?_⟩
  exact List.all_eq_true.1 (by decide +kernel)

/-- Two words, the first with letters beyond ASCII and the second a decimal digit. -/
theorem label_isGoIdentifier_iff_words :
    IsGoIdentifier "Kind" ∧ HasTextName { value := "größe-2" } ∧
      ∃ label, ({ value := "größe-2" } : EnumValue).label "Kind" = .ok label ∧
        IsGoIdentifier label := by
  have hname : HasTextName { value := "größe-2" } := by
    intro htruthy
    exact absurd htruthy (by decide)
  obtain ⟨label, hlabel, hiff⟩ := label_isGoIdentifier_iff isGoIdentifier_kind hname
  refine ⟨isGoIdentifier_kind, hname, label, hlabel, hiff.2 fun word hword => ?_⟩
  have hchecked : ((Name.segments isWord "größe-2".toList).all fun word =>
      word.all (fun c => isNamePart c && c != 'İ') && !word.head?.any hasCombinedCapital) = true := by
    decide +kernel
  have hword := List.all_eq_true.1 hchecked word hword
  rw [Bool.and_eq_true, List.all_eq_true] at hword
  refine ⟨fun c hc => by simpa using hword.1 c hc, fun c hc => ?_⟩
  simpa [Option.mem_def.1 hc] using hword.2

/-- A superscript is a numeral and so a word character, but no decimal digit. -/
theorem label_not_isGoIdentifier :
    IsGoIdentifier "Kind" ∧ HasTextName { value := "x²" } ∧
      ({ value := "x²" } : EnumValue).label "Kind" = .ok "KindX²" ∧
      ¬ IsGoIdentifier "KindX²" := by
  refine ⟨isGoIdentifier_kind, ?_, rfl, ?_⟩
  · intro htruthy
    exact absurd htruthy (by decide)
  · rintro ⟨first, rest, hword, -, hrest⟩
    obtain ⟨-, rfl⟩ : 'K' = first ∧ ['i', 'n', 'd', 'X', '²'] = rest := List.cons.inj hword
    exact absurd (hrest '²' (by simp)) (by decide +kernel)

end EnumValue

end ClientGen
