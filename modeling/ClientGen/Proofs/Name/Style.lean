import ClientGen.Proofs.Name.Sanitizer

/-!
# Names in a style

Snake case puts underscores into a name and takes some away; the other characters stay, in their
order and in lower case.  So whatever the style of a name is, it begins with the letter or digit
with which the cleaned name begins, in one letter case or the other.  Cleaning guards a digit at the
front by an underscore, but no style keeps it: a name in a style is a legal identifier exactly if its
first letter or digit is a letter.

## Main definitions

* `letters` — what a name holds besides underscores.
* `IsLegal` — identifiers of ASCII characters that are free to be declared.

## Main results

* `letters_of_snaked` — the letters and digits of a name in snake case.
* `Case.head?_apply` — how a name in a style begins.
* `sanitize_isLegal_iff` — when a sanitized name is legal.
-/

namespace ClientGen.Name

open Text

variable {cs : List Char}

/-! ## Snake case -/

/-- What a name holds besides underscores. -/
def letters (cs : List Char) : List Char :=
  cs.filter (· != '_')

theorem letters_append (first second : List Char) :
    letters (first ++ second) = letters first ++ letters second :=
  List.filter_append first second

theorem letters_cons_underscore (rest : List Char) : letters ('_' :: rest) = letters rest := rfl

theorem letters_cons_congr {first second : List Char} (c : Char)
    (h : letters first = letters second) : letters (c :: first) = letters (c :: second) := by
  rw [← List.singleton_append, letters_append, h, ← letters_append, List.singleton_append]

theorem letters_partLast (run after : List Char) : letters (partLast run after) = letters run := by
  unfold partLast
  split
  · rename_i hparts
    have hne : run ≠ [] := by
      rintro rfl
      simp at hparts
    rw [letters_append, letters_cons_underscore, List.getLast?_eq_getLast_of_ne_nil hne,
      Option.toList_some, ← letters_append, List.dropLast_concat_getLast hne]
  · rfl

theorem letters_splitAcronyms (cs : List Char) : letters (splitAcronyms cs) = letters cs := by
  induction cs using splitAcronyms.induct with
  | case1 => simp [splitAcronyms]
  | case2 c rest hupper more after ih =>
    have hrest : more ++ after = rest :=
      List.prefix_iff_eq_append.1 (List.takeWhile_prefix Char.isUpper)
    rw [splitAcronyms, if_pos hupper, letters_append, letters_partLast]
    show letters (c :: more) ++ letters (splitAcronyms after) = _
    rw [ih, ← letters_append, List.cons_append, hrest]
  | case3 c rest hnot ih =>
    rw [splitAcronyms, if_neg hnot]
    exact letters_cons_congr c ih

theorem letters_splitHumps (cs : List Char) : letters (splitHumps cs) = letters cs := by
  induction cs using splitHumps.induct with
  | case1 => rfl
  | case2 c => rfl
  | case3 c d rest hhump ih =>
    rw [splitHumps, if_pos hhump]
    apply letters_cons_congr
    rw [letters_cons_underscore]
    exact letters_cons_congr d ih
  | case4 c d rest hnot ih =>
    rw [splitHumps, if_neg hnot]
    exact letters_cons_congr c ih

theorem letters_joinUnderscores (cs : List Char) : letters (joinUnderscores cs) = letters cs := by
  induction cs with
  | nil => rfl
  | cons c rest ih =>
    rw [joinUnderscores]
    split
    · rename_i hjoined
      obtain ⟨rfl, -⟩ : c = '_' ∧ _ := by simpa using hjoined
      rw [letters_cons_underscore, ih]
    · exact letters_cons_congr c ih

/-! ### Letter case of ASCII characters -/

theorem toLower_of_ascii (h : ∀ c ∈ cs, c.toNat < 128) : toLower cs = cs.map Char.toLower := by
  have hafter : ∀ before, toLowerAfter before cs = cs.map Char.toLower := by
    induction cs with
    | nil => exact fun _ => rfl
    | cons c rest ih =>
      intro before
      obtain ⟨hc, hrest⟩ := List.forall_mem_cons.1 h
      have hsigma : (c == 'Σ') = false := by
        apply beq_false_of_ne
        rintro rfl
        exact absurd hc (by decide)
      rw [toLowerAfter, ih hrest, hsigma, lowerForm, if_pos hc]
      rfl
  exact hafter []

theorem toUpper_of_ascii (h : ∀ c ∈ cs, c.toNat < 128) : toUpper cs = cs.map Char.toUpper := by
  have hform : ∀ c ∈ cs, upperForm c = [c.toUpper] := fun c hc => by rw [upperForm, if_pos (h c hc)]
  rw [toUpper, List.flatMap_congr hform, List.map_eq_flatMap]

theorem toLower_of_isAlphanum {c : Char} (h : c.isAlphanum = true) :
    c.toLower.isAlphanum = true ∧ c.toLower.isDigit = c.isDigit :=
  forall_ascii (p := fun c => c.isAlphanum = true →
    c.toLower.isAlphanum = true ∧ c.toLower.isDigit = c.isDigit) (by decide) c
    (toNat_lt_of_isAlphanum h) h

theorem isDigit_toUpper {c : Char} (h : c.isAlphanum = true) : c.toUpper.isDigit = c.isDigit :=
  forall_ascii (p := fun c => c.isAlphanum = true → c.toUpper.isDigit = c.isDigit)
    (by decide) c (toNat_lt_of_isAlphanum h) h

/-! ### Names in snake case -/

/-- A letter or digit, or an underscore. -/
def IsPart (c : Char) : Prop :=
  c.isAlphanum = true ∨ c = '_'

theorem isPart_of_mem {first second : List Char} (h : letters first = letters second)
    (hsecond : ∀ c ∈ second, IsPart c) : ∀ c ∈ first, IsPart c := by
  intro c hc
  by_cases hunderscore : c = '_'
  · exact .inr hunderscore
  · have hmem : c ∈ letters first := List.mem_filter.2 ⟨hc, by simpa using hunderscore⟩
    rw [h] at hmem
    exact hsecond c (List.mem_filter.1 hmem).1

theorem toNat_lt_of_isPart {c : Char} (h : IsPart c) : c.toNat < 128 := by
  rcases h with h | rfl
  · exact toNat_lt_of_isAlphanum h
  · decide

theorem letters_map_toLower (h : ∀ c ∈ cs, IsPart c) :
    letters (cs.map Char.toLower) = (letters cs).map Char.toLower := by
  rw [letters, letters, List.filter_map]
  congr 1
  apply List.filter_congr
  intro c hc
  exact forall_ascii (p := fun c => ((· != '_') ∘ Char.toLower) c = (c != '_')) (by decide)
    c (toNat_lt_of_isPart (h c hc))

/-- A plain name with underscores for its hyphens. -/
def joined (cs : List Char) : List Char :=
  cs.map fun c => if c = '-' then '_' else c

theorem isPart_of_mem_joined (h : ∀ c ∈ cs, isPlain c = true) : ∀ c ∈ joined cs, IsPart c := by
  intro c hc
  obtain ⟨d, hd, rfl⟩ := List.mem_map.1 hc
  split
  · exact .inr rfl
  · rename_i hhyphen
    have hd := h d hd
    simp only [isPlain, Bool.or_eq_true, beq_iff_eq, hhyphen, or_false] at hd
    exact hd

theorem letters_joined (h : ∀ c ∈ cs, isPlain c = true) :
    letters (joined cs) = cs.filter Char.isAlphanum := by
  induction cs with
  | nil => rfl
  | cons c rest ih =>
    obtain ⟨hc, hrest⟩ := List.forall_mem_cons.1 h
    have htail := ih hrest
    by_cases hsign : c = '-' ∨ c = '_'
    · rcases hsign with rfl | rfl <;> exact htail
    · obtain ⟨hhyphen, hunderscore⟩ := not_or.1 hsign
      have halphanum : c.isAlphanum = true := by
        simpa [isPlain, beq_false_of_ne hhyphen, beq_false_of_ne hunderscore] using hc
      rw [List.filter_cons_of_pos halphanum, ← htail, joined, List.map_cons, if_neg hhyphen,
        letters, List.filter_cons_of_pos (by simpa using hunderscore)]
      rfl

/-- A name in snake case before the underscores at its ends are dropped. -/
def marked (cs : List Char) : List Char :=
  joinUnderscores (toLower (splitHumps (splitAcronyms (joined cs))))

theorem snaked_eq_trim (cs : List Char) : snaked cs = trim (· == '_') (marked cs) := rfl

/-- **Snake case keeps the letters and digits of a plain name**, in their order and in lower case,
and adds underscores only. -/
theorem marked_spec (h : ∀ c ∈ cs, isPlain c = true) :
    letters (marked cs) = (cs.filter Char.isAlphanum).map Char.toLower ∧
      ∀ c ∈ marked cs, IsPart c := by
  have hsplit : letters (splitHumps (splitAcronyms (joined cs))) = letters (joined cs) := by
    rw [letters_splitHumps, letters_splitAcronyms]
  have hparts := isPart_of_mem hsplit (isPart_of_mem_joined h)
  rw [marked, toLower_of_ascii fun c hc => toNat_lt_of_isPart (hparts c hc)]
  constructor
  · rw [letters_joinUnderscores, letters_map_toLower hparts, hsplit, letters_joined h]
  · apply isPart_of_mem (letters_joinUnderscores _)
    intro c hc
    obtain ⟨d, hd, rfl⟩ := List.mem_map.1 hc
    rcases hparts d hd with hd | rfl
    · exact .inl (toLower_of_isAlphanum hd).1
    · exact .inr rfl

theorem isPart_of_mem_snaked (h : ∀ c ∈ cs, isPlain c = true) : ∀ c ∈ snaked cs, IsPart c :=
  fun c hc => (marked_spec h).2 c (mem_of_mem_trim hc)

/-- **Snake case begins with the first letter or digit** in lower case. -/
theorem head?_snaked (h : ∀ c ∈ cs, isPlain c = true) :
    (snaked cs).head? = (cs.find? Char.isAlphanum).map Char.toLower := by
  have hfirst : (marked cs).find? (fun c => !(c == '_')) = (letters (marked cs)).head? := by
    rw [letters, List.head?_filter]
    rfl
  rw [snaked_eq_trim, head?_trim, hfirst, (marked_spec h).1, List.head?_map, List.head?_filter]

/-! ## Names in a style -/

section

variable (h : ∀ c ∈ cs, isPlain c = true) {first : Char}
  (hfirst : cs.find? Char.isAlphanum = some first)
include h hfirst

/-- Camel case of a plain name starts with its first letter or digit, in lower case again. -/
theorem cameled_spec : (cameled cs).head? = some first.toUpper.toLower ∧
    ∀ c ∈ cameled cs, c.isAlphanum = true := by
  have hpascaled := head?_pascaled h
  rw [hfirst, Option.map_some] at hpascaled
  have hletters := isAlphanum_of_mem_pascaled h
  cases hname : pascaled cs with
  | nil => simp [hname] at hpascaled
  | cons d rest =>
    rw [hname] at hletters hpascaled
    obtain ⟨hd, hrest⟩ := List.forall_mem_cons.1 hletters
    obtain rfl := Option.some.inj hpascaled
    have hcameled : cameled cs = first.toUpper.toLower :: rest := by
      rw [cameled, hname]
      dsimp only
      rw [lowerForm, if_pos (toNat_lt_of_isAlphanum hd)]
      rfl
    rw [hcameled]
    exact ⟨rfl, List.forall_mem_cons.2 ⟨(toLower_of_isAlphanum hd).1, hrest⟩⟩

/-- A plain name in capitals starts with its first letter or digit, in upper case again. -/
theorem toUpper_snaked_spec : (toUpper (snaked cs)).head? = some first.toLower.toUpper ∧
    ∀ c ∈ toUpper (snaked cs), IsPart c := by
  have hsnaked := head?_snaked h
  rw [hfirst, Option.map_some] at hsnaked
  have hparts := isPart_of_mem_snaked h
  rw [toUpper_of_ascii fun c hc => toNat_lt_of_isPart (hparts c hc), List.head?_map, hsnaked]
  refine ⟨rfl, fun c hc => ?_⟩
  obtain ⟨d, hd, rfl⟩ := List.mem_map.1 hc
  rcases hparts d hd with hd | rfl
  · exact .inl (toUpper_of_isAlphanum hd).1
  · exact .inr rfl

/-- **How a name in a style begins**, and what it is made of. -/
theorem Case.apply_spec (style : Case) :
    (∃ c, (style.apply cs).head? = some c ∧ c.isDigit = first.isDigit) ∧
      ∀ c ∈ style.apply cs, IsPart c := by
  have halphanum := List.find?_some hfirst
  have hlower := toLower_of_isAlphanum halphanum
  cases style with
  | snake =>
    have hsnaked := head?_snaked h
    rw [hfirst, Option.map_some] at hsnaked
    exact ⟨⟨_, hsnaked, hlower.2⟩, isPart_of_mem_snaked h⟩
  | pascal =>
    have hpascaled := head?_pascaled h
    rw [hfirst, Option.map_some] at hpascaled
    exact ⟨⟨_, hpascaled, isDigit_toUpper halphanum⟩,
      fun c hc => .inl (isAlphanum_of_mem_pascaled h c hc)⟩
  | camel =>
    obtain ⟨hhead, hletters⟩ := cameled_spec h hfirst
    have hupper := toUpper_of_isAlphanum halphanum
    exact ⟨⟨_, hhead, (toLower_of_isAlphanum hupper.1).2.trans (isDigit_toUpper halphanum)⟩,
      fun c hc => .inl (hletters c hc)⟩
  | capitals =>
    obtain ⟨hhead, hparts⟩ := toUpper_snaked_spec h hfirst
    exact ⟨⟨_, hhead, (isDigit_toUpper hlower.1).trans hlower.2⟩, hparts⟩

end

/-! ## Legal identifiers -/

/-- An identifier of ASCII letters, digits and underscores that is free to be declared. -/
structure IsLegal (word : String) : Prop where
  ne_empty : word ≠ ""
  isPart : ∀ c ∈ word.toList, c.isAlphanum = true ∨ c = '_'
  head : word.toList.head?.any Char.isDigit = false
  not_keyword : word ∉ keywords
  not_predeclared : word ∉ predeclared

/-- The suffix frees every word that Go keeps for itself. -/
theorem escape_spec (word : String) :
    sanitizer.escape word ∉ keywords ∧ sanitizer.escape word ∉ predeclared ∧
      (sanitizer.escape word = word ∨ sanitizer.escape word = word ++ "_") := by
  have hfree : ∀ taken ∈ keywords ++ predeclared,
      taken ++ "_" ∉ keywords ∧ taken ++ "_" ∉ predeclared := by
    decide
  unfold Sanitizer.escape
  split
  · rename_i htaken
    have hmem : word ∈ keywords ∨ word ∈ predeclared := by
      simp only [Bool.or_eq_true, List.contains_iff_mem] at htaken
      exact htaken
    obtain ⟨hkeyword, hpredeclared⟩ := hfree word (List.mem_append.2 hmem)
    exact ⟨hkeyword, hpredeclared, .inr rfl⟩
  · rename_i hfree
    simp only [Bool.or_eq_true, List.contains_iff_mem, not_or] at hfree
    exact ⟨hfree.1, hfree.2, .inl rfl⟩

/-- **When a sanitized name is a legal identifier.**  In every style it is a word of ASCII letters,
digits and underscores that Go does not keep for itself; it starts with a digit, and so is not
legal, exactly if the first ASCII letter or digit of the name is a digit. -/
theorem sanitize_isLegal_iff (name : String) (style : Case) :
    let word := sanitizer.sanitize name (some style)
    (word ≠ "" ∧ (∀ c ∈ word.toList, c.isAlphanum = true ∨ c = '_') ∧
      word ∉ keywords ∧ word ∉ predeclared) ∧
      (IsLegal word ↔ (name.toList.find? Char.isAlphanum).any Char.isDigit = false) := by
  obtain ⟨⟨c, hhead, hdigit⟩, hparts⟩ :=
    style.apply_spec isPlain_of_mem_clean (find?_clean name.toList)
  obtain ⟨hkeyword, hpredeclared, hword⟩ :=
    escape_spec (String.ofList (style.apply (clean name.toList)))
  intro word
  have hstyled : word
      = sanitizer.escape (String.ofList (style.apply (clean name.toList))) := rfl
  rw [← hstyled] at hkeyword hpredeclared hword
  have hspec : word.toList.head? = some c ∧ ∀ d ∈ word.toList, IsPart d := by
    rcases hword with hword | hword <;> rw [hword]
    · rw [String.toList_ofList]
      exact ⟨hhead, hparts⟩
    · rw [String.toList_append, String.toList_ofList, List.head?_append, hhead]
      refine ⟨rfl, fun d hd => ?_⟩
      rcases List.mem_append.1 hd with hd | hd
      · exact hparts d hd
      · exact .inr (List.mem_singleton.1 hd)
  obtain ⟨hfirst, hword⟩ := hspec
  have hne : word ≠ "" := by
    rintro hempty
    simp [hempty] at hfirst
  have hinitial : (name.toList.find? Char.isAlphanum).any Char.isDigit = c.isDigit := by
    rw [hdigit, initial]
    cases name.toList.find? Char.isAlphanum <;> rfl
  refine ⟨⟨hne, hword, hkeyword, hpredeclared⟩, ?_⟩
  rw [hinitial]
  constructor
  · intro hlegal
    simpa [hfirst] using hlegal.head
  · intro hnot
    exact ⟨hne, hword, by rw [hfirst]; exact hnot, hkeyword, hpredeclared⟩

/-- A name that begins with a digit: the guard is put in front of it and lost again. -/
theorem sanitize_not_isLegal :
    String.ofList (clean "2fast".toList) = "_2fast" ∧
      sanitizer.sanitize "2fast" (some .pascal) = "2fast" ∧
      ¬ IsLegal (sanitizer.sanitize "2fast" (some .pascal)) := by
  have hword : sanitizer.sanitize "2fast" (some .pascal) = "2fast" := by decide +kernel
  refine ⟨by decide +kernel, hword, fun hlegal => ?_⟩
  have hhead := hlegal.head
  rw [hword] at hhead
  exact absurd hhead (by decide +kernel)

end ClientGen.Name
