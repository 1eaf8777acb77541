import ClientGen.Proofs.Name.Style
import ClientGen.Proofs.Text.Lowering

/-!
# What sanitizing keeps

Cleaning, styles and the suffix put underscores into a name and take them away, and they change
letter case.  Besides, a name loses only what is neither an ASCII letter nor an ASCII digit: its
letters and digits stand in the sanitized name in their order.

A sanitized name in Pascal, camel or snake case has a form that its style leaves as it is, and
cleaning only drops the suffix and guards a digit at the front, which the style undoes.  So to
sanitize it again changes nothing.  Capitals have no such form: they hide where a small letter or
digit was followed by a capital.

## Main definitions

* `HasNoDouble` — no two underscores stand next to each other.
* `IsSettled` — small letters, digits and single underscores only.

## Main results

* `Case.letters_apply` — a style keeps letters and digits but for letter case.
* `marked_of_isSmall` — what is in snake case stays as it is.
* `Case.apply_clean` — a style finds nothing to do in a name that has it already.
* `sanitize_lossless_stable` — what a sanitized name keeps, and that it is stable.
-/

namespace ClientGen.Name

open Text

variable {cs : List Char}

/-! ## Letters and digits -/

theorem letters_trim (cs : List Char) : letters (trim (· == '_') cs) = letters cs :=
  filter_trim (fun c hc => by simpa using hc) cs

theorem filter_map_plain (cs : List Char) :
    (cs.map fun c => if isPlain c then c else '_').filter Char.isAlphanum
      = cs.filter Char.isAlphanum := by
  induction cs with
  | nil => rfl
  | cons c rest ih =>
    rw [List.map_cons, List.filter_cons, List.filter_cons, ih]
    by_cases hc : c.isAlphanum = true
    · simp [isPlain, hc]
    · by_cases hplain : isPlain c = true
      · simp [hplain]
      · simp [hplain, hc]

/-- **A cleaned name keeps its letters and digits.** -/
theorem filter_clean (cs : List Char) : (clean cs).filter Char.isAlphanum
    = if (cs.filter Char.isAlphanum).isEmpty then "field".toList
      else cs.filter Char.isAlphanum := by
  have hkept := filter_trim (p := fun c => c == '_' || c == '-') (q := Char.isAlphanum)
    (fun c hc => by
      rcases (by simpa using hc : c = '_' ∨ c = '-') with rfl | rfl <;> rfl)
    (cs.map fun c => if isPlain c then c else '_')
  rw [filter_map_plain] at hkept
  have hhead := head?_trim (fun c => c == '_' || c == '-')
    (cs.map fun c => if isPlain c then c else '_')
  rw [find?_map_plain] at hhead
  unfold clean
  dsimp only
  split
  · rename_i hnone
    rw [hnone] at hkept
    rw [← hkept]
    rfl
  · rename_i c rest hsome
    rw [hsome] at hkept hhead
    have hc : c.isAlphanum = true := List.find?_some hhead.symm
    have hne : (cs.filter Char.isAlphanum).isEmpty = false := by
      rw [← hkept, List.filter_cons_of_pos hc]
      rfl
    rw [hne, if_neg Bool.false_ne_true, ← hkept, hsome]
    split
    · rw [List.filter_cons_of_neg (by decide)]
    · rfl

theorem letters_of_isPart (h : ∀ c ∈ cs, IsPart c) : letters cs = cs.filter Char.isAlphanum := by
  refine List.filter_congr fun c hc => ?_
  rcases h c hc with halphanum | rfl
  · have hne : c ≠ '_' := by
      rintro rfl
      exact absurd halphanum (by decide)
    simp [halphanum, hne]
  · rfl

/-! ## Letter case -/

theorem toLower_toUpper {c : Char} (h : IsPart c) : c.toUpper.toLower = c.toLower :=
  forall_ascii (p := fun c => c.toUpper.toLower = c.toLower) (by decide) c (toNat_lt_of_isPart h)

theorem toLower_toLower {c : Char} (h : IsPart c) : c.toLower.toLower = c.toLower :=
  forall_ascii (p := fun c => c.toLower.toLower = c.toLower) (by decide) c (toNat_lt_of_isPart h)

theorem toUpper_of_not_isLower {c : Char} (h : c.isAlphanum = true) (hlower : c.isLower = false) :
    c.toUpper = c :=
  forall_ascii (p := fun c => c.isLower = false → c.toUpper = c) (by decide) c
    (toNat_lt_of_isAlphanum h) hlower

theorem toLower_of_not_isUpper {c : Char} (h : IsPart c) (hupper : c.isUpper = false) :
    c.toLower = c :=
  forall_ascii (p := fun c => c.isUpper = false → c.toLower = c) (by decide) c
    (toNat_lt_of_isPart h) hupper

theorem isUpper_toLower {c : Char} (h : IsPart c) : c.toLower.isUpper = false :=
  forall_ascii (p := fun c => c.toLower.isUpper = false) (by decide) c (toNat_lt_of_isPart h)

/-! ## Words -/

/-- Nothing inside is lost between runs. -/
theorem flatten_segments (inside : Char → Bool) (cs : List Char) :
    (segments inside cs).flatten = cs.filter inside := by
  induction cs with
  | nil => rfl
  | cons c rest ih =>
    rw [segments]
    split
    · rename_i hc
      rw [List.filter_cons_of_pos hc, ← ih]
      split
      · rename_i hnone
        rw [hnone]
        rfl
      · rename_i run others hsome
        rw [hsome]
        split <;> rfl
    · rename_i hc
      rw [List.filter_cons_of_neg hc, ih]

/-- A text of one kind is one run. -/
theorem segments_of_forall {inside : Char → Bool} {c : Char} {rest : List Char}
    (h : ∀ d ∈ c :: rest, inside d = true) : segments inside (c :: rest) = [c :: rest] := by
  induction rest generalizing c with
  | nil => simp [segments, h c]
  | cons d rest ih =>
    obtain ⟨hc, hrest⟩ := List.forall_mem_cons.1 h
    have hd := (List.forall_mem_cons.1 hrest).1
    rw [segments, if_pos hc, ih hrest]
    simp [hd]

/-! ## What styles keep -/

theorem map_toLower_capitalized (h : ∀ c ∈ cs, c.isAlphanum = true) :
    (capitalized cs).map Char.toLower = cs.map Char.toLower := by
  cases cs with
  | nil => rfl
  | cons c rest =>
    have hc := h c List.mem_cons_self
    rw [capitalized, upperForm_of_isAlphanum hc, List.singleton_append, List.map_cons,
      toLower_toUpper (.inl hc), List.map_cons]

/-- Pascal case keeps letters and digits. -/
theorem map_toLower_pascaled (h : ∀ c ∈ cs, isPlain c = true) :
    (pascaled cs).map Char.toLower = (cs.filter Char.isAlphanum).map Char.toLower := by
  unfold pascaled
  split
  · rename_i hpascal
    have halphanum : cs.filter Char.isAlphanum = cs := by
      refine List.filter_eq_self.2 fun c hc => ?_
      have hall := isAlphanum_of_mem_pascaled h
      rw [pascaled, if_pos hpascal] at hall
      exact hall c hc
    rw [halphanum]
  · have hruns : ∀ run ∈ segments (fun c => !isSeparator c) cs,
        (capitalized run).map Char.toLower = run.map Char.toLower := by
      intro run hrun
      refine map_toLower_capitalized fun c hc => ?_
      obtain ⟨hmem, hinside⟩ := (ne_nil_of_mem_segments hrun).2 c hc
      exact isAlphanum_of_not_isSeparator (h c hmem) (by simpa using hinside)
    have hkept : cs.filter (fun c => !isSeparator c) = cs.filter Char.isAlphanum :=
      List.filter_congr fun c hc => (isAlphanum_eq_of_isPlain (h c hc)).symm
    rw [List.map_flatMap, List.flatMap_congr hruns, ← hkept, ← flatten_segments, List.map_flatten,
      List.flatMap_def]

theorem cameled_of_pascaled {c : Char} {rest : List Char} (h : pascaled cs = c :: rest)
    (hc : c.isAlphanum = true) : cameled cs = c.toLower :: rest := by
  rw [cameled, h]
  dsimp only
  rw [lowerForm, if_pos (toNat_lt_of_isAlphanum hc)]
  rfl

theorem map_toLower_cameled (h : ∀ c ∈ cs, isPlain c = true) :
    (cameled cs).map Char.toLower = (cs.filter Char.isAlphanum).map Char.toLower := by
  rw [← map_toLower_pascaled h]
  have halphanum := isAlphanum_of_mem_pascaled h
  cases hname : pascaled cs with
  | nil => rw [cameled, hname]
  | cons c rest =>
    have hc : c.isAlphanum = true := halphanum c (hname ▸ List.mem_cons_self)
    rw [cameled_of_pascaled hname hc, List.map_cons, toLower_toLower (.inl hc), List.map_cons]

theorem map_toLower_snaked (h : ∀ c ∈ cs, isPlain c = true) :
    letters ((snaked cs).map Char.toLower) = (cs.filter Char.isAlphanum).map Char.toLower := by
  rw [letters_map_toLower (isPart_of_mem_snaked h), snaked_eq_trim, letters_trim,
    (marked_spec h).1, List.map_map]
  exact List.map_congr_left fun c hc => toLower_toLower (.inl (List.mem_filter.1 hc).2)

/-- **A style keeps letters and digits** but for letter case. -/
theorem Case.letters_apply (style : Case) (h : ∀ c ∈ cs, isPlain c = true) :
    letters ((style.apply cs).map Char.toLower)
      = (cs.filter Char.isAlphanum).map Char.toLower := by
  have hkept : letters ((cs.filter Char.isAlphanum).map Char.toLower)
      = (cs.filter Char.isAlphanum).map Char.toLower := by
    rw [letters_map_toLower fun c hc => .inl (List.mem_filter.1 hc).2,
      letters_of_isPart fun c hc => .inl (List.mem_filter.1 hc).2, List.filter_filter]
    simp
  cases style with
  | snake => exact map_toLower_snaked h
  | pascal =>
    show letters ((pascaled cs).map Char.toLower) = _
    rw [map_toLower_pascaled h, hkept]
  | camel =>
    show letters ((cameled cs).map Char.toLower) = _
    rw [map_toLower_cameled h, hkept]
  | capitals =>
    have hparts := isPart_of_mem_snaked h
    show letters ((toUpper (snaked cs)).map Char.toLower) = _
    rw [toUpper_of_ascii fun c hc => toNat_lt_of_isPart (hparts c hc), List.map_map,
      ← map_toLower_snaked h]
    exact congrArg letters (List.map_congr_left fun c hc => toLower_toUpper (hparts c hc))

/-! ## Cleaning again -/

/-- In a plain name there is nothing to replace. -/
theorem map_plain_of_forall (h : ∀ c ∈ cs, isPlain c = true) :
    (cs.map fun c => if isPlain c then c else '_') = cs := by
  conv_rhs => rw [← List.map_id cs]
  exact List.map_congr_left fun c hc => if_pos (h c hc)

theorem clean_append_underscore (h : ∀ c ∈ cs, isPlain c = true) :
    clean (cs ++ ['_']) = clean cs := by
  have hplain : ∀ c ∈ cs ++ ['_'], isPlain c = true :=
    List.forall_mem_append.2 ⟨h, List.forall_mem_singleton.2 (by decide)⟩
  rw [clean, clean, map_plain_of_forall hplain, map_plain_of_forall h,
    trim_append_singleton (by decide)]

/-- **Cleaning a plain name** that has no separators at its ends guards a digit at the front, and
does nothing else. -/
theorem clean_eq_or (h : ∀ c ∈ cs, isPlain c = true) (hne : cs ≠ [])
    (htrim : trim (fun c => c == '_' || c == '-') cs = cs) :
    clean cs = cs ∨ clean cs = '_' :: cs ∧ cs.head?.any Char.isDigit = true := by
  unfold clean
  rw [map_plain_of_forall h, htrim]
  dsimp only
  split
  · exact absurd rfl hne
  · rename_i c rest
    split
    · rename_i hdigit
      exact .inr ⟨rfl, hdigit⟩
    · exact .inl rfl

/-! ## Pascal and camel case again -/

/-- A word of letters and digits is only capitalised. -/
theorem pascaled_cons {c : Char} {rest : List Char} (h : ∀ d ∈ c :: rest, d.isAlphanum = true) :
    pascaled (c :: rest) = c.toUpper :: rest := by
  have hc := h c List.mem_cons_self
  unfold pascaled
  split
  · rename_i hpascal
    simp only [isPascal, Bool.and_eq_true] at hpascal
    rw [toUpper_of_isUpper hpascal.1]
  · rw [segments_of_forall fun d hd => by simp [isSeparator_of_isAlphanum (h d hd)],
      List.flatMap_singleton, capitalized, upperForm_of_isAlphanum hc, List.singleton_append]

/-- The guard in front of a digit is a separator. -/
theorem pascaled_underscore_cons {c : Char} {rest : List Char}
    (h : ∀ d ∈ c :: rest, d.isAlphanum = true) :
    pascaled ('_' :: c :: rest) = c.toUpper :: rest := by
  have hc := h c List.mem_cons_self
  rw [pascaled, if_neg (by simp [isPascal]), segments, if_neg (by decide),
    segments_of_forall fun d hd => by simp [isSeparator_of_isAlphanum (h d hd)],
    List.flatMap_singleton, capitalized, upperForm_of_isAlphanum hc, List.singleton_append]

/-- A word of letters and digits has nothing to trim. -/
theorem trim_of_isAlphanum (h : ∀ c ∈ cs, c.isAlphanum = true) :
    trim (fun c => c == '_' || c == '-') cs = cs := by
  refine trim_of_forall fun c hc => ?_
  have hsep := isSeparator_of_isAlphanum (h c hc)
  simp only [isSeparator, Bool.or_eq_false_iff] at hsep
  simpa using hsep.1

theorem isPlain_of_isPart {c : Char} (h : IsPart c) : isPlain c = true := by
  rcases h with h | rfl
  · simp [isPlain, h]
  · decide

/-- **A word of letters and digits** is only capitalised when it is cleaned and put in Pascal
case. -/
theorem pascaled_clean_cons {c : Char} {rest : List Char}
    (h : ∀ d ∈ c :: rest, d.isAlphanum = true) :
    pascaled (clean (c :: rest)) = c.toUpper :: rest := by
  have hplain : ∀ d ∈ c :: rest, isPlain d = true := fun d hd => isPlain_of_isPart (.inl (h d hd))
  rcases clean_eq_or hplain (List.cons_ne_nil c rest) (trim_of_isAlphanum h) with heq | ⟨heq, -⟩
  · rw [heq, pascaled_cons h]
  · rw [heq, pascaled_underscore_cons h]

theorem pascaled_clean_pascaled (h : ∀ c ∈ cs, isPlain c = true) {first : Char}
    (hfirst : cs.find? Char.isAlphanum = some first) :
    pascaled (clean (pascaled cs)) = pascaled cs := by
  have hhead := head?_pascaled h
  have halphanum := isAlphanum_of_mem_pascaled h
  rw [hfirst, Option.map_some] at hhead
  obtain ⟨rest, hword⟩ := List.head?_eq_some_iff.1 hhead
  rw [hword] at halphanum ⊢
  have hcapital := toUpper_of_isAlphanum (List.find?_some hfirst)
  rw [pascaled_clean_cons halphanum, toUpper_of_not_isLower hcapital.1 hcapital.2]

theorem cameled_clean_cameled (h : ∀ c ∈ cs, isPlain c = true) {first : Char}
    (hfirst : cs.find? Char.isAlphanum = some first) :
    cameled (clean (cameled cs)) = cameled cs := by
  have hhead := head?_pascaled h
  have halphanum := isAlphanum_of_mem_pascaled h
  rw [hfirst, Option.map_some] at hhead
  obtain ⟨rest, hword⟩ := List.head?_eq_some_iff.1 hhead
  rw [hword] at halphanum
  obtain ⟨hcapital, hrest⟩ := List.forall_mem_cons.1 halphanum
  rw [cameled_of_pascaled hword hcapital]
  have hlower := (toLower_of_isAlphanum hcapital).1
  have hagain := pascaled_clean_cons (List.forall_mem_cons.2 ⟨hlower, hrest⟩)
  rw [cameled_of_pascaled hagain (toUpper_of_isAlphanum hlower).1, toLower_toUpper (.inl hlower),
    toLower_toLower (.inl hcapital)]

/-! ## Snake case again -/

/-- No two underscores stand next to each other. -/
def HasNoDouble (cs : List Char) : Prop :=
  ¬ ['_', '_'] <:+: cs

theorem hasNoDouble_cons_iff {c : Char} {rest : List Char} : HasNoDouble (c :: rest) ↔
    ¬ (c = '_' ∧ rest.head? = some '_') ∧ HasNoDouble rest := by
  have hprefix : ['_', '_'] <+: c :: rest ↔ c = '_' ∧ rest.head? = some '_' := by
    rw [List.cons_prefix_cons, eq_comm]
    cases rest with
    | nil => simp
    | cons d others => simp [List.cons_prefix_cons, eq_comm]
  rw [HasNoDouble, List.infix_cons_iff, not_or, hprefix]
  rfl

theorem head?_joinUnderscores (cs : List Char) : (joinUnderscores cs).head? = cs.head? := by
  induction cs with
  | nil => rfl
  | cons c rest ih =>
    rw [joinUnderscores]
    split
    · rename_i hjoined
      obtain ⟨rfl, hnext⟩ : c = '_' ∧ rest.head? = some '_' := by simpa using hjoined
      rw [ih, hnext]
      rfl
    · rfl

/-- **Joined underscores are single.** -/
theorem hasNoDouble_joinUnderscores (cs : List Char) : HasNoDouble (joinUnderscores cs) := by
  induction cs with
  | nil => exact fun h => by simp [joinUnderscores] at h
  | cons c rest ih =>
    rw [joinUnderscores]
    split
    · exact ih
    · rename_i hapart
      refine hasNoDouble_cons_iff.2 ⟨fun hdouble => hapart ?_, ih⟩
      rw [head?_joinUnderscores] at hdouble
      simpa using hdouble

theorem joinUnderscores_of_hasNoDouble (h : HasNoDouble cs) : joinUnderscores cs = cs := by
  induction cs with
  | nil => rfl
  | cons c rest ih =>
    obtain ⟨hapart, hrest⟩ := hasNoDouble_cons_iff.1 h
    rw [joinUnderscores, if_neg (by simpa using hapart), ih hrest]

/-- Small letters, digits and single underscores. -/
structure IsSettled (cs : List Char) : Prop where
  isPart : ∀ c ∈ cs, IsPart c
  isUpper : ∀ c ∈ cs, c.isUpper = false
  hasNoDouble : HasNoDouble cs

theorem splitAcronyms_of_isUpper (h : ∀ c ∈ cs, c.isUpper = false) : splitAcronyms cs = cs := by
  induction cs with
  | nil => simp [splitAcronyms]
  | cons c rest ih =>
    obtain ⟨hc, hrest⟩ := List.forall_mem_cons.1 h
    rw [splitAcronyms, if_neg (by simp [hc]), ih hrest]

theorem splitHumps_of_isUpper (h : ∀ c ∈ cs, c.isUpper = false) : splitHumps cs = cs := by
  induction cs using splitHumps.induct with
  | case1 => rfl
  | case2 c => rfl
  | case3 c d rest hhump ih =>
    have hd := h d (by simp)
    simp [hd] at hhump
  | case4 c d rest hnot ih =>
    rw [splitHumps, if_neg hnot, ih (List.forall_mem_cons.1 h).2]

/-- No capital is in lower case. -/
theorem isUpper_of_isSmall {c : Char} (h : IsSmall c) : c.isUpper = false := by
  rw [Bool.eq_false_iff]
  intro hupper
  have hascii := toNat_lt_of_isAlphanum (isAlphanum_of_isUpper hupper)
  rw [IsSmall, lowerForm, if_pos hascii, List.cons.injEq] at h
  exact forall_ascii (p := fun c => c.isUpper = true → c.toLower ≠ c) (by decide) c hascii hupper h.1

/-- **What is in snake case stays as it is**: small characters, no hyphens, single underscores. -/
theorem marked_of_isSmall (hsmall : ∀ c ∈ cs, IsSmall c) (hhyphen : '-' ∉ cs)
    (hdouble : HasNoDouble cs) : marked cs = cs := by
  have hjoined : joined cs = cs := by
    conv_rhs => rw [← List.map_id cs]
    refine List.map_congr_left fun c hc => if_neg ?_
    rintro rfl
    exact hhyphen hc
  have hupper : ∀ c ∈ cs, c.isUpper = false := fun c hc => isUpper_of_isSmall (hsmall c hc)
  rw [marked, hjoined, splitAcronyms_of_isUpper hupper, splitHumps_of_isUpper hupper,
    toLower_of_isSmall hsmall, joinUnderscores_of_hasNoDouble hdouble]

theorem isSmall_of_isPart {c : Char} (h : IsPart c) (hupper : c.isUpper = false) : IsSmall c := by
  rw [IsSmall, lowerForm, if_pos (toNat_lt_of_isPart h), toLower_of_not_isUpper h hupper]

theorem marked_of_isSettled (h : IsSettled cs) : marked cs = cs := by
  refine marked_of_isSmall (fun c hc => isSmall_of_isPart (h.isPart c hc) (h.isUpper c hc))
    (fun hhyphen => ?_) h.hasNoDouble
  exact absurd (h.isPart '-' hhyphen) (by simp [IsPart])

theorem IsSettled.trim (h : IsSettled cs) (p : Char → Bool) : IsSettled (Text.trim p cs) where
  isPart := fun c hc => h.isPart c (mem_of_mem_trim hc)
  isUpper := fun c hc => h.isUpper c (mem_of_mem_trim hc)
  hasNoDouble := fun hdouble => h.hasNoDouble (hdouble.trans (isInfix_trim p cs))

/-- **A plain name is settled in snake case.** -/
theorem isSettled_snaked (h : ∀ c ∈ cs, isPlain c = true) : IsSettled (snaked cs) := by
  obtain ⟨hletters, hparts⟩ := marked_spec h
  refine IsSettled.trim ⟨hparts, fun c hc => ?_, hasNoDouble_joinUnderscores _⟩ _
  rcases hparts c hc with halphanum | rfl
  · have hmem : c ∈ letters (marked cs) := by
      rw [letters_of_isPart hparts]
      exact List.mem_filter.2 ⟨hc, halphanum⟩
    rw [hletters] at hmem
    obtain ⟨d, hd, rfl⟩ := List.mem_map.1 hmem
    exact isUpper_toLower (.inl (List.mem_filter.1 hd).2)
  · decide

theorem snaked_clean_snaked (h : ∀ c ∈ cs, isPlain c = true) {first : Char}
    (hfirst : cs.find? Char.isAlphanum = some first) :
    snaked (clean (snaked cs)) = snaked cs := by
  have hsettled := isSettled_snaked h
  have hhead := head?_snaked h
  rw [hfirst, Option.map_some] at hhead
  have htrim : Text.trim (· == '_') (snaked cs) = snaked cs := by
    rw [snaked_eq_trim, trim_trim]
  have hclean : Text.trim (fun c => c == '_' || c == '-') (snaked cs) = snaked cs := by
    refine (trim_congr fun c hc => ?_).trans htrim
    have hhyphen : c ≠ '-' := by
      rintro rfl
      exact absurd (hsettled.isPart '-' hc) (by simp [IsPart])
    simp [hhyphen]
  have hne : snaked cs ≠ [] := by
    intro hempty
    simp [hempty] at hhead
  rcases clean_eq_or (fun c hc => isPlain_of_isPart (hsettled.isPart c hc)) hne hclean with
    heq | ⟨heq, -⟩
  · rw [heq, snaked_eq_trim, marked_of_isSettled hsettled, htrim]
  · have hguarded : IsSettled ('_' :: snaked cs) := by
      refine ⟨List.forall_mem_cons.2 ⟨.inr rfl, hsettled.isPart⟩,
        List.forall_mem_cons.2 ⟨by decide, hsettled.isUpper⟩,
        hasNoDouble_cons_iff.2 ⟨fun hdouble => ?_, hsettled.hasNoDouble⟩⟩
      rw [hhead, Option.some.injEq] at hdouble
      have halphanum := (toLower_of_isAlphanum (List.find?_some hfirst)).1
      rw [hdouble.2] at halphanum
      exact absurd halphanum (by decide)
    rw [heq, snaked_eq_trim, marked_of_isSettled hguarded, Text.trim,
      List.dropWhile_cons_of_pos (by decide)]
    exact htrim

/-! ## Sanitizing again -/

/-- **A style finds nothing to do** in a cleaned name that has it already. -/
theorem Case.apply_clean_apply {style : Case} (hstyle : style ≠ .capitals)
    (h : ∀ c ∈ cs, isPlain c = true) {first : Char}
    (hfirst : cs.find? Char.isAlphanum = some first) :
    style.apply (clean (style.apply cs)) = style.apply cs := by
  cases style with
  | snake => exact snaked_clean_snaked h hfirst
  | camel => exact cameled_clean_cameled h hfirst
  | pascal => exact pascaled_clean_pascaled h hfirst
  | capitals => contradiction

/-- A sanitized name is the cleaned one in its style, up to the suffix. -/
theorem toList_sanitize_cases (name : String) (style : Case) :
    (sanitizer.sanitize name (some style)).toList = style.apply (clean name.toList) ∨
      (sanitizer.sanitize name (some style)).toList
        = style.apply (clean name.toList) ++ ['_'] := by
  have hstyled : sanitizer.sanitize name (some style)
      = sanitizer.escape (String.ofList (style.apply (clean name.toList))) := rfl
  obtain ⟨-, -, hword | hword⟩ := escape_spec (String.ofList (style.apply (clean name.toList)))
  · exact .inl (by rw [hstyled, hword, String.toList_ofList])
  · exact .inr (by rw [hstyled, hword, String.toList_append, String.toList_ofList]; rfl)

/-- **What a sanitized name keeps.**  Without its underscores and in lower case it is the letters
and digits of the name, or `field` if there are none.  In Pascal, camel and snake case it is stable:
sanitized again, it stays as it is. -/
theorem sanitize_lossless_stable (name : String) (style : Case) :
    let word := sanitizer.sanitize name (some style)
    toLower (letters word.toList)
      = (if (name.toList.filter Char.isAlphanum).isEmpty then "field".toList
          else toLower (name.toList.filter Char.isAlphanum)) ∧
    (style ≠ .capitals → sanitizer.sanitize word (some style) = word) := by
  intro word
  have hplain : ∀ c ∈ clean name.toList, isPlain c = true := isPlain_of_mem_clean
  have hfirst := find?_clean name.toList
  have hparts := (style.apply_spec hplain hfirst).2
  have hword := toList_sanitize_cases name style
  constructor
  · have hsuffix : letters word.toList = letters (style.apply (clean name.toList)) := by
      rcases hword with hword | hword
      · rw [hword]
      · rw [hword, letters_append]
        exact List.append_nil _
    have hlower : toLower (letters (style.apply (clean name.toList)))
        = (letters (style.apply (clean name.toList))).map Char.toLower :=
      toLower_of_ascii fun c hc => toNat_lt_of_isPart (hparts c (List.mem_filter.1 hc).1)
    rw [hsuffix, hlower, ← letters_map_toLower hparts, style.letters_apply hplain, filter_clean]
    split
    · rfl
    · exact (toLower_of_ascii fun c hc =>
        toNat_lt_of_isAlphanum (List.mem_filter.1 hc).2).symm
  · intro hstyle
    -- Cleaning takes the suffix away, and it is put on again behind the same word.
    have hcleaned : clean word.toList = clean (style.apply (clean name.toList)) := by
      rcases hword with hword | hword
      · rw [hword]
      · rw [hword, clean_append_underscore fun c hc => isPlain_of_isPart (hparts c hc)]
    have hagain : sanitizer.sanitize word (some style)
        = sanitizer.escape (String.ofList (style.apply (clean word.toList))) := rfl
    rw [hagain, hcleaned, Case.apply_clean_apply hstyle hplain hfirst]
    rfl

/-- A keyword keeps its letters, and has its suffix put on again. -/
theorem sanitize_lossless_stable_keyword :
    sanitizer.sanitize "§Func!" (some .camel) = "func_" ∧
    Case.camel ≠ .capitals ∧
    toLower (letters "func_".toList) = "func".toList ∧
    sanitizer.sanitize "func_" (some .camel) = "func_" := by
  have hword : sanitizer.sanitize "§Func!" (some .camel) = "func_" := by decide +kernel
  have hstyle : Case.camel ≠ .capitals := by decide
  obtain ⟨hletters, hstable⟩ := sanitize_lossless_stable "§Func!" .camel
  rw [hword] at hletters hstable
  refine ⟨hword, hstyle, hletters.trans ?_, hstable hstyle⟩
  decide +kernel

/-- Capitals are not stable: a capital after a small letter shows only the first time. -/
example : sanitizer.sanitize "x1b" (some .capitals) = "X1B" ∧
    sanitizer.sanitize "X1B" (some .capitals) = "X1_B" := by
  decide +kernel

end ClientGen.Name
