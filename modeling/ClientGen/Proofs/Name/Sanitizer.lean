import ClientGen.Name.Keyword
import ClientGen.Proofs.Text.Letter
import ClientGen.Proofs.Text.Trim

/-!
# What sanitized names are made of

A name in Pascal case consists of ASCII letters and digits and does not start with a small letter.
The words that Go keeps for itself all start with one, so the sanitizer never has to append its
suffix to such a name.

## Main definitions

* `initial` — the first ASCII letter or digit of a name, which cleaning brings to its front.

## Main results

* `find?_clean` — a cleaned name keeps its first letter or digit.
* `isAlphanum_of_mem_pascaled` — Pascal case of a cleaned name has letters and digits only.
* `head?_pascaled` — it begins with the capital of the first letter or digit.
* `isAlphanum_of_mem_sanitize` — so has what the sanitizer makes of a name.
* `sanitize_ne_empty` — it makes something of every name.
-/

namespace ClientGen.Name

open Text

/-! ## Cleaning -/

theorem isPlain_of_mem_clean {cs : List Char} : ∀ c ∈ clean cs, isPlain c = true := by
  have hkept : ∀ c ∈ trim (fun c => c == '_' || c == '-')
      (cs.map fun c => if isPlain c then c else '_'), isPlain c = true := by
    intro c hc
    obtain ⟨d, -, rfl⟩ := List.mem_map.1 (mem_of_mem_trim hc)
    split
    · assumption
    · decide
  unfold clean
  dsimp only
  split
  · exact List.all_eq_true.1 (by decide)
  · rename_i c rest heq
    split
    · intro d hd
      rcases List.mem_cons.1 hd with rfl | hd
      · decide
      · exact hkept d hd
    · exact hkept

/-- The first letter or digit of a name, or of what a name without any is replaced by. -/
def initial (cs : List Char) : Char :=
  (cs.find? Char.isAlphanum).getD 'f'

/-- What of a name is not trimmed away are letters and digits. -/
theorem find?_map_plain (cs : List Char) :
    (cs.map fun c => if isPlain c then c else '_').find? (fun c => !(c == '_' || c == '-'))
      = cs.find? Char.isAlphanum := by
  induction cs with
  | nil => rfl
  | cons c rest ih =>
    rw [List.map_cons, List.find?_cons, List.find?_cons, ih]
    by_cases hc : c.isAlphanum = true
    · have hne : c ≠ '_' ∧ c ≠ '-' := by
        constructor <;> rintro rfl <;> exact absurd hc (by decide)
      simp [isPlain, hc, beq_false_of_ne hne.1, beq_false_of_ne hne.2]
    · rw [Bool.not_eq_true] at hc
      by_cases hsign : c = '_' ∨ c = '-'
      · rcases hsign with rfl | rfl <;> simp [isPlain, hc]
      · obtain ⟨hunderscore, hhyphen⟩ := not_or.1 hsign
        simp [isPlain, hc, hunderscore, hhyphen]

/-- **A cleaned name keeps its first letter or digit.** -/
theorem find?_clean (cs : List Char) :
    (clean cs).find? Char.isAlphanum = some (initial cs) := by
  have hhead := head?_trim (fun c => c == '_' || c == '-')
    (cs.map fun c => if isPlain c then c else '_')
  rw [find?_map_plain] at hhead
  unfold clean
  dsimp only
  split
  · rename_i hnone
    rw [hnone] at hhead
    rw [initial, ← hhead]
    rfl
  · rename_i c rest hkept
    rw [hkept] at hhead
    have hfound : cs.find? Char.isAlphanum = some c := hhead.symm
    have hc := List.find?_some hfound
    rw [hkept, initial, hfound]
    split
    · rw [List.find?_cons_of_neg (by decide), List.find?_cons_of_pos hc, Option.getD_some]
    · rw [List.find?_cons_of_pos hc, Option.getD_some]

theorem isAlphanum_initial (cs : List Char) : (initial cs).isAlphanum = true :=
  List.find?_some (find?_clean cs)

/-! ## Pascal case -/

theorem toNat_lt_of_isAlphanum {c : Char} (h : c.isAlphanum = true) : c.toNat < 128 := by
  change (decide (65 ≤ c.val ∧ c.val ≤ 90) || (decide (97 ≤ c.val) && decide (c.val ≤ 122)) ||
    (decide (48 ≤ c.val) && decide (c.val ≤ 57))) = true at h
  simp only [Bool.or_eq_true, Bool.and_eq_true, decide_eq_true_eq, UInt32.le_iff_toNat_le] at h
  change ((65 ≤ c.toNat ∧ c.toNat ≤ 90) ∨ (97 ≤ c.toNat ∧ c.toNat ≤ 122)) ∨
    (48 ≤ c.toNat ∧ c.toNat ≤ 57) at h
  omega

theorem isAlphanum_of_isUpper {c : Char} (h : c.isUpper = true) : c.isAlphanum = true := by
  show (c.isUpper || c.isLower || c.isDigit) = true
  rw [h, Bool.true_or, Bool.true_or]

theorem toUpper_of_isUpper {c : Char} (h : c.isUpper = true) : c.toUpper = c :=
  forall_ascii (p := fun c => c.isUpper = true → c.toUpper = c) (by decide) c
    (toNat_lt_of_isAlphanum (isAlphanum_of_isUpper h)) h

theorem toUpper_of_isAlphanum {c : Char} (h : c.isAlphanum = true) :
    c.toUpper.isAlphanum = true ∧ c.toUpper.isLower = false :=
  forall_ascii (p := fun c => c.isAlphanum = true →
    c.toUpper.isAlphanum = true ∧ c.toUpper.isLower = false) (by decide) c
    (toNat_lt_of_isAlphanum h) h

theorem isBlank_of_isAlphanum {c : Char} (h : c.isAlphanum = true) : Text.isBlank c = false :=
  forall_ascii (p := fun c => c.isAlphanum = true → Text.isBlank c = false) (by decide) c
    (toNat_lt_of_isAlphanum h) h

theorem upperForm_of_isAlphanum {c : Char} (h : c.isAlphanum = true) :
    upperForm c = [c.toUpper] := by
  rw [upperForm, if_pos (toNat_lt_of_isAlphanum h)]

/-- What stands between separators in a plain name are letters and digits. -/
theorem isAlphanum_of_not_isSeparator {c : Char} (h : isPlain c = true)
    (hsep : isSeparator c = false) : c.isAlphanum = true := by
  simp only [isSeparator, Bool.or_eq_false_iff] at hsep
  simpa [isPlain, hsep.1.1, hsep.1.2] using h

theorem ne_nil_of_mem_segments {inside : Char → Bool} {cs run : List Char}
    (h : run ∈ segments inside cs) :
    run ≠ [] ∧ ∀ c ∈ run, c ∈ cs ∧ inside c = true := by
  induction cs generalizing run with
  | nil => simp [segments] at h
  | cons d rest ih =>
    have hrest : ∀ run ∈ segments inside rest,
        run ≠ [] ∧ ∀ c ∈ run, c ∈ d :: rest ∧ inside c = true := by
      intro run hrun
      obtain ⟨hne, hall⟩ := ih hrun
      exact ⟨hne, fun c hc => ⟨List.mem_cons_of_mem d (hall c hc).1, (hall c hc).2⟩⟩
    rw [segments] at h
    split at h
    · rename_i hinside
      have hself : ∀ c ∈ [d], c ∈ d :: rest ∧ inside c = true := by simpa using hinside
      split at h
      · obtain rfl := List.mem_singleton.1 h
        exact ⟨List.cons_ne_nil d [], hself⟩
      · rename_i first others heq
        rw [heq] at hrest
        split at h
        · rcases List.mem_cons.1 h with rfl | h
          · refine ⟨List.cons_ne_nil d first, ?_⟩
            intro c hc
            rcases List.mem_cons.1 hc with rfl | hc
            · exact hself c List.mem_cons_self
            · exact (hrest first List.mem_cons_self).2 c hc
          · exact hrest run (List.mem_cons_of_mem first h)
        · rcases List.mem_cons.1 h with rfl | h
          · exact ⟨List.cons_ne_nil d [], hself⟩
          · exact hrest run h
    · exact hrest run h

/-- The first run starts with the first character of the kind. -/
theorem head?_head?_segments (inside : Char → Bool) (cs : List Char) :
    (segments inside cs).head?.bind List.head? = cs.find? inside := by
  induction cs with
  | nil => rfl
  | cons d rest ih =>
    rw [segments]
    split
    · rename_i hinside
      rw [List.find?_cons_of_pos hinside]
      split
      · rfl
      · split <;> rfl
    · rename_i hout
      rw [List.find?_cons_of_neg hout, ih]

theorem isSeparator_of_isAlphanum {c : Char} (h : c.isAlphanum = true) : isSeparator c = false :=
  forall_ascii (p := fun c => c.isAlphanum = true → isSeparator c = false) (by decide) c
    (toNat_lt_of_isAlphanum h) h

/-- Of a plain name, separators are all but the letters and digits. -/
theorem isAlphanum_eq_of_isPlain {c : Char} (h : isPlain c = true) :
    c.isAlphanum = !isSeparator c := by
  cases hsep : isSeparator c with
  | false => exact isAlphanum_of_not_isSeparator h hsep
  | true =>
    by_contra hne
    exact absurd (isSeparator_of_isAlphanum (by simpa using hne)) (by simp [hsep])

theorem isAlphanum_of_mem_capitalized {cs : List Char} (h : ∀ c ∈ cs, c.isAlphanum = true) :
    ∀ c ∈ capitalized cs, c.isAlphanum = true := by
  cases cs with
  | nil => simp [capitalized]
  | cons d rest =>
    have hd := h d List.mem_cons_self
    rw [capitalized, upperForm_of_isAlphanum hd]
    intro c hc
    rcases List.mem_cons.1 hc with rfl | hc
    · exact (toUpper_of_isAlphanum hd).1
    · exact h c (List.mem_cons_of_mem d hc)

/-- **Pascal case of a plain name has letters and digits only.** -/
theorem isAlphanum_of_mem_pascaled {cs : List Char} (h : ∀ c ∈ cs, isPlain c = true) :
    ∀ c ∈ pascaled cs, c.isAlphanum = true := by
  unfold pascaled
  split
  · rename_i hpascal
    cases cs with
    | nil => simp
    | cons d rest =>
      simp only [isPascal, Bool.and_eq_true, List.all_eq_true] at hpascal
      intro c hc
      rcases List.mem_cons.1 hc with rfl | hc
      · exact isAlphanum_of_isUpper hpascal.1
      · exact hpascal.2 c hc
  · intro c hc
    obtain ⟨run, hrun, hc⟩ := List.mem_flatMap.1 hc
    refine isAlphanum_of_mem_capitalized (fun d hd => ?_) c hc
    obtain ⟨hmem, hinside⟩ := (ne_nil_of_mem_segments hrun).2 d hd
    exact isAlphanum_of_not_isSeparator (h d hmem) (by simpa using hinside)

/-- **Pascal case begins with the capital of the first letter or digit.** -/
theorem head?_pascaled {cs : List Char} (h : ∀ c ∈ cs, isPlain c = true) :
    (pascaled cs).head? = (cs.find? Char.isAlphanum).map Char.toUpper := by
  unfold pascaled
  split
  · rename_i hpascal
    cases cs with
    | nil => rfl
    | cons d rest =>
      simp only [isPascal, Bool.and_eq_true] at hpascal
      have hd := isAlphanum_of_isUpper hpascal.1
      rw [List.find?_cons_of_pos hd]
      simp [toUpper_of_isUpper hpascal.1]
  · have hfind : cs.find? Char.isAlphanum = cs.find? fun c => !isSeparator c :=
      List.find?_congr fun c hc => isAlphanum_eq_of_isPlain (h c hc)
    rw [hfind, ← head?_head?_segments]
    cases hruns : segments (fun c => !isSeparator c) cs with
    | nil => rfl
    | cons run others =>
      obtain ⟨hne, hrun⟩ := ne_nil_of_mem_segments (hruns ▸ List.mem_cons_self)
      obtain ⟨d, rest, rfl⟩ := List.exists_cons_of_ne_nil hne
      obtain ⟨hmem, hinside⟩ := hrun d List.mem_cons_self
      have hd := isAlphanum_of_not_isSeparator (h d hmem) (by simpa using hinside)
      rw [List.flatMap_cons, capitalized, upperForm_of_isAlphanum hd]
      rfl

/-! ## Sanitized names -/

theorem isLower_head?_of_taken {word : String}
    (h : (keywords.contains word || predeclared.contains word) = true) :
    word.toList.head?.any Char.isLower = true := by
  have hall : ∀ word ∈ keywords ++ predeclared, word.toList.head?.any Char.isLower = true := by
    decide
  refine hall word (List.mem_append.2 ?_)
  simpa using h

theorem escape_of_not_isLower_head? {word : String}
    (h : word.toList.head?.any Char.isLower = false) : sanitizer.escape word = word := by
  apply if_neg
  intro htaken
  rw [isLower_head?_of_taken htaken] at h
  exact Bool.noConfusion h

/-- The sanitizer's names need no suffix. -/
theorem toList_sanitize (name : String) :
    (sanitizer.sanitize name).toList = pascaled (clean name.toList) := by
  have hstyled : sanitizer.sanitize name
      = sanitizer.escape (String.ofList (pascaled (clean name.toList))) := rfl
  rw [hstyled, escape_of_not_isLower_head?, String.toList_ofList]
  rw [String.toList_ofList, head?_pascaled isPlain_of_mem_clean, find?_clean]
  exact (toUpper_of_isAlphanum (isAlphanum_initial _)).2

/-- **Sanitized names have letters and digits only.** -/
theorem isAlphanum_of_mem_sanitize {name : String} :
    ∀ c ∈ (sanitizer.sanitize name).toList, c.isAlphanum = true := by
  rw [toList_sanitize]
  exact isAlphanum_of_mem_pascaled isPlain_of_mem_clean

/-- **No sanitized name is empty.** -/
theorem sanitize_ne_empty (name : String) : sanitizer.sanitize name ≠ "" := by
  intro hempty
  have hhead := head?_pascaled (@isPlain_of_mem_clean name.toList)
  rw [← toList_sanitize, hempty, find?_clean] at hhead
  simp at hhead

end ClientGen.Name
