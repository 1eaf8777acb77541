import ClientGen.Proofs.Name.Stability
import ClientGen.Proofs.Text.Pattern

/-!
# Where the words of a name begin

Snake case looks for the words of a name twice.  One pattern parts a run of capitals from the word
that its last capital starts, another parts a small letter or digit from the capital behind it, and
the second one is looked for in what the first has made of the name.  The same boundaries are found
in one pass that only looks at the two neighbours of a capital (`parted`).

A pattern takes a run of capitals as a whole, so its matches are compared with the passes run by
run.  The underscores that the first pass puts in do not change what the second one finds: they
stand behind capitals, and no word starts behind an underscore.

## Main definitions

* `acronym`, `hump` — the two patterns.
* `BeginsSmall` — no capital begins a text, so that a run of capitals ends in front of it.
* `startsWord`, `parted` — the one pass, character by character.

## Main results

* `eq_splitAcronyms` — the first pass is known by what it does to a run of capitals.
* `substitute_acronym`, `substitute_hump` — the passes are substitutions.
* `parted_eq` — both passes together are the one pass.
* `snaked_snaked` — a name in snake case stays as it is.
* `snake_marks_boundaries` — snake case is the one pass, in lower case and with single underscores
  inside.
-/

namespace ClientGen.Name

open Text

variable {cs : List Char}

/-! ## Capitals -/

theorem isLower_or_isDigit_of_isUpper {c : Char} (h : c.isUpper = true) :
    (c.isLower || c.isDigit) = false :=
  forall_ascii (p := fun c => c.isUpper = true → (c.isLower || c.isDigit) = false) (by decide) c
    (toNat_lt_of_isAlphanum (isAlphanum_of_isUpper h)) h

theorem isLower_of_isUpper {c : Char} (h : c.isUpper = true) : c.isLower = false :=
  (Bool.or_eq_false_iff.1 (isLower_or_isDigit_of_isUpper h)).1

theorem isUpper_of_isLower {c : Char} (h : c.isLower = true) : c.isUpper = false := by
  rw [Bool.eq_false_iff]
  intro hupper
  exact absurd (h.symm.trans (isLower_of_isUpper hupper)) nofun

/-! ## Runs of capitals -/

/-- No capital begins a text. -/
def BeginsSmall (cs : List Char) : Prop :=
  ∀ c ∈ cs.head?, c.isUpper = false

theorem beginsSmall_cons {c : Char} {rest : List Char} (h : c.isUpper = false) :
    BeginsSmall (c :: rest) := by
  intro d hd
  rwa [← Option.some.inj hd]

/-- **The first pass goes run by run**: whatever keeps characters that are no capitals, and parts
the last capital of a run from the others where it starts a word, is this pass. -/
theorem eq_splitAcronyms {f : List Char → List Char} (hnil : f [] = [])
    (hsmall : ∀ c rest, c.isUpper = false → f (c :: rest) = c :: f rest)
    (hrun : ∀ run after, run ≠ [] → (∀ c ∈ run, c.isUpper = true) → BeginsSmall after →
      f (run ++ after) = partLast run after ++ f after)
    (cs : List Char) : f cs = splitAcronyms cs := by
  induction cs using splitAcronyms.induct with
  | case1 => rw [hnil, splitAcronyms]
  | case2 c rest hupper more after ih =>
    have hrest : more ++ after = rest :=
      List.prefix_iff_eq_append.1 (List.takeWhile_prefix Char.isUpper)
    have hdrop : after = rest.dropWhile Char.isUpper :=
      List.append_cancel_left (hrest.trans List.takeWhile_append_dropWhile.symm)
    have hafter : BeginsSmall after := by
      intro d hd
      obtain ⟨others, hcons⟩ := List.head?_eq_some_iff.1 (Option.mem_def.1 hd)
      exact eq_false_of_dropWhile_eq_cons (hdrop.symm.trans hcons)
    have hcapitals : ∀ e ∈ c :: more, e.isUpper = true :=
      List.forall_mem_cons.2 ⟨hupper, fun e he => List.mem_takeWhile_imp he⟩
    have hwhole : c :: rest = (c :: more) ++ after := by rw [List.cons_append, hrest]
    rw [hwhole, hrun _ _ (List.cons_ne_nil c more) hcapitals hafter, ih, ← hwhole, splitAcronyms,
      if_pos hupper]
  | case3 c rest hnot ih =>
    rw [hsmall c rest (by simpa using hnot), splitAcronyms, if_neg hnot, ih]

/-! ## The patterns -/

/-- A run of capitals, and a capital with a small letter behind it. -/
def acronym : Pattern where
  first := [{ isIn := Char.isUpper, repeats := true }]
  second := [{ isIn := Char.isUpper }, { isIn := Char.isLower }]
  takes := List.cons_ne_nil _ _

/-- A small letter or digit, and a capital. -/
def hump : Pattern where
  first := [{ isIn := fun c => c.isLower || c.isDigit }]
  second := [{ isIn := Char.isUpper }]
  takes := List.cons_ne_nil _ _

/-! ### Humps -/

theorem match?_hump (c d : Char) (rest : List Char) :
    hump.match? (c :: d :: rest)
      = if (c.isLower || c.isDigit) && d.isUpper then some ([c], [d], rest) else none := by
  cases hc : c.isLower || c.isDigit <;> cases hd : d.isUpper <;>
    simp [hump, Pattern.match?, Part.match?, hc, hd]

theorem match?_hump_singleton (c : Char) : hump.match? [c] = none := by
  cases hc : c.isLower || c.isDigit <;> simp [hump, Pattern.match?, Part.match?, hc]

/-- **The second pass is a substitution.** -/
theorem substitute_hump (cs : List Char) : hump.substitute cs = splitHumps cs := by
  -- Along the function, which looks two characters ahead.
  induction cs using splitHumps.induct with
  | case1 => rw [Pattern.substitute, splitHumps]
  | case2 c =>
    rw [Pattern.substitute_of_eq_none (match?_hump_singleton c), Pattern.substitute, splitHumps]
  | case3 c d rest hhump ih =>
    have hmatch : hump.match? (c :: d :: rest) = some ([c], [d], rest) := by
      rw [match?_hump, if_pos hhump]
    rw [Pattern.substitute_of_match? hmatch, splitHumps, if_pos hhump, ih]
    rfl
  | case4 c d rest hnot ih =>
    have hmatch : hump.match? (c :: d :: rest) = none := by
      rw [match?_hump, if_neg hnot]
    rw [Pattern.substitute_of_eq_none hmatch, splitHumps, if_neg hnot, ih]

/-! ### Acronyms -/

/-- The second group of the first pattern: a capital, and a small letter behind it. -/
def capitalised? (cs : List Char) : Option (List Char × List Char) :=
  Part.match? some acronym.second cs

theorem capitalised?_cons (c d : Char) (rest : List Char) :
    capitalised? (c :: d :: rest)
      = if c.isUpper && d.isLower then some ([c, d], rest) else none := by
  cases hc : c.isUpper <;> cases hd : d.isLower <;>
    simp [capitalised?, acronym, Part.match?, hc, hd]

theorem capitalised?_singleton (c : Char) : capitalised? [c] = none := by
  cases hc : c.isUpper <;> simp [capitalised?, acronym, Part.match?, hc]

theorem capitalised?_of_beginsSmall (h : BeginsSmall cs) : capitalised? cs = none := by
  cases cs with
  | nil => rfl
  | cons c rest => exact Part.match?_of_not (h c rfl)

theorem match?_acronym_of_beginsSmall (h : BeginsSmall cs) : acronym.match? cs = none := by
  cases cs with
  | nil => rfl
  | cons c rest => exact Part.match?_of_not (h c rfl)

/-- Behind a capital, more capitals are tried before the word begins. -/
theorem match?_acronym_cons {c : Char} (hc : c.isUpper = true) (rest : List Char) :
    acronym.match? (c :: rest)
      = ((acronym.match? rest).or ((capitalised? rest).map fun word => ([], word))).map
        fun found => (c :: found.1, found.2) := by
  rw [Pattern.match?, acronym, Part.match?_repeated hc rfl, Part.match?_nil]
  rfl

/-- **A run of capitals gives back its last one** if that starts a word. -/
theorem match?_acronym_of_word {run rest : List Char} {c d : Char} (hne : run ≠ [])
    (hrun : ∀ e ∈ run, e.isUpper = true) (hc : c.isUpper = true) (hd : d.isLower = true) :
    acronym.match? (run ++ c :: d :: rest) = some (run, [c, d], rest) := by
  have hword : capitalised? (c :: d :: rest) = some ([c, d], rest) := by
    rw [capitalised?_cons, hc, hd]
    rfl
  have hsmall : BeginsSmall (d :: rest) := beginsSmall_cons (isUpper_of_isLower hd)
  induction run with
  | nil => exact absurd rfl hne
  | cons first more ih =>
    obtain ⟨hfirst, hmore⟩ := List.forall_mem_cons.1 hrun
    rw [List.cons_append, match?_acronym_cons hfirst]
    cases more with
    | nil =>
      -- The last capital cannot be taken too, since no word would be left.
      rw [List.nil_append, match?_acronym_cons hc, match?_acronym_of_beginsSmall hsmall,
        capitalised?_of_beginsSmall hsmall, hword]
      rfl
    | cons second others =>
      rw [ih (List.cons_ne_nil _ _) hmore]
      rfl

/-- Without such a word nothing is found in a run of capitals. -/
theorem match?_acronym_of_not_word {run after : List Char} (hrun : ∀ e ∈ run, e.isUpper = true)
    (hafter : BeginsSmall after)
    (hnot : ¬ (2 ≤ run.length ∧ after.head?.any Char.isLower = true)) :
    acronym.match? (run ++ after) = none := by
  induction run with
  | nil => exact match?_acronym_of_beginsSmall hafter
  | cons first more ih =>
    obtain ⟨hfirst, hmore⟩ := List.forall_mem_cons.1 hrun
    have hnone : acronym.match? (more ++ after) = none :=
      ih hmore fun hword => hnot ⟨Nat.le_succ_of_le hword.1, hword.2⟩
    have hword : capitalised? (more ++ after) = none := by
      cases more with
      | nil => exact capitalised?_of_beginsSmall hafter
      | cons second others =>
        cases others with
        | nil =>
          cases after with
          | nil => exact capitalised?_singleton second
          | cons d rest =>
            have hd : ¬ d.isLower = true := fun hd => hnot ⟨Nat.le_refl 2, hd⟩
            rw [List.cons_append, List.nil_append, capitalised?_cons, if_neg (by simp [hd])]
        | cons third others =>
          have hthird : third.isUpper = true := hmore third (by simp)
          rw [List.cons_append, List.cons_append, capitalised?_cons,
            if_neg (by simp [isLower_of_isUpper hthird])]
    rw [List.cons_append, match?_acronym_cons hfirst, hnone, hword]
    rfl

theorem substitute_acronym_of_beginsSmall {c : Char} {rest : List Char} (h : c.isUpper = false) :
    acronym.substitute (c :: rest) = c :: acronym.substitute rest :=
  Pattern.substitute_of_eq_none (match?_acronym_of_beginsSmall (beginsSmall_cons h))

theorem substitute_acronym_of_not_word {run after : List Char}
    (hrun : ∀ e ∈ run, e.isUpper = true) (hafter : BeginsSmall after)
    (hnot : ¬ (2 ≤ run.length ∧ after.head?.any Char.isLower = true)) :
    acronym.substitute (run ++ after) = run ++ acronym.substitute after := by
  induction run with
  | nil => rfl
  | cons first more ih =>
    have hnone := match?_acronym_of_not_word hrun hafter hnot
    rw [List.cons_append] at hnone
    rw [List.cons_append, Pattern.substitute_of_eq_none hnone,
      ih (List.forall_mem_cons.1 hrun).2 fun hword => hnot ⟨Nat.le_succ_of_le hword.1, hword.2⟩]
    rfl

/-- **In a run of capitals the substitution parts the last one** if that starts a word. -/
theorem substitute_acronym_run {run after : List Char} (hrun : ∀ e ∈ run, e.isUpper = true)
    (hafter : BeginsSmall after) :
    acronym.substitute (run ++ after) = partLast run after ++ acronym.substitute after := by
  rw [partLast]
  split
  · rename_i hword
    rw [Bool.and_eq_true, decide_eq_true_eq] at hword
    obtain ⟨hlength, hsmall⟩ := hword
    have hne : run ≠ [] := List.length_pos_iff.1 (by omega)
    cases after with
    | nil => simp at hsmall
    | cons d rest =>
      have hd : d.isLower = true := hsmall
      have hsplit := List.dropLast_append_getLast hne
      have hinit : run.dropLast ≠ [] :=
        List.length_pos_iff.1 (by rw [List.length_dropLast]; omega)
      -- The last capital starts the next word, so the acronym ends in front of it.
      have hmatch : acronym.match? (run.dropLast ++ run.getLast hne :: d :: rest)
          = some (run.dropLast, [run.getLast hne, d], rest) :=
        match?_acronym_of_word hinit (fun e he => hrun e (List.mem_of_mem_dropLast he))
          (hrun _ (List.getLast_mem hne)) hd
      have hwhole : run ++ d :: rest = run.dropLast ++ run.getLast hne :: d :: rest := by
        conv_lhs => rw [← hsplit]
        rw [List.append_assoc, List.singleton_append]
      rw [hwhole, Pattern.substitute_of_match? hmatch,
        substitute_acronym_of_beginsSmall (isUpper_of_isLower hd), List.getLast?_eq_some_getLast hne]
      simp
  · rename_i hnot
    exact substitute_acronym_of_not_word hrun hafter (by simpa using hnot)

/-- **The first pass is a substitution.** -/
theorem substitute_acronym (cs : List Char) : acronym.substitute cs = splitAcronyms cs :=
  eq_splitAcronyms (by rw [Pattern.substitute]) (fun _ _ => substitute_acronym_of_beginsSmall)
    (fun _ _ _ => substitute_acronym_run) cs

/-! ## One pass -/

/-- A text with an underscore in front of some characters, chosen by their two neighbours. -/
def partedBy (starts : Option Char → Char → Option Char → Bool) (before : Option Char) :
    List Char → List Char
  | [] => []
  | c :: rest =>
    if starts before c rest.head? then '_' :: c :: partedBy starts (some c) rest
    else c :: partedBy starts (some c) rest

/-- A capital behind a capital starts a word if a small letter comes next. -/
def endsAcronym (before : Option Char) (c : Char) (after : Option Char) : Bool :=
  c.isUpper && before.any Char.isUpper && after.any Char.isLower

/-- A capital behind a small letter or digit starts a word. -/
def endsHump (before : Option Char) (c : Char) (_after : Option Char) : Bool :=
  c.isUpper && before.any fun b => b.isLower || b.isDigit

/-- A capital starts a word. -/
def startsWord (before : Option Char) (c : Char) (after : Option Char) : Bool :=
  endsHump before c after || endsAcronym before c after

/-- **The one pass**: an underscore in front of every capital that starts a word. -/
def parted (cs : List Char) : List Char :=
  partedBy startsWord none cs

section OnePass

variable {before : Option Char}

/-! ### The first pass -/

theorem partedBy_endsAcronym_eq_none (h : before.any Char.isUpper = false ∨ BeginsSmall cs) :
    partedBy endsAcronym before cs = partedBy endsAcronym none cs := by
  cases cs with
  | nil => rfl
  | cons c rest =>
    have hstays : endsAcronym before c rest.head? = false := by
      rcases h with h | h
      · simp [endsAcronym, h]
      · simp [endsAcronym, h c rfl]
    rw [partedBy, partedBy, hstays, endsAcronym]
    simp

theorem partLast_cons_cons {b c : Char} {run after : List Char}
    (h : run ≠ [] ∨ after.head?.any Char.isLower = false) :
    partLast (b :: c :: run) after = b :: partLast (c :: run) after := by
  rcases h with h | h
  · have hlength := List.length_pos_iff.2 h
    obtain ⟨d, rest, rfl⟩ := List.exists_cons_of_ne_nil h
    simp only [partLast, List.length_cons]
    cases after.head?.any Char.isLower <;> simp
  · simp [partLast, h]

/-- **In a run of capitals the pass parts the last one** if that starts a word. -/
theorem partedBy_endsAcronym_run {b : Char} {run after : List Char} (hb : b.isUpper = true)
    (hrun : ∀ e ∈ run, e.isUpper = true) (hafter : BeginsSmall after) :
    b :: partedBy endsAcronym (some b) (run ++ after)
      = partLast (b :: run) after ++ partedBy endsAcronym none after := by
  induction run generalizing b with
  | nil =>
    rw [List.nil_append, partedBy_endsAcronym_eq_none (.inr hafter)]
    rfl
  | cons c more ih =>
    obtain ⟨hc, hmore⟩ := List.forall_mem_cons.1 hrun
    rw [List.cons_append, partedBy, ih hc hmore]
    cases more with
    | nil =>
      cases hword : after.head?.any Char.isLower with
      | true => simp [endsAcronym, hb, hc, hword, partLast]
      | false => simp [endsAcronym, hword, partLast]
    | cons d others =>
      have hd : d.isLower = false := isLower_of_isUpper (hmore d List.mem_cons_self)
      rw [partLast_cons_cons (.inl (List.cons_ne_nil d others))]
      simp [endsAcronym, hd]

theorem partedBy_endsAcronym (cs : List Char) :
    partedBy endsAcronym none cs = splitAcronyms cs := by
  refine eq_splitAcronyms rfl (fun c rest hc => ?_) (fun run after hne hrun hafter => ?_) cs
  · have hbefore : (some c).any Char.isUpper = false := hc
    rw [partedBy, partedBy_endsAcronym_eq_none (.inl hbefore)]
    simp [endsAcronym]
  · obtain ⟨b, more, rfl⟩ := List.exists_cons_of_ne_nil hne
    obtain ⟨hb, hmore⟩ := List.forall_mem_cons.1 hrun
    rw [← partedBy_endsAcronym_run hb hmore hafter, List.cons_append, partedBy]
    simp [endsAcronym]

/-! ### The second pass -/

theorem partedBy_endsHump_eq_none (h : ∀ c ∈ cs.head?, endsHump before c none = false) :
    partedBy endsHump before cs = partedBy endsHump none cs := by
  cases cs with
  | nil => rfl
  | cons c rest =>
    have hstays : endsHump before c rest.head? = false := h c rfl
    rw [partedBy, partedBy, hstays, endsHump]
    simp

theorem partedBy_endsHump (cs : List Char) : partedBy endsHump none cs = splitHumps cs := by
  induction cs using splitHumps.induct with
  | case1 => rfl
  | case2 c => simp [partedBy, endsHump, splitHumps]
  | case3 c d rest hhump ih =>
    obtain ⟨hc, hd⟩ := Bool.and_eq_true_iff.1 hhump
    have hnext : partedBy endsHump (some d) rest = splitHumps rest := by
      rw [← ih]
      refine partedBy_endsHump_eq_none fun e _ => ?_
      rw [endsHump, Option.any_some, isLower_or_isDigit_of_isUpper hd, Bool.and_false]
    rw [splitHumps, if_pos hhump, ← hnext]
    simp [partedBy, endsHump, hd, hc]
  | case4 c d rest hnot ih =>
    have hnext : partedBy endsHump (some c) (d :: rest) = splitHumps (d :: rest) := by
      rw [← ih]
      refine partedBy_endsHump_eq_none fun e he => ?_
      obtain rfl : d = e := Option.some.inj he
      rw [endsHump, Bool.and_comm]
      exact Bool.eq_false_iff.2 hnot
    rw [splitHumps, if_neg hnot, ← hnext, partedBy]
    simp [endsHump]

/-! ### Both passes -/

/-- **The second pass finds the same after the first one.**  An underscore starts no word, and no
word starts behind it; the first pass puts it behind a capital, where the second pass puts none. -/
theorem partedBy_partedBy (before : Option Char) (cs : List Char) :
    partedBy endsHump before (partedBy endsAcronym before cs) = partedBy startsWord before cs := by
  induction cs generalizing before with
  | nil => rfl
  | cons c rest ih =>
    rw [partedBy, partedBy.eq_def startsWord]
    cases hacronym : endsAcronym before c rest.head? with
    | true =>
      -- The second pass meets the underscore, and the capital only behind it.
      simp [startsWord, hacronym, partedBy, endsHump, ih]
    | false =>
      simp [startsWord, hacronym, partedBy, endsHump, ih]

theorem parted_eq (cs : List Char) : parted cs = splitHumps (splitAcronyms cs) := by
  rw [parted, ← partedBy_partedBy, partedBy_endsAcronym, partedBy_endsHump]

/-- The one pass adds nothing but underscores. -/
theorem mem_partedBy {starts : Option Char → Char → Option Char → Bool} {c : Char}
    (h : c ∈ partedBy starts before cs) : c = '_' ∨ c ∈ cs := by
  induction cs generalizing before with
  | nil => exact .inr h
  | cons d rest ih =>
    rw [partedBy] at h
    split at h
    · rcases List.mem_cons.1 h with rfl | h
      · exact .inl rfl
      · rcases List.mem_cons.1 h with rfl | h
        · exact .inr List.mem_cons_self
        · exact (ih h).imp_right (List.mem_cons_of_mem d)
    · rcases List.mem_cons.1 h with rfl | h
      · exact .inr List.mem_cons_self
      · exact (ih h).imp_right (List.mem_cons_of_mem d)

end OnePass

/-! ## A name in snake case -/

theorem joinUnderscores_sublist (cs : List Char) : (joinUnderscores cs).Sublist cs := by
  induction cs with
  | nil => exact List.Sublist.refl _
  | cons c rest ih =>
    rw [joinUnderscores]
    split
    · exact ih.cons c
    · exact ih.cons_cons c

theorem marked_eq_parted (cs : List Char) :
    marked cs = joinUnderscores (toLower (parted (joined cs))) := by
  rw [marked, parted_eq]

/-- What stands in snake case comes from the lower-case form of the parted name. -/
theorem mem_toLower_of_mem_snaked {c : Char} (h : c ∈ snaked cs) :
    c ∈ toLower (parted (joined cs)) := by
  have hmarked : c ∈ marked cs := mem_of_mem_trim h
  rw [marked_eq_parted] at hmarked
  exact (joinUnderscores_sublist _).mem hmarked

theorem isSmall_of_mem_snaked {c : Char} (h : c ∈ snaked cs) : IsSmall c :=
  isSmall_of_mem_toLower (mem_toLower_of_mem_snaked h)

theorem hyphen_notMem_snaked : '-' ∉ snaked cs := by
  intro h
  have hparted : '-' ∈ parted (joined cs) :=
    mem_of_mem_toLower (by decide +kernel) (by decide) (mem_toLower_of_mem_snaked h)
  rcases mem_partedBy hparted with hunderscore | hjoined
  · exact absurd hunderscore (by decide)
  · obtain ⟨c, -, hc⟩ := List.mem_map.1 hjoined
    split at hc
    · exact absurd hc (by decide)
    · rename_i hhyphen
      exact hhyphen hc

theorem hasNoDouble_snaked (cs : List Char) : HasNoDouble (snaked cs) :=
  fun hdouble => hasNoDouble_joinUnderscores _ (hdouble.trans (isInfix_trim _ _))

/-- **A name in snake case stays as it is.** -/
theorem snaked_snaked (cs : List Char) : snaked (snaked cs) = snaked cs := by
  rw [snaked_eq_trim, marked_of_isSmall (fun c hc => isSmall_of_mem_snaked hc)
    hyphen_notMem_snaked (hasNoDouble_snaked cs), snaked_eq_trim, trim_trim]

/-- **Snake case marks the boundaries of words.**  Two substitutions, of the patterns for acronyms
and for humps, put underscores into a name whose hyphens are underscores already.  They put one in
front of each capital that stands behind a small letter or digit, or between a capital and a small
letter, and nowhere else: one pass finds the same places by the two neighbours of a character.  Then
the name is put in lower case, one underscore of each run is kept, and none at the ends.  What comes
of it has no capital and no underscore at an end or behind another one, and is left as it is when it
is put in snake case again. -/
theorem snake_marks_boundaries (name : String) :
    let joined := name.toList.map fun c => if c = '-' then '_' else c
    let result := (snake name).toList
    result = trim (· == '_') (joinUnderscores (toLower
      (hump.substitute (acronym.substitute joined)))) ∧
    result = trim (· == '_') (joinUnderscores (toLower (parted joined))) ∧
    (∀ c ∈ result, c.isUpper = false) ∧
    ¬ ['_', '_'] <:+: result ∧ result.head? ≠ some '_' ∧ result.getLast? ≠ some '_' ∧
    snake (snake name) = snake name := by
  intro joined result
  have hresult : result = snaked name.toList := String.toList_ofList
  rw [hresult]
  refine ⟨?_, ?_, fun c hc => isUpper_of_isSmall (isSmall_of_mem_snaked hc),
    hasNoDouble_snaked _, fun hhead => ?_, fun hlast => ?_, ?_⟩
  · rw [substitute_acronym, substitute_hump]
    rfl
  · rw [snaked_eq_trim, marked_eq_parted]
    rfl
  · exact absurd (eq_false_of_head?_trim hhead) (by decide)
  · exact absurd (eq_false_of_getLast?_trim hlast) (by decide)
  · show String.ofList (snaked result) = String.ofList (snaked name.toList)
    rw [hresult, snaked_snaked]

/-- A name with an acronym, a hump, a hyphen and underscores at its ends. -/
theorem snake_marks_boundaries_status :
    (snake "_getHTTPStatus2-Code__").toList = "get_http_status2_code".toList ∧
      (∀ c ∈ (snake "_getHTTPStatus2-Code__").toList, c.isUpper = false) := by
  obtain ⟨-, hparted, hsmall, -⟩ := snake_marks_boundaries "_getHTTPStatus2-Code__"
  exact ⟨hparted.trans (by decide +kernel), hsmall⟩

end ClientGen.Name
