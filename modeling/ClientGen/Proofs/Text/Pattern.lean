import Mathlib.Data.List.Basic

/-!
# Patterns, and an underscore inside each match

A pattern has two groups of parts, and a part takes one character of a class or as many as it can.
A part that repeats takes all it can get first, and gives characters back, one after another, until
the rest of the pattern matches.  A substitution goes through a text from left to right; it puts an
underscore between the two groups of a match and goes on behind the match, so that no two matches
share a character.

## Main definitions

* `Part`, `Pattern` — what is looked for.
* `Part.match?` — the match that is found first, with what stands behind it.
* `Pattern.substitute` — a text with an underscore inside every match.

## Main results

* `Part.eq_append_of_match?` — a match takes the front of a text, a character for each part.
* `Pattern.substitute_of_match?`, `Pattern.substitute_of_eq_none` — one step of a substitution.
-/

namespace ClientGen.Text

/-- A part of a pattern: a character of a class, or a run of them. -/
structure Part where
  isIn : Char → Bool
  repeats : Bool := false

/-- The first match of parts: the characters that they take, with what `next` finds behind them. -/
def Part.match? {β : Type} (next : List Char → Option β) :
    List Part → List Char → Option (List Char × β)
  | [], cs => (next cs).map fun found => ([], found)
  | _ :: _, [] => none
  | part :: parts, c :: cs =>
    if part.isIn c then
      -- More characters for this part come before fewer.
      let more := if part.repeats then match? next (part :: parts) cs else none
      (more.or (match? next parts cs)).map fun found => (c :: found.1, found.2)
    else none

namespace Part

variable {β : Type} {next : List Char → Option β} {part : Part} {parts : List Part} {c : Char}
  {cs text : List Char} {found : β}

theorem match?_nil : match? next [] cs = (next cs).map fun found => ([], found) := by
  rw [match?]

theorem match?_of_not (h : part.isIn c = false) : match? next (part :: parts) (c :: cs) = none := by
  rw [match?, h, if_neg Bool.false_ne_true]

/-- A part that does not repeat takes one character. -/
theorem match?_single (hc : part.isIn c = true) (hsingle : part.repeats = false) :
    match? next (part :: parts) (c :: cs)
      = (match? next parts cs).map fun found => (c :: found.1, found.2) := by
  rw [match?, hc, if_pos rfl, hsingle]
  rfl

/-- A part that repeats takes one character and then more of them, if that leads to a match. -/
theorem match?_repeated (hc : part.isIn c = true) (hrepeats : part.repeats = true) :
    match? next (part :: parts) (c :: cs)
      = ((match? next (part :: parts) cs).or (match? next parts cs)).map
        fun found => (c :: found.1, found.2) := by
  rw [match?, hc, if_pos rfl, hrepeats, if_pos rfl]

/-- A match takes a character of the first part, and goes on with this part or with the next. -/
theorem exists_of_match?_cons (h : match? next (part :: parts) (c :: cs) = some (text, found)) :
    ∃ more, text = c :: more ∧
      (match? next (part :: parts) cs = some (more, found) ∨
        match? next parts cs = some (more, found)) := by
  cases hc : part.isIn c with
  | false => exact absurd (match?_of_not hc ▸ h) nofun
  | true =>
    cases hrepeats : part.repeats with
    | false =>
      rw [match?_single hc hrepeats, Option.map_eq_some_iff] at h
      obtain ⟨⟨more, a⟩, ha, heq⟩ := h
      obtain ⟨rfl, rfl⟩ := Prod.mk.inj heq
      exact ⟨more, rfl, .inr ha⟩
    | true =>
      rw [match?_repeated hc hrepeats, Option.map_eq_some_iff] at h
      obtain ⟨⟨more, a⟩, ha, heq⟩ := h
      obtain ⟨rfl, rfl⟩ := Prod.mk.inj heq
      exact ⟨more, rfl, (Option.or_eq_some_iff.1 ha).imp_right And.right⟩

theorem eq_nil_of_match?_nil (h : match? next [] cs = some (text, found)) :
    text = [] ∧ next cs = some found := by
  rw [match?_nil, Option.map_eq_some_iff] at h
  obtain ⟨a, ha, heq⟩ := h
  obtain ⟨rfl, rfl⟩ := Prod.mk.inj heq
  exact ⟨rfl, ha⟩

/-- **A match takes the front of a text**, and at least a character for each part. -/
theorem eq_append_of_match? (h : match? next parts cs = some (text, found)) :
    ∃ rest, cs = text ++ rest ∧ next rest = some found ∧ parts.length ≤ text.length := by
  -- Along the text, for any parts: a part that repeats does not get shorter.
  induction cs generalizing parts text with
  | nil =>
    cases parts with
    | nil =>
      obtain ⟨rfl, hnext⟩ := eq_nil_of_match?_nil h
      exact ⟨[], rfl, hnext, Nat.le_refl 0⟩
    | cons part parts => exact absurd h (by simp [match?])
  | cons c cs ih =>
    cases parts with
    | nil =>
      obtain ⟨rfl, hnext⟩ := eq_nil_of_match?_nil h
      exact ⟨c :: cs, rfl, hnext, Nat.le_refl 0⟩
    | cons part parts =>
      obtain ⟨more, rfl, hmore | hmore⟩ := exists_of_match?_cons h
      · obtain ⟨rest, rfl, hnext, hlength⟩ := ih hmore
        exact ⟨rest, rfl, hnext, Nat.le_succ_of_le hlength⟩
      · obtain ⟨rest, rfl, hnext, hlength⟩ := ih hmore
        exact ⟨rest, rfl, hnext, Nat.succ_le_succ hlength⟩

end Part

/-- Two groups of parts; the first one takes at least a character. -/
structure Pattern where
  first : List Part
  second : List Part
  takes : first ≠ []

namespace Pattern

variable {pattern : Pattern} {c : Char} {cs first second rest : List Char}

/-- The match at the front of a text: what the two groups take, and what stands behind them. -/
def match? (pattern : Pattern) (cs : List Char) :
    Option (List Char × List Char × List Char) :=
  Part.match? (Part.match? some pattern.second) pattern.first cs

theorem eq_append_of_match? (h : pattern.match? cs = some (first, second, rest)) :
    cs = first ++ (second ++ rest) ∧ first ≠ [] := by
  obtain ⟨behind, rfl, hsecond, hlength⟩ := Part.eq_append_of_match? h
  obtain ⟨last, rfl, hlast, -⟩ := Part.eq_append_of_match? hsecond
  obtain rfl : last = rest := Option.some.inj hlast
  refine ⟨rfl, ?_⟩
  rintro rfl
  exact pattern.takes (List.length_eq_zero_iff.1 (Nat.le_zero.1 hlength))

theorem length_lt_of_match? (h : pattern.match? cs = some (first, second, rest)) :
    rest.length < cs.length := by
  obtain ⟨rfl, hne⟩ := eq_append_of_match? h
  have hpos := List.length_pos_iff.2 hne
  simp only [List.length_append]
  omega

/-- A text with an underscore between the two groups of every match, from left to right. -/
def substitute (pattern : Pattern) : List Char → List Char
  | [] => []
  | c :: cs =>
    match _h : pattern.match? (c :: cs) with
    | some (first, second, rest) => first ++ '_' :: second ++ pattern.substitute rest
    | none => c :: pattern.substitute cs
termination_by cs => cs.length
decreasing_by
  · exact length_lt_of_match? ‹_›
  · exact Nat.lt_succ_self _

theorem substitute_of_match? (h : pattern.match? cs = some (first, second, rest)) :
    pattern.substitute cs = first ++ '_' :: second ++ pattern.substitute rest := by
  cases cs with
  | nil => exact absurd (length_lt_of_match? h) (Nat.not_lt_zero _)
  | cons c cs =>
    rw [substitute]
    split
    · rename_i heq
      obtain ⟨rfl, rfl, rfl⟩ : first = _ ∧ second = _ ∧ rest = _ := by
        simpa using h.symm.trans heq
      rfl
    · rename_i heq
      exact absurd (h.symm.trans heq) nofun

theorem substitute_of_eq_none (h : pattern.match? (c :: cs) = none) :
    pattern.substitute (c :: cs) = c :: pattern.substitute cs := by
  rw [substitute]
  split
  · rename_i heq
    exact absurd (heq.symm.trans h) nofun
  · rfl

end Pattern

end ClientGen.Text
