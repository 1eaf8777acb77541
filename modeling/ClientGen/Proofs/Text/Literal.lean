import ClientGen.Text.Quoted
import Mathlib.Algebra.Ring.Parity
import Mathlib.Data.List.Basic
import Mathlib.Data.List.TakeWhile
import Mathlib.Tactic.Ring

/-!
# Literals are read back

A literal is read from its opening quote: a backslash begins an escape, which is a letter or sign of
its own or the letter `u` with four hexadecimal digits, a quote ends the literal, and every other
character stands for itself.  The same rules, apart from any reader, say what the characters between
two quotes spell, and that it is one text at most.  What a text is quoted as obeys the rules and
spells the text; this fails for no character, since what begins an escape and what ends a literal is
escaped.

## Main definitions

* `Quoted.decode?` — the text of a literal between double quotes.
* `Quoted.Spells` — the rules: what stands between two quotes, and the text that it spells.
* `Quoted.backslashes` — the backslashes that a text ends in.

## Main results

* `Quoted.decode?_eq_some_iff` — the reader of literals follows the rules.
* `Quoted.Spells.odd_backslashes` — no quote inside a literal ends it.
* `unquote?_quote` — the literal of a text is read as the text.
* `quote_isLiteral` — what a text is quoted as is one literal, which spells the text.
-/

namespace ClientGen.Text

namespace Quoted

variable {written literal cs : List Char}

/-! ## Reading -/

/-- The value of a hexadecimal digit. -/
def digit? (c : Char) : Option Nat :=
  if '0' ≤ c ∧ c ≤ '9' then some (c.toNat - '0'.toNat)
  else if 'a' ≤ c ∧ c ≤ 'f' then some (c.toNat - 'a'.toNat + 10)
  else if 'A' ≤ c ∧ c ≤ 'F' then some (c.toNat - 'A'.toNat + 10)
  else none

/-- The number that hexadecimal digits stand for, behind digits that were read before. -/
def number? (read : Nat) : List Char → Option Nat
  | [] => some read
  | c :: rest => do number? (read * 16 + (← digit? c)) rest

/-- The character that an escape of one letter or sign stands for. -/
def ofLetter? : Char → Option Char
  | '"' => some '"'
  | '\\' => some '\\'
  | 'b' => some '\x08'
  | 'f' => some '\x0c'
  | 'n' => some '\n'
  | 'r' => some '\r'
  | 't' => some '\t'
  | _ => none

/-- The text from behind the opening quote to the closing one, with which the literal must end. -/
def decodeBody? : List Char → Option (List Char)
  | [] => none
  | '"' :: rest => if rest.isEmpty then some [] else none
  | '\\' :: 'u' :: a :: b :: c :: d :: rest => do
    let n ← number? 0 [a, b, c, d]
    -- Halves of surrogate pairs are no characters.
    if n.isValidChar then return Char.ofNat n :: (← decodeBody? rest) else none
  | '\\' :: letter :: rest => do
    let c ← ofLetter? letter
    return c :: (← decodeBody? rest)
  | c :: rest => do
    -- A literal does not go on behind the end of its line, and a backslash begins an escape.
    if c = '\n' ∨ c = '\\' then none else return c :: (← decodeBody? rest)

/-- The text of a literal between double quotes. -/
def decode? : List Char → Option (List Char)
  | '"' :: rest => decodeBody? rest
  | _ => none

/-! ## The rules -/

/-- The characters between the quotes of a literal spell a text. -/
inductive Spells : List Char → List Char → Prop
  | nil : Spells [] []
  | plain {c : Char} {written cs : List Char} (hquote : c ≠ '"') (hslash : c ≠ '\\')
      (hline : c ≠ '\n') (h : Spells written cs) : Spells (c :: written) (c :: cs)
  /-- An escape by a letter or sign of its own. -/
  | letter {letter c : Char} {written cs : List Char} (hletter : ofLetter? letter = some c)
      (h : Spells written cs) : Spells ('\\' :: letter :: written) (c :: cs)
  /-- An escape by four hexadecimal digits, which must be the number of a character. -/
  | numbered {a b c d : Char} {n : Nat} {written cs : List Char}
      (hnumber : number? 0 [a, b, c, d] = some n) (hvalid : n.isValidChar)
      (h : Spells written cs) :
      Spells ('\\' :: 'u' :: a :: b :: c :: d :: written) (Char.ofNat n :: cs)

theorem ne_of_ofLetter?_eq_some {letter c : Char} (h : ofLetter? letter = some c) :
    letter ≠ 'u' := by
  rintro rfl
  simp [ofLetter?] at h

/-- The reader accepts what the rules accept. -/
theorem Spells.decodeBody? (h : Spells written cs) :
    decodeBody? (written ++ ['"']) = some cs := by
  induction h with
  | nil => rfl
  | plain hquote hslash hline _ ih =>
    rw [List.cons_append, Quoted.decodeBody?, ih]
    · simp [hline, hslash]
    · exact hquote
    · exact fun _ _ _ _ _ heq => absurd heq hslash
    · exact fun _ _ heq => absurd heq hslash
  | letter hletter _ ih =>
    have hne := ne_of_ofLetter?_eq_some hletter
    rw [List.cons_append, List.cons_append, Quoted.decodeBody?, hletter, ih]
    · rfl
    · simpa using fun _ _ _ _ _ heq _ => hne heq
  | numbered hnumber hvalid _ ih =>
    simp only [List.cons_append, Quoted.decodeBody?, hnumber, ih]
    simp [hvalid]

/-- What the reader accepts obeys the rules. -/
theorem exists_spells_of_decodeBody? (h : decodeBody? literal = some cs) :
    ∃ written, literal = written ++ ['"'] ∧ Spells written cs := by
  -- Along the reader: the closing quote, an escape of either kind, a character for itself.
  fun_induction decodeBody? literal generalizing cs with
  | case1 => simp at h
  | case2 rest hempty =>
    obtain rfl := Option.some.inj h
    exact ⟨[], by simp [List.isEmpty_iff.1 hempty], .nil⟩
  | case3 => simp at h
  | case4 a b c d rest ih =>
    obtain ⟨n, hnumber, h⟩ := Option.bind_eq_some_iff.1 h
    split at h
    · rename_i hvalid
      obtain ⟨text, htext, heq⟩ := Option.bind_eq_some_iff.1 h
      obtain rfl := Option.some.inj heq
      obtain ⟨written, rfl, hspells⟩ := ih htext
      exact ⟨_, rfl, .numbered hnumber hvalid hspells⟩
    · simp at h
  | case5 letter rest _ ih =>
    obtain ⟨c, hletter, h⟩ := Option.bind_eq_some_iff.1 h
    obtain ⟨text, htext, heq⟩ := Option.bind_eq_some_iff.1 h
    obtain rfl := Option.some.inj heq
    obtain ⟨written, rfl, hspells⟩ := ih htext
    exact ⟨_, rfl, .letter hletter hspells⟩
  | case6 => simp at h
  | case7 c rest hquote _ _ hplain ih =>
    obtain ⟨hline, hslash⟩ := not_or.1 hplain
    obtain ⟨text, htext, heq⟩ := Option.bind_eq_some_iff.1 h
    obtain rfl := Option.some.inj heq
    obtain ⟨written, rfl, hspells⟩ := ih htext
    exact ⟨_, rfl, .plain hquote hslash hline hspells⟩

/-- **The reader of literals follows the rules.** -/
theorem decode?_eq_some_iff : decode? literal = some cs ↔
    ∃ written, literal = '"' :: (written ++ ['"']) ∧ Spells written cs := by
  constructor
  · intro h
    unfold decode? at h
    split at h
    · obtain ⟨written, rfl, hspells⟩ := exists_spells_of_decodeBody? h
      exact ⟨written, rfl, hspells⟩
    · simp at h
  · rintro ⟨written, rfl, hspells⟩
    exact hspells.decodeBody?

/-- **A literal spells one text at most.** -/
theorem Spells.unique {other : List Char} (h : Spells written cs) (h' : Spells written other) :
    cs = other :=
  Option.some.inj (h.decodeBody?.symm.trans h'.decodeBody?)

/-! ## Quotes inside a literal -/

/-- The number of backslashes that a text ends in. -/
def backslashes (cs : List Char) : Nat :=
  (cs.reverse.takeWhile (· == '\\')).length

theorem backslashes_of_forall (h : ∀ c ∈ cs, c = '\\') : backslashes cs = cs.length := by
  rw [backslashes, List.takeWhile_eq_self_iff.2, List.length_reverse]
  intro c hc
  exact beq_iff_eq.2 (h c (List.mem_reverse.1 hc))

/-- In front of a text that is not all backslashes nothing counts. -/
theorem backslashes_cons (c : Char) (h : ¬ ∀ d ∈ cs, d = '\\') :
    backslashes (c :: cs) = backslashes cs := by
  rw [backslashes, List.reverse_cons, List.takeWhile_append, if_neg]
  · rfl
  · intro hlength
    have hall := List.takeWhile_eq_self_iff.1
      (((List.takeWhile_prefix _).sublist).eq_of_length hlength)
    exact h fun d hd => eq_of_beq (hall d (List.mem_reverse.2 hd))

theorem backslashes_cons_of_ne {c : Char} (hc : c ≠ '\\') (cs : List Char) :
    backslashes (c :: cs) = backslashes cs := by
  by_cases hall : ∀ d ∈ cs, d = '\\'
  · rw [backslashes_of_forall hall, backslashes, List.reverse_cons,
      List.takeWhile_append_of_pos]
    · simp [hc]
    · intro d hd
      exact beq_iff_eq.2 (hall d (List.mem_reverse.1 hd))
  · exact backslashes_cons c hall

/-- An escape in front changes nothing: it adds two backslashes, or none. -/
theorem odd_backslashes_escape (letter : Char) (h : Odd (backslashes cs)) :
    Odd (backslashes ('\\' :: letter :: cs)) := by
  by_cases hletter : letter = '\\'
  · subst hletter
    by_cases hall : ∀ d ∈ cs, d = '\\'
    · rw [backslashes_of_forall hall] at h
      rw [backslashes_of_forall (by simpa using hall)]
      exact h.add_even even_two
    · rw [backslashes_cons _ (by simpa using hall), backslashes_cons _ hall]
      exact h
  · rw [backslashes_cons _ (by simp [hletter]), backslashes_cons_of_ne hletter]
    exact h

theorem digit?_of_number? {read n : Nat} {c : Char} (h : number? read cs = some n) (hc : c ∈ cs) :
    ∃ d, digit? c = some d := by
  induction cs generalizing read with
  | nil => simp at hc
  | cons first rest ih =>
    obtain ⟨d, hdigit, h⟩ := Option.bind_eq_some_iff.1 h
    rcases List.mem_cons.1 hc with rfl | hc
    · exact ⟨d, hdigit⟩
    · exact ih h hc

theorem ne_of_digit? {c : Char} {d : Nat} (h : digit? c = some d) : c ≠ '"' ∧ c ≠ '\\' := by
  constructor <;> rintro rfl <;> simp [digit?] at h

/-- What stands in front of a quote goes on behind a front without quotes. -/
theorem exists_of_append_eq {front rest before after : List Char} (hfront : '"' ∉ front)
    (h : front ++ rest = before ++ '"' :: after) :
    ∃ more, before = front ++ more ∧ rest = more ++ '"' :: after := by
  rcases List.append_eq_append_iff.1 h with ⟨more, rfl, hrest⟩ | ⟨cut, rfl, hcut⟩
  · exact ⟨more, rfl, hrest⟩
  · cases cut with
    | nil => exact ⟨[], by simp, hcut.symm⟩
    | cons c cut =>
      obtain ⟨rfl, -⟩ := List.cons.inj hcut
      simp at hfront

/-- **No quote inside a literal ends it**: it stands behind an odd number of backslashes. -/
theorem Spells.odd_backslashes (h : Spells written cs) {before after : List Char}
    (hquote : written = before ++ '"' :: after) : Odd (backslashes before) := by
  induction h generalizing before with
  | nil => simp at hquote
  | @plain c _ _ hne hslash _ _ ih =>
    cases before with
    | nil => exact absurd (List.cons.inj hquote).1 hne
    | cons d before =>
      obtain ⟨rfl, hrest⟩ := List.cons.inj hquote
      rw [backslashes_cons_of_ne hslash]
      exact ih hrest
  | @letter letter _ _ _ _ _ ih =>
    rcases before with _ | ⟨d, _ | ⟨e, before⟩⟩
    · simp at hquote
    · obtain ⟨rfl, -⟩ := List.cons.inj hquote
      decide
    · simp only [List.cons_append, List.cons.injEq] at hquote
      obtain ⟨rfl, rfl, hrest⟩ := hquote
      exact odd_backslashes_escape letter (ih hrest)
  | @numbered a b c d _ _ _ hnumber _ _ ih =>
    have hdigits : ∀ e ∈ [a, b, c, d], e ≠ '"' ∧ e ≠ '\\' := by
      intro e he
      obtain ⟨value, hvalue⟩ := digit?_of_number? hnumber he
      exact ne_of_digit? hvalue
    simp only [List.forall_mem_cons, List.not_mem_nil, false_imp_iff, implies_true,
      and_true] at hdigits
    obtain ⟨ha, hb, hc, hd⟩ := hdigits
    have hfront : '"' ∉ ['\\', 'u', a, b, c, d] := by
      simp [ha.1.symm, hb.1.symm, hc.1.symm, hd.1.symm]
    obtain ⟨more, rfl, hrest⟩ := exists_of_append_eq hfront hquote
    have hmore := ih hrest
    rw [← backslashes_cons_of_ne hd.2, ← backslashes_cons_of_ne hc.2,
      ← backslashes_cons_of_ne hb.2, ← backslashes_cons_of_ne ha.2] at hmore
    exact odd_backslashes_escape 'u' hmore

/-! ## Digits and escapes -/

theorem ofLetter?_of_shortEscape? {c letter : Char} (h : shortEscape? c = some letter) :
    ofLetter? letter = some c ∧ letter ≠ 'u' := by
  unfold shortEscape? at h
  split at h <;> simp only [Option.some.injEq, reduceCtorEq] at h <;> subst h <;> decide

/-- A character without an escape of its own is neither the quote nor the backslash, and no end of a
line. -/
theorem ne_of_shortEscape?_eq_none {c : Char} (h : shortEscape? c = none) :
    c ≠ '"' ∧ c ≠ '\\' ∧ c ≠ '\n' := by
  refine ⟨?_, ?_, ?_⟩ <;> rintro rfl <;> simp [shortEscape?] at h

theorem hexDigits_four (n : Nat) : hexDigits 4 n = [Nat.digitChar (n / 16 / 16 / 16 % 16),
    Nat.digitChar (n / 16 / 16 % 16), Nat.digitChar (n / 16 % 16), Nat.digitChar (n % 16)] :=
  rfl

theorem digit?_digitChar {d : Nat} (h : d < 16) : digit? (Nat.digitChar d) = some d := by
  revert d
  decide

theorem number?_append_singleton (read : Nat) (cs : List Char) (c : Char) :
    number? read (cs ++ [c])
      = (number? read cs).bind fun n => (digit? c).map fun d => n * 16 + d := by
  induction cs generalizing read with
  | nil => cases h : digit? c <;> simp [number?, h]
  | cons first rest ih =>
    cases h : digit? first with
    | none => simp [number?, h]
    | some d => simpa [number?, h] using ih _

/-- **A number is read from its last digits as it was written**, behind the digits read before. -/
theorem number?_hexDigits (read width n : Nat) :
    number? read (hexDigits width n) = some (read * 16 ^ width + n % 16 ^ width) := by
  induction width generalizing n with
  | zero => simp [hexDigits, number?, Nat.mod_one]
  | succ width ih =>
    have hpow : n % 16 ^ (width + 1) = n / 16 % 16 ^ width * 16 + n % 16 := by
      rw [pow_succ', Nat.mod_mul]
      omega
    rw [hexDigits, number?_append_singleton, ih, digit?_digitChar (Nat.mod_lt _ (by decide)), hpow]
    simp only [Option.bind_some, Option.map_some, Option.some.injEq]
    ring

/-! ## Quoting -/

/-- What is written for a character spells it in front of the rest. -/
theorem spells_encodeChar (c : Char) (h : Spells written cs) :
    Spells (encodeChar c ++ written) (c :: cs) := by
  unfold encodeChar
  cases hshort : shortEscape? c with
  | some letter => exact .letter (ofLetter?_of_shortEscape? hshort).1 h
  | none =>
    obtain ⟨hquote, hslash, hline⟩ := ne_of_shortEscape?_eq_none hshort
    dsimp only
    split
    · -- A control: its four digits give back its number.
      rename_i hcontrol
      have hnumber : number? 0 (hexDigits 4 c.toNat) = some c.toNat := by
        rw [number?_hexDigits, Nat.zero_mul, Nat.zero_add, Nat.mod_eq_of_lt (by omega)]
      have hspells := Spells.numbered hnumber c.valid h
      rwa [Char.ofNat_toNat] at hspells
    · exact .plain hquote hslash hline h

/-- **What is written for a text spells the text.** -/
theorem spells_encode (cs : List Char) : Spells (cs.flatMap encodeChar) cs := by
  induction cs with
  | nil => exact .nil
  | cons c rest ih => exact spells_encodeChar c ih

/-- **The literal of a text is read as the text.** -/
theorem decode?_encode (cs : List Char) : decode? (encode cs) = some cs :=
  decode?_eq_some_iff.2 ⟨_, rfl, spells_encode cs⟩

theorem le_of_shortEscape? {c letter : Char} (h : shortEscape? c = some letter) :
    0x20 ≤ letter.toNat := by
  unfold shortEscape? at h
  split at h <;> simp only [Option.some.injEq, reduceCtorEq] at h <;> subst h <;> decide

theorem le_of_mem_hexDigits {width n : Nat} {d : Char} (h : d ∈ hexDigits width n) :
    0x20 ≤ d.toNat := by
  have hdigit : ∀ n < 16, 0x20 ≤ (Nat.digitChar n).toNat := by decide
  induction width generalizing n with
  | zero => simp [hexDigits] at h
  | succ width ih =>
    rcases List.mem_append.1 h with h | h
    · exact ih h
    · rw [List.mem_singleton.1 h]
      exact hdigit _ (Nat.mod_lt _ (by decide))

/-- No control is left as it is. -/
theorem le_of_mem_encodeChar {c d : Char} (h : d ∈ encodeChar c) : 0x20 ≤ d.toNat := by
  unfold encodeChar at h
  cases hshort : shortEscape? c with
  | some letter =>
    rw [hshort] at h
    rcases List.mem_cons.1 h with rfl | h
    · decide
    · rw [List.mem_singleton.1 h]
      exact le_of_shortEscape? hshort
  | none =>
    rw [hshort] at h
    dsimp only at h
    split at h
    · rcases List.mem_cons.1 h with rfl | h
      · decide
      · rcases List.mem_cons.1 h with rfl | h
        · decide
        · exact le_of_mem_hexDigits h
    · rename_i hcontrol
      rw [List.mem_singleton.1 h]
      exact Nat.le_of_not_lt hcontrol

end Quoted

/-- The text that a literal stands for, if it is one. -/
def unquote? (literal : String) : Option String :=
  (Quoted.decode? literal.toList).map String.ofList

theorem toList_quote (s : String) :
    (quote s).toList = '"' :: (s.toList.flatMap Quoted.encodeChar ++ ['"']) := by
  rw [quote, String.toList_ofList]
  rfl

/-- **Quoting is undone by reading the literal.** -/
theorem unquote?_quote (s : String) : unquote? (quote s) = some s := by
  rw [unquote?, quote, String.toList_ofList, Quoted.decode?_encode, Option.map_some,
    String.ofList_toList]

/-- A literal is one line. -/
theorem newline_not_mem_quote (s : String) : '\n' ∉ (quote s).toList := by
  rw [toList_quote, List.mem_cons, List.mem_append, List.mem_singleton]
  rintro (h | h | h)
  · exact absurd h (by decide)
  · obtain ⟨d, -, h⟩ := List.mem_flatMap.1 h
    exact absurd (Quoted.le_of_mem_encodeChar h) (by decide)
  · exact absurd h (by decide)

/-- **What a text is quoted as is one literal.**  Between its two quotes stands no control as it is
and no quote that could end it, and by the rules of literals these characters spell the text and no
other; reading the literal gives the text back. -/
theorem quote_isLiteral (s : String) :
    ∃ written : List Char, (quote s).toList = '"' :: (written ++ ['"']) ∧
      (∀ c ∈ written, 0x20 ≤ c.toNat) ∧
      (∀ before after, written = before ++ '"' :: after → Odd (Quoted.backslashes before)) ∧
      (∀ text, Quoted.Spells written text ↔ text = s.toList) ∧
      unquote? (quote s) = some s := by
  have hspells := Quoted.spells_encode s.toList
  refine ⟨s.toList.flatMap Quoted.encodeChar, toList_quote s, ?_, ?_, ?_, unquote?_quote s⟩
  · intro c hc
    obtain ⟨d, -, hc⟩ := List.mem_flatMap.1 hc
    exact Quoted.le_of_mem_encodeChar hc
  · exact fun before after => hspells.odd_backslashes
  · intro text
    constructor
    · exact fun h => h.unique hspells
    · rintro rfl
      exact hspells

end ClientGen.Text
