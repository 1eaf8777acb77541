import ClientGen.Json.Printer
import ClientGen.Proofs.Json.Number
import ClientGen.Proofs.Json.Proper

/-!
# Values are read back

A proper value is read back from the text that it is written as, with its parts on lines of their
own.  The text of a part is read in front of anything with which no number goes on, since a line
end, a comma or a closing bracket always comes next.

## Main definitions

* `Reader.Reads` — a text stands for a value, whatever comes behind it.

## Main results

* `Reader.string_encode` — what a text is quoted as is read back.
* `Reader.reads_prettyAt` — the text of a proper value stands for it.
* `parse_pretty` — a proper value is read back.
* `parse_pretty_obj` — so is an object, once of several values of a name only the last one is kept.
-/

namespace ClientGen.Json

namespace Reader

open Text (Quoted.encodeChar Quoted.shortEscape? Quoted.numbered)

/-! ## Strings -/

theorem letterEscape?_of_shortEscape? {c letter : Char} (h : Quoted.shortEscape? c = some letter) :
    letterEscape? letter = some c ∧ letter ≠ 'u' := by
  unfold Quoted.shortEscape? at h
  split at h <;> first | (obtain rfl := Option.some.inj h; decide) | simp at h

/-- The escape of a control by its number, in front of anything. -/
theorem numberedEscape_hexDigits {n : Nat} (h : n < 0x20) {rest : List Char} (hrest : rest ≠ []) :
    numberedEscape (Text.Quoted.hexDigits 4 n ++ rest) = .ok (Char.ofNat n, rest) := by
  have hall : ∀ n < 0x20, (Text.Quoted.hexDigits 4 n).length = 4 ∧
      hexNumber? (Text.Quoted.hexDigits 4 n) = some n ∧ isHighSurrogate n = false ∧
      character n = Char.ofNat n := by
    decide
  obtain ⟨hlength, hnumber, hhigh, hcharacter⟩ := hall n h
  have hlong : ¬ (Text.Quoted.hexDigits 4 n ++ rest).length ≤ 4 := by
    rw [List.length_append, hlength]
    have := List.length_pos_iff.2 hrest
    omega
  have hfour : fourDigits (Text.Quoted.hexDigits 4 n ++ rest) = .ok (n, rest) := by
    rw [fourDigits, if_neg hlong, List.take_left' hlength, List.drop_left' hlength, hnumber]
  rw [numberedEscape, hfour, ← hcharacter]
  simp only [bind, Except.bind, hhigh, Bool.false_and, Bool.false_eq_true, if_false]
  split <;> rfl

/-- A character inside a literal is read as itself. -/
theorem stringBody_encodeChar (start fuel : Nat) (done : List Char) (c : Char) {rest : List Char}
    (hrest : rest ≠ []) :
    stringBody start (fuel + 1) done (Quoted.encodeChar c ++ rest)
      = stringBody start fuel (c :: done) rest := by
  unfold Quoted.encodeChar
  split
  · rename_i letter hshort
    obtain ⟨hescape, hne⟩ := letterEscape?_of_shortEscape? hshort
    rw [List.cons_append, List.singleton_append, stringBody, if_neg (by decide), if_pos rfl]
    · simp [hescape]
    · exact fun heq => absurd heq hne
  · rename_i hshort
    split
    · rename_i hcontrol
      simp [stringBody, Quoted.numbered, numberedEscape_hexDigits hcontrol hrest, bind, Except.bind]
    · rename_i hcontrol
      have hquote : c ≠ '"' := by
        rintro rfl
        simp [Quoted.shortEscape?] at hshort
      have hslash : c ≠ '\\' := by
        rintro rfl
        simp [Quoted.shortEscape?] at hshort
      simp only [List.singleton_append, stringBody, hquote, hslash, hcontrol, if_false]

/-- A literal is read to its closing quote. -/
theorem stringBody_flatMap (start : Nat) {fuel : Nat} (done : List Char) {cs : List Char}
    (rest : List Char) (hfuel : cs.length < fuel) :
    stringBody start fuel done (cs.flatMap Quoted.encodeChar ++ '"' :: rest)
      = .ok (String.ofList (done.reverse ++ cs), rest) := by
  induction cs generalizing fuel done with
  | nil =>
    obtain ⟨fuel, rfl⟩ := Nat.exists_eq_add_of_lt hfuel
    simp [stringBody]
  | cons c cs ih =>
    obtain ⟨fuel, rfl⟩ : ∃ more, fuel = more + 1 := ⟨fuel - 1, by omega⟩
    rw [List.length_cons] at hfuel
    rw [List.flatMap_cons, List.append_assoc, stringBody_encodeChar _ _ _ _ (by simp),
      ih _ (by omega), List.reverse_cons, List.append_assoc, List.singleton_append]

theorem length_le_length_flatMap (cs : List Char) :
    cs.length ≤ (cs.flatMap Quoted.encodeChar).length := by
  induction cs with
  | nil => exact Nat.le_refl 0
  | cons c cs ih =>
    have hne : 0 < (Quoted.encodeChar c).length := by
      unfold Quoted.encodeChar
      split
      · simp
      · split <;> simp [Quoted.numbered]
    rw [List.flatMap_cons, List.length_append, List.length_cons]
    omega

/-- **What a text is quoted as is read back.** -/
theorem string_flatMap (s : String) (rest : List Char) :
    string (s.toList.flatMap Quoted.encodeChar ++ '"' :: rest) = .ok (s, rest) := by
  have hlength := length_le_length_flatMap s.toList
  rw [string, stringBody_flatMap _ _ _ (by rw [List.length_append]; omega)]
  simp

/-! ## Parts of a value -/

/-- A text stands for a value, whatever comes behind it that does not go on with a number. -/
def Reads (text : List Char) (found : Json) : Prop :=
  ∀ fuel rest, EndsNumber rest → 2 * text.length ≤ fuel →
    value fuel {} (text ++ rest) = .ok (found, rest)

/-- No value starts with white space, a closing bracket or a byte order mark. -/
theorem value_ne_ok {c : Char} (hc : isSpace c = true ∨ c = ']' ∨ c = '\ufeff') (fuel : Nat)
    (cs : List Char) (read : Front Json) : value fuel {} (c :: cs) ≠ .ok read := by
  simp only [isSpace, Bool.or_eq_true, beq_iff_eq] at hc
  cases fuel with
  | zero => simp [value]
  | succ fuel =>
    rcases hc with (((rfl | rfl) | rfl) | rfl) | rfl | rfl <;>
      simp [value, plain, word?, words, unsigned?]

theorem Reads.start {text : List Char} {found : Json} (h : Reads text found) :
    ∃ c others, text = c :: others ∧ isSpace c = false ∧ c ≠ ']' ∧ c ≠ '\ufeff' := by
  have hread := h (2 * text.length + 1) [] (by simp [EndsNumber]) (by omega)
  cases text with
  | nil => cases hread
  | cons c others =>
    refine ⟨c, others, rfl, ?_⟩
    by_contra hc
    refine value_ne_ok ?_ _ _ _ hread
    by_contra hother
    simp only [not_or, Bool.not_eq_true] at hother
    exact hc hother

theorem skip_append (space : List Char) {cs : List Char} (hspace : ∀ c ∈ space, isSpace c = true)
    (hcs : ∀ c ∈ cs.head?, isSpace c = false) : skip (space ++ cs) = cs := by
  rw [skip, List.dropWhile_append_of_pos hspace]
  cases cs with
  | nil => rfl
  | cons c cs => simp [hcs c rfl]

theorem toList_lineStart (level : Nat) :
    (lineStart level).toList = '\n' :: List.replicate (2 * level) ' ' := by
  simp [lineStart]

theorem skip_lineStart (level : Nat) {cs : List Char} (hcs : ∀ c ∈ cs.head?, isSpace c = false) :
    skip ((lineStart level).toList ++ cs) = cs := by
  refine skip_append _ (fun c hc => ?_) hcs
  rw [toList_lineStart, List.mem_cons] at hc
  rcases hc with rfl | hc
  · rfl
  · rw [List.eq_of_mem_replicate hc]
    rfl

theorem endsNumber_lineStart (level : Nat) (rest : List Char) :
    EndsNumber ((lineStart level).toList ++ rest) := by
  intro c hc
  rw [toList_lineStart] at hc
  obtain rfl : '\n' = c := by simpa using hc
  decide

theorem endsNumber_comma (rest : List Char) : EndsNumber (',' :: rest) := by
  intro c hc
  obtain rfl : ',' = c := by simpa using hc
  decide

/-! ## Items and entries -/

/-- Parts on lines of their own, with commas between them. -/
def joined (level : Nat) (parts : List String) : List Char :=
  (("," ++ lineStart level).intercalate parts).toList

theorem joined_singleton (level : Nat) (part : String) : joined level [part] = part.toList := by
  rw [joined, String.intercalate_singleton]

theorem joined_cons_cons (level : Nat) (part second : String) (others : List String) :
    joined level (part :: second :: others)
      = part.toList ++ ',' :: ((lineStart level).toList ++ joined level (second :: others)) := by
  rw [joined, String.intercalate_cons_cons, String.toList_append, String.toList_append,
    String.toList_append, List.append_assoc, List.append_assoc]
  rfl

theorem toList_bracketed {opening closing : String} {level : Nat} {parts : List String}
    (h : parts ≠ []) : (bracketed opening closing level parts).toList
      = opening.toList ++ ((lineStart (level + 1)).toList ++ (joined (level + 1) parts
        ++ ((lineStart level).toList ++ closing.toList))) := by
  rw [bracketed, if_neg (by simpa using h)]
  simp only [String.toList_append, List.append_assoc, joined]

/-- The white space in front of some parts is skipped, and no more. -/
theorem exists_skip_joined (level : Nat) {part : String} {c : Char} {more : List Char}
    (h : part.toList = c :: more) (hc : isSpace c = false) (others : List String)
    (rest : List Char) :
    ∃ tail, joined level (part :: others) ++ rest = c :: tail ∧
      skip ((lineStart level).toList ++ (joined level (part :: others) ++ rest)) = c :: tail := by
  obtain ⟨tail, htail⟩ : ∃ tail, joined level (part :: others) = c :: tail := by
    cases others with
    | nil => exact ⟨more, by rw [joined_singleton, h]⟩
    | cons second others => exact ⟨_, by rw [joined_cons_cons, h, List.cons_append]⟩
  refine ⟨tail ++ rest, by rw [htail, List.cons_append], ?_⟩
  rw [htail, List.cons_append, skip_lineStart]
  intro d hd
  obtain rfl : c = d := by simpa using hd
  exact hc

/-- The items of an array are read to the closing bracket. -/
theorem items_joined (level : Nat) {part : String} {parts : List String} {item : Json}
    {found : List Json} (hpart : Reads part.toList item)
    (hparts : List.Forall₂ (fun part item => Reads part.toList item) parts found)
    (done : List Json) {fuel : Nat} (hfuel : 2 * (joined level (part :: parts)).length ≤ fuel)
    (outer : Nat) (rest : List Char) :
    items (fuel + 1) {} done
        (joined level (part :: parts) ++ ((lineStart outer).toList ++ ']' :: rest))
      = .ok (done.reverse ++ item :: found, rest) := by
  induction hparts generalizing part item done fuel with
  | nil =>
    have hclose : skip ((lineStart outer).toList ++ ']' :: rest) = ']' :: rest :=
      skip_lineStart outer (by simp [isSpace])
    rw [joined_singleton] at hfuel ⊢
    rw [items, hpart _ _ (endsNumber_lineStart _ _) hfuel]
    simp [bind, Except.bind, hclose, pure, Except.pure]
  | @cons second next parts found hsecond _ ih =>
    rw [joined_cons_cons, List.length_append, List.length_cons, List.length_append] at hfuel
    obtain ⟨fuel, rfl⟩ : ∃ more, fuel = more + 1 := ⟨fuel - 1, by omega⟩
    obtain ⟨c, more, htext, hc, -⟩ := hsecond.start
    obtain ⟨tail, htail, hskip⟩ := exists_skip_joined level htext hc parts
      ((lineStart outer).toList ++ ']' :: rest)
    rw [joined_cons_cons, List.append_assoc, List.cons_append, List.append_assoc, items,
      hpart _ _ (endsNumber_comma _) (by omega)]
    -- The comma sends the reader on, to where the next line has its text.
    change items (fuel + 1) {} (item :: done) (skip _) = _
    rw [hskip, ← htail, ih hsecond (item :: done) (by omega), List.reverse_cons, List.append_assoc,
      List.singleton_append]

/-- A part stands for an entry: a name, and a text that stands for the value. -/
def ReadsEntry (part : String) (field : String × Json) : Prop :=
  ∃ text, part = Text.quote field.1 ++ ": " ++ text ∧ Reads text.toList field.2

theorem toList_entry (key text : String) : (Text.quote key ++ ": " ++ text).toList
    = '"' :: (key.toList.flatMap Quoted.encodeChar ++ '"' :: ':' :: ' ' :: text.toList) := by
  simp [Text.quote, Text.Quoted.encode]

theorem ReadsEntry.start {part : String} {field : String × Json} (h : ReadsEntry part field) :
    ∃ more, part.toList = '"' :: more := by
  obtain ⟨text, rfl, -⟩ := h
  exact ⟨_, toList_entry _ _⟩

/-- An entry is read to what ends it. -/
theorem ReadsEntry.members {part : String} {field : String × Json} (h : ReadsEntry part field)
    (done : List (String × Json)) {fuel : Nat} {rest : List Char}
    (hfuel : 2 * part.toList.length ≤ fuel) (hrest : EndsNumber rest) :
    members (fuel + 1) {} done (part.toList ++ rest) =
      match skip rest with
      | '\x7d' :: rest => .ok (Entries.put field.1 field.2 done, rest)
      | ',' :: rest => members fuel {} (Entries.put field.1 field.2 done) (skip rest)
      | rest => .error (.fault .commaWanted rest.length) := by
  obtain ⟨text, rfl, hread⟩ := h
  obtain ⟨c, others, htext, hc, -⟩ := hread.start
  have hskip : skip (' ' :: (text.toList ++ rest)) = text.toList ++ rest :=
    skip_append [' '] (List.forall_mem_singleton.2 rfl) (by simp [htext, hc])
  rw [toList_entry] at hfuel ⊢
  simp only [List.length_cons, List.length_append] at hfuel
  rw [List.cons_append, List.append_assoc, Reader.members, List.cons_append, List.cons_append,
    List.cons_append, string_flatMap]
  change (value fuel {} (skip (' ' :: (text.toList ++ rest))) >>= _) = _
  rw [hskip, hread _ _ hrest (by omega)]
  rfl

/-- The entries of an object are read to the closing bracket. -/
theorem members_joined (level : Nat) {part : String} {parts : List String}
    {field : String × Json} {fields : List (String × Json)} (hpart : ReadsEntry part field)
    (hparts : List.Forall₂ ReadsEntry parts fields) (done : List (String × Json)) {fuel : Nat}
    (hfuel : 2 * (joined level (part :: parts)).length ≤ fuel) (outer : Nat) (rest : List Char) :
    members (fuel + 1) {} done
        (joined level (part :: parts) ++ ((lineStart outer).toList ++ '\x7d' :: rest))
      = .ok (Entries.putAll (field :: fields) done, rest) := by
  induction hparts generalizing part field done fuel with
  | nil =>
    have hclose : skip ((lineStart outer).toList ++ '\x7d' :: rest) = '\x7d' :: rest :=
      skip_lineStart outer (by simp [isSpace])
    rw [joined_singleton] at hfuel ⊢
    rw [hpart.members _ hfuel (endsNumber_lineStart _ _), hclose]
    rfl
  | @cons second next parts fields hsecond _ ih =>
    rw [joined_cons_cons, List.length_append, List.length_cons, List.length_append] at hfuel
    obtain ⟨fuel, rfl⟩ : ∃ more, fuel = more + 1 := ⟨fuel - 1, by omega⟩
    obtain ⟨more, htext⟩ := hsecond.start
    obtain ⟨tail, htail, hskip⟩ := exists_skip_joined level htext (by decide) parts
      ((lineStart outer).toList ++ '\x7d' :: rest)
    rw [joined_cons_cons, List.append_assoc, List.cons_append, List.append_assoc,
      hpart.members _ (by omega) (endsNumber_comma _)]
    change members (fuel + 1) {} (Entries.put field.1 field.2 done) (skip _) = _
    rw [hskip, ← htail, ih hsecond _ (by omega)]
    rfl

/-! ## Values -/

theorem forall₂_prettyItems {level : Nat} {found : List Json}
    (h : ∀ item ∈ found, Reads (prettyAt level item).toList item) :
    List.Forall₂ (fun part item => Reads part.toList item) (prettyItems level found) found := by
  induction found with
  | nil => exact .nil
  | cons item others ih =>
    obtain ⟨hitem, hothers⟩ := List.forall_mem_cons.1 h
    exact .cons hitem (ih hothers)

theorem forall₂_prettyFields {level : Nat} {fields : List (String × Json)}
    (h : ∀ field ∈ fields, Reads (prettyAt level field.2).toList field.2) :
    List.Forall₂ ReadsEntry (prettyFields level fields) fields := by
  induction fields with
  | nil => exact .nil
  | cons field others ih =>
    obtain ⟨hfield, hothers⟩ := List.forall_mem_cons.1 h
    exact .cons ⟨_, rfl, hfield⟩ (ih hothers)

theorem value_arr {fuel : Nat} {cs tail rest : List Char} {c : Char} {found : List Json}
    (hskip : skip cs = c :: tail) (hc : c ≠ ']')
    (h : items fuel {} [] (c :: tail) = .ok (found, rest)) :
    value (fuel + 1) {} ('[' :: cs) = .ok (.arr found, rest) := by
  simp [value, inside, hskip, hc, h, bind, Except.bind, pure, Except.pure]

theorem value_obj {fuel : Nat} {cs tail rest : List Char} {c : Char}
    {fields : List (String × Json)} (hskip : skip cs = c :: tail) (hc : c ≠ '\x7d')
    (h : members fuel {} [] (c :: tail) = .ok (fields, rest)) :
    value (fuel + 1) {} ('\x7b' :: cs) = .ok (.obj fields, rest) := by
  simp [value, inside, hskip, hc, h, bind, Except.bind, pure, Except.pure]

/-- An array stands between brackets. -/
theorem reads_bracketed_arr (level : Nat) {parts : List String} {found : List Json}
    (h : List.Forall₂ (fun part item => Reads part.toList item) parts found) :
    Reads (bracketed "[" "]" level parts).toList (.arr found) := by
  intro fuel rest hrest hfuel
  have hopen : "[".toList = ['['] := rfl
  have hclose : "]".toList = [']'] := rfl
  cases h with
  | nil =>
    have htext : (bracketed "[" "]" level []).toList = ['[', ']'] := by simp [bracketed]
    rw [htext] at hfuel ⊢
    obtain ⟨fuel, rfl⟩ := Nat.exists_eq_add_of_le' hfuel
    rfl
  | @cons part item parts found hpart hparts =>
    obtain ⟨c, more, htext, hc, hbracket, -⟩ := hpart.start
    obtain ⟨tail, htail, hskip⟩ := exists_skip_joined (level + 1) htext hc parts
      ((lineStart level).toList ++ ']' :: rest)
    rw [toList_bracketed (by simp), hopen, hclose] at hfuel ⊢
    simp only [List.length_cons, List.length_append] at hfuel
    obtain ⟨fuel, rfl⟩ : ∃ more, fuel = more + 2 := ⟨fuel - 2, by omega⟩
    have hread := items_joined (level + 1) hpart hparts [] (by omega : _ ≤ fuel) level rest
    simp only [List.cons_append, List.append_assoc, List.nil_append]
    exact value_arr hskip hbracket (htail ▸ hread)

/-- An object stands between brackets; of several entries of a name the last one is kept. -/
theorem reads_bracketed_obj (level : Nat) {parts : List String} {fields : List (String × Json)}
    (h : List.Forall₂ ReadsEntry parts fields) :
    Reads (bracketed "\x7b" "\x7d" level parts).toList (.obj (Entries.ofPairs fields)) := by
  intro fuel rest hrest hfuel
  have hopen : "\x7b".toList = ['\x7b'] := rfl
  have hclose : "\x7d".toList = ['\x7d'] := rfl
  cases h with
  | nil =>
    have htext : (bracketed "\x7b" "\x7d" level []).toList = ['\x7b', '\x7d'] := by
      simp [bracketed]
    rw [htext] at hfuel ⊢
    obtain ⟨fuel, rfl⟩ := Nat.exists_eq_add_of_le' hfuel
    rfl
  | @cons part field parts fields hpart hparts =>
    obtain ⟨more, htext⟩ := hpart.start
    obtain ⟨tail, htail, hskip⟩ := exists_skip_joined (level + 1) htext (by decide) parts
      ((lineStart level).toList ++ '\x7d' :: rest)
    rw [toList_bracketed (by simp), hopen, hclose] at hfuel ⊢
    simp only [List.length_cons, List.length_append] at hfuel
    obtain ⟨fuel, rfl⟩ : ∃ more, fuel = more + 2 := ⟨fuel - 2, by omega⟩
    have hread := members_joined (level + 1) hpart hparts [] (by omega : _ ≤ fuel) level rest
    simp only [List.cons_append, List.append_assoc, List.nil_append]
    exact value_obj hskip (by decide) (htail ▸ hread)

/-- A word or a number stands for its value. -/
theorem reads_of_plain {text : List Char} {found : Json}
    (h : ∀ rest, EndsNumber rest → plain {} (text ++ rest) = .ok (found, rest)) :
    Reads text found := by
  intro fuel rest hrest hfuel
  have hread := h [] (by simp [EndsNumber])
  cases text with
  | nil => cases hread
  | cons c others =>
    rw [List.length_cons] at hfuel
    obtain ⟨fuel, rfl⟩ : ∃ more, fuel = more + 1 := ⟨fuel - 1, by omega⟩
    have hne : ∀ d ∈ ['"', '\x7b', '['], c ≠ d := by
      rintro d hd rfl
      simp only [List.mem_cons, List.not_mem_nil, or_false] at hd
      rcases hd with rfl | rfl | rfl <;> simp [plain, word?, words, unsigned?] at hread
    rw [← h rest hrest, List.cons_append, value]
    · exact fun _ heq => hne '"' (by decide) (List.cons.inj heq).1
    · exact fun _ heq => hne '\x7b' (by decide) (List.cons.inj heq).1
    · exact fun _ heq => hne '[' (by decide) (List.cons.inj heq).1

/-- A quoted text stands for the text. -/
theorem reads_quote (s : String) : Reads (Text.quote s).toList (.str s) := by
  intro fuel rest _ hfuel
  have htext : (Text.quote s).toList = '"' :: (s.toList.flatMap Quoted.encodeChar ++ ['"']) := by
    simp [Text.quote, Text.Quoted.encode]
  rw [htext, List.length_cons] at hfuel
  obtain ⟨fuel, rfl⟩ : ∃ more, fuel = more + 1 := ⟨fuel - 1, by omega⟩
  rw [htext, List.cons_append, List.append_assoc, List.singleton_append, value, string_flatMap]
  rfl

/-- **The text of a proper value stands for it.** -/
theorem reads_prettyAt {found : Json} (h : found.IsProper) (level : Nat) :
    Reads (prettyAt level found).toList found := by
  induction h generalizing level with
  | null =>
    change Reads "null".toList null
    exact reads_of_plain fun _ _ => rfl
  | bool b =>
    cases b with
    | false =>
      change Reads "false".toList (bool false)
      exact reads_of_plain fun _ _ => rfl
    | true =>
      change Reads "true".toList (bool true)
      exact reads_of_plain fun _ _ => rfl
  | int n => exact reads_of_plain fun _ hrest => plain_int n hrest
  | real hnormal => exact reads_of_plain fun _ hrest => plain_real hnormal hrest
  | str s => exact reads_quote s
  | arr _ ih =>
    exact reads_bracketed_arr level
      (forall₂_prettyItems fun item hitem => ih item hitem (level + 1))
  | @obj fields hkeys _ ih =>
    have hread := reads_bracketed_obj level
      (forall₂_prettyFields fun field hfield => ih field hfield (level + 1))
    rwa [Entries.ofPairs_of_nodup hkeys] at hread

/-- A document that is one value. -/
theorem Reads.document {text : List Char} {found : Json} (h : Reads text found) :
    document {} text = .ok found := by
  obtain ⟨c, others, rfl, hspace, -, hmark⟩ := h.start
  have hskip : skip (c :: others) = c :: others := by simp [skip, hspace]
  have hread := h (2 * (c :: others).length + 2) [] (by simp [EndsNumber]) (by omega)
  rw [List.append_nil] at hread
  simp only [Reader.document, List.head?_cons, Option.some_beq_some, beq_iff_eq, hmark, if_false,
    hskip, hread]
  rfl

end Reader

/-- **A proper value is read back.** -/
theorem parse_pretty {value : Json} (h : value.IsProper) : parse value.pretty = .ok value := by
  rw [parse, pretty, (Reader.reads_prettyAt h 0).document]

/-- An object of proper values is read back; of several values of a name the last one is kept. -/
theorem parse_pretty_obj {fields : List (String × Json)} (h : ∀ field ∈ fields, field.2.IsProper) :
    parse (pretty (.obj fields)) = .ok (.obj (Entries.ofPairs fields)) := by
  have hread : Reader.Reads (prettyAt 0 (.obj fields)).toList (.obj (Entries.ofPairs fields)) :=
    Reader.reads_bracketed_obj 0
      (Reader.forall₂_prettyFields fun field hfield => Reader.reads_prettyAt (h field hfield) 1)
  rw [parse, pretty, hread.document]

end ClientGen.Json
