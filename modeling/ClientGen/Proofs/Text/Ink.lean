import ClientGen.Proofs.Text.Filling
import ClientGen.Proofs.Text.Trim

/-!
# Filling keeps every character that shows

Filling may break a paragraph anywhere: between words, after a hyphen, around a dash, and in the
middle of a word that is too wide for any line.  Whatever it does, the characters of a paragraph
that are not blank come out again, in their order.  Blanks are all that is dropped or changed: tabs
are expanded, and a blank chunk at the start or end of a line goes.

Where words may be cut, every line keeps the limit.  What fits is taken first; then a word that no
line could hold is cut, and the cut lies within the space that is left.

## Main definitions

* `ink` — the characters of a text that are not blank.

## Main results

* `ink_strip`, `ink_pieces`, `Wrap.ink_spaced` — what trimming, line feeds and spacers keep.
* `Wrap.ink_nextLine` — a line and the chunks behind it hold everything that shows.
* `ink_wrap` — the lines of a paragraph show what it shows.
* `length_le_of_mem_wrap` — lines keep the limit where words may be cut.
-/

namespace ClientGen.Text

/-- The characters of a text that are not blank. -/
def ink (cs : List Char) : List Char :=
  cs.filter fun c => !isBlank c

theorem ink_append (first second : List Char) : ink (first ++ second) = ink first ++ ink second :=
  List.filter_append ..

theorem ink_cons_of_blank {c : Char} (hc : isBlank c = true) (rest : List Char) :
    ink (c :: rest) = ink rest :=
  List.filter_cons_of_neg (by simp [hc])

theorem ink_cons_congr {first second : List Char} (c : Char) (h : ink first = ink second) :
    ink (c :: first) = ink (c :: second) := by
  rw [← List.singleton_append, ink_append, h, ← ink_append, List.singleton_append]

theorem ink_of_isBlankText {cs : List Char} (h : isBlankText cs = true) : ink cs = [] := by
  refine List.filter_eq_nil_iff.2 fun c hc => ?_
  simp [List.all_eq_true.1 h c hc]

/-- **Trimming a text** takes away nothing that shows. -/
theorem ink_strip (text : String) : ink (strip text).toList = ink text.toList := by
  rw [strip, String.toList_ofList]
  exact filter_trim (fun c hc => by simp [hc]) text.toList

/-- **The lines of a text** show what the text shows. -/
theorem ink_pieces (cs : List Char) : (pieces '\n' cs).flatMap ink = ink cs := by
  induction cs with
  | nil => rfl
  | cons c rest ih =>
    rw [pieces]
    split
    · rename_i hc
      rw [List.flatMap_cons, ih, hc, ink_cons_of_blank (by decide)]
      rfl
    · cases hpieces : pieces '\n' rest with
      | nil => exact absurd hpieces (pieces_ne_nil '\n' rest)
      | cons first others =>
        rw [hpieces, List.flatMap_cons] at ih
        rw [List.flatMap_cons, ← List.singleton_append, ink_append, List.append_assoc, ih,
          ← ink_append, List.singleton_append]

namespace Wrap

variable {habit : Habit} {limit : Nat}

/-! ## Spaces -/

theorem isBlank_of_isSpacer {c : Char} (h : isSpacer c = true) : isBlank c = true := by
  have hascii : c.toNat < 128 := by
    rcases (by simpa [isSpacer] using h : c = ' ' ∨ 9 ≤ c.toNat ∧ c.toNat ≤ 13) with rfl | hrange
    · decide
    · omega
  rw [isBlank, if_pos hascii]
  simp only [isSpacer] at h
  simp [h]

theorem ink_expandTabs (column : Nat) (cs : List Char) : ink (expandTabs column cs) = ink cs := by
  induction cs generalizing column with
  | nil => rfl
  | cons c rest ih =>
    rw [expandTabs]
    split
    · rename_i htab
      have hgap : isBlankText (List.replicate (8 - column % 8) ' ') = true := by
        refine List.all_eq_true.2 fun d hd => ?_
        rw [List.eq_of_mem_replicate hd]
        rfl
      rw [ink_append, ink_of_isBlankText hgap, List.nil_append, ih, htab,
        ink_cons_of_blank (by decide)]
    · split <;> exact ink_cons_congr c (ih _)

/-- **Spacers are blank**, before they become spaces and after. -/
theorem ink_spaced (cs : List Char) : ink (spaced cs) = ink cs := by
  have hmap : ∀ cs : List Char, ink (cs.map fun c => if isSpacer c then ' ' else c) = ink cs := by
    intro cs
    induction cs with
    | nil => rfl
    | cons c rest ih =>
      rw [List.map_cons]
      split
      · rename_i hc
        rw [ink_cons_of_blank (by decide), ih, ink_cons_of_blank (isBlank_of_isSpacer hc)]
      · exact ink_cons_congr c ih
  rw [spaced, hmap, ink_expandTabs]

/-! ## Lines -/

theorem ink_dropBlankStart (started : Bool) (chunks : List Chunk) :
    ink (dropBlankStart started chunks).flatten = ink chunks.flatten := by
  cases chunks with
  | nil => rfl
  | cons c rest =>
    rw [dropBlankStart]
    split
    · rename_i hblank
      rw [List.flatten_cons, ink_append, ink_of_isBlankText (Bool.and_eq_true_iff.1 hblank).2,
        List.nil_append]
    · rfl

theorem ink_dropBlankEnd (line : List Chunk) :
    ink (dropBlankEnd line).flatten = ink line.flatten := by
  unfold dropBlankEnd
  split
  · rename_i hblank
    obtain ⟨last, hlast, hblank⟩ := (Option.any_eq_true _ _).1 hblank
    conv_rhs => rw [← List.dropLast_append_getLast? last hlast]
    rw [List.flatten_append, ink_append, List.flatten_singleton, ink_of_isBlankText hblank,
      List.append_nil]
  · rfl

/-- **A line and the chunks behind it** hold everything that shows. -/
theorem ink_nextLine (habit : Habit) (limit : Nat) (started : Bool) (chunks : List Chunk) :
    ink (nextLine habit limit started chunks).1.flatten
      ++ ink (nextLine habit limit started chunks).2.flatten = ink chunks.flatten := by
  unfold nextLine
  dsimp only
  rw [ink_dropBlankEnd, ← ink_append, flatten_fitLong, flatten_takeFitting, ink_dropBlankStart]

/-- **Packing keeps what shows**, whatever is cut. -/
theorem ink_pack (habit : Habit) (limit : Nat) (started : Bool) (chunks : List Chunk) :
    (pack habit limit started chunks).flatMap ink = ink chunks.flatten := by
  induction started, chunks using pack.induct habit limit with
  | case1 => simp [pack, ink]
  | case2 started c rest next hempty ih =>
    have hnext := ink_nextLine habit limit started (c :: rest)
    simp only [next] at hempty ih
    rw [List.isEmpty_iff.1 hempty] at hnext
    rw [pack, if_pos hempty, ih, ← hnext]
    rfl
  | case3 started c rest next hempty ih =>
    simp only [next] at hempty ih
    rw [pack, if_neg hempty, List.flatMap_cons, ih, ink_nextLine]

/-! ## Widths -/

theorem eq_append_of_cutLast? {sep : Char} {cs before after : List Char}
    (h : cutLast? sep cs = some (before, after)) : cs = before ++ sep :: after := by
  obtain ⟨parts, hparts, heq⟩ := Option.map_eq_some_iff.1 h
  obtain ⟨rfl, rfl⟩ := Prod.mk.inj heq
  have hreverse := congrArg List.reverse (eq_append_of_cut? hparts)
  simpa using hreverse

/-- A cut lies within the space. -/
theorem cutPoint_le (space : Nat) (word : Chunk) : cutPoint space word ≤ space := by
  unfold cutPoint
  split
  · split
    · rename_i before after hcut
      have hlength := congrArg List.length (eq_append_of_cutLast? hcut)
      rw [List.length_take, List.length_append, List.length_cons] at hlength
      split <;> omega
    · exact Nat.le_refl _
  · exact Nat.le_refl _

theorem width_fitLong_le (hlimit : 0 < limit) {line : List Chunk} (h : width line ≤ limit)
    (rest : List Chunk) : width (fitLong .hyphenated limit line rest).1 ≤ limit := by
  unfold fitLong
  split
  · exact h
  · rename_i word others
    split
    · exact h
    · have hcut := cutPoint_le (limit - width line) word
      have hspace : ¬ limit < 1 := Nat.not_lt.2 hlimit
      simp only [hspace, if_false]
      simp only [width, List.flatten_append, List.flatten_singleton, List.length_append,
        List.length_take] at h hcut ⊢
      omega

/-- **A line keeps the limit** where words may be cut. -/
theorem width_nextLine_le (hlimit : 0 < limit) (started : Bool) (chunks : List Chunk) :
    width (nextLine .hyphenated limit started chunks).1 ≤ limit := by
  have hfits := width_takeFitting_le (Nat.zero_le limit) (dropBlankStart started chunks)
  rw [Nat.zero_add] at hfits
  exact Nat.le_trans (width_dropBlankEnd_le _) (width_fitLong_le hlimit hfits _)

theorem length_le_of_mem_pack (hlimit : 0 < limit) {started : Bool} {chunks : List Chunk}
    {line : List Char} (h : line ∈ pack .hyphenated limit started chunks) :
    line.length ≤ limit := by
  induction started, chunks using pack.induct .hyphenated limit with
  | case1 => simp [pack] at h
  | case2 started c rest next hempty ih =>
    simp only [next] at hempty ih
    rw [pack, if_pos hempty] at h
    exact ih h
  | case3 started c rest next hempty ih =>
    simp only [next] at hempty ih
    rw [pack, if_neg hempty] at h
    rcases List.mem_cons.1 h with rfl | h
    · exact width_nextLine_le hlimit started (c :: rest)
    · exact ih h

end Wrap

/-! ## Paragraphs -/

/-- **The lines of a paragraph show what it shows**, in its order. -/
theorem ink_wrap (habit : Wrap.Habit) (limit : Nat) (paragraph : String) :
    (wrap habit limit paragraph).flatMap (fun line => ink line.toList) = ink paragraph.toList := by
  simp only [wrap, List.flatMap_map, String.toList_ofList]
  rw [Wrap.ink_pack, Wrap.flatten_chunksAfter, Wrap.ink_spaced]

/-- **Lines keep the limit** where words may be cut. -/
theorem length_le_of_mem_wrap {limit : Nat} (hlimit : 0 < limit) {paragraph line : String}
    (h : line ∈ wrap .hyphenated limit paragraph) : line.length ≤ limit := by
  obtain ⟨cs, hcs, rfl⟩ := List.mem_map.1 h
  rw [String.length_ofList]
  exact Wrap.length_le_of_mem_pack hlimit hcs

end ClientGen.Text
