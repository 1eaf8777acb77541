import ClientGen.Proofs.Text.Code
import Mathlib.Data.List.Chain

/-!
# Filling keeps the words

A paragraph that is filled with whole words becomes a list of lines that hold the same words in the
same order.  What is lost or changed on the way are spacers and blanks only: a tab becomes spaces,
a blank chunk at the end of a line or at the start of a later one is dropped, and a chunk that is
too wide for any line stands alone.  A word that is blank, such as a lone no-break space, may be
dropped like any other blank, so it does not count as a word on either side.

The argument is about chunks: they are cut so that two words never touch, hence the words of the
characters of some chunks are the chunks among them that are not blank.  A line takes chunks that
stand next to each other, and packing drops blank chunks only.

## Main definitions

* `words` — the words of a text.
* `Wrap.IsCut` — chunks of which no two neighbours are words.

## Main results

* `words_pieces`, `Wrap.words_spaced` — line feeds and tabs part words like any other spacer.
* `words_wrap` — the lines of a paragraph hold its words.
* `length_of_mem_wrap` — a line keeps the limit, or it is a single word that is wider.
-/

namespace ClientGen.Text

/-- The words of a text: what stands between spacers, unless it is blank. -/
def words (cs : List Char) : List (List Char) :=
  (cs.splitOnP Wrap.isSpacer).filter fun word => !isBlankText word

/-! ## Words -/

/-- **Words end at a spacer.** -/
theorem words_append_cons {c : Char} (hc : Wrap.isSpacer c = true) (cs ds : List Char) :
    words (cs ++ c :: ds) = words cs ++ words ds := by
  unfold words
  rw [List.splitOnP_append_cons cs ds hc, List.filter_append]

theorem words_nil : words [] = [] := rfl

theorem words_cons {c : Char} (hc : Wrap.isSpacer c = true) (cs : List Char) :
    words (c :: cs) = words cs :=
  words_append_cons hc [] cs

/-- Spacers in front of a text belong to no word. -/
theorem words_append_of_forall {cs : List Char} (h : ∀ c ∈ cs, Wrap.isSpacer c = true)
    (ds : List Char) : words (cs ++ ds) = words ds := by
  induction cs with
  | nil => rfl
  | cons c rest ih =>
    obtain ⟨hc, hrest⟩ := List.forall_mem_cons.1 h
    rw [List.cons_append, words_cons hc, ih hrest]

theorem words_of_forall_not {cs : List Char} (h : ∀ c ∈ cs, Wrap.isSpacer c = false) :
    words cs = [cs].filter fun word => !isBlankText word := by
  rw [words, List.splitOnP_eq_singleton h]

/-- **The lines of a text hold its words.** -/
theorem words_pieces (cs : List Char) : (pieces '\n' cs).flatMap words = words cs := by
  have hfront : ∀ front : List Char, '\n' ∉ front →
      (pieces '\n' (front ++ cs)).flatMap words = words (front ++ cs) := by
    induction cs with
    | nil =>
      intro front hfront
      rw [List.append_nil, pieces_of_not_mem hfront, List.flatMap_singleton]
    | cons c rest ih =>
      intro front hfront
      by_cases hc : c = '\n'
      · subst hc
        rw [pieces_append_cons, pieces_of_not_mem hfront, words_append_cons rfl,
          List.flatMap_append, List.flatMap_singleton]
        exact congrArg _ (ih [] (List.not_mem_nil))
      · have hnew : '\n' ∉ front ++ [c] := by simp [hfront, Ne.symm hc]
        simpa using ih (front ++ [c]) hnew
  exact hfront [] List.not_mem_nil

namespace Wrap

theorem words_append_expandTabs (front cs : List Char) (column : Nat) :
    words (front ++ expandTabs column cs) = words (front ++ cs) := by
  induction cs generalizing front column with
  | nil => rfl
  | cons c rest ih =>
    -- A character that is no tab may go on with the word in front of it.
    have hother : ∀ column, words (front ++ c :: expandTabs column rest)
        = words (front ++ c :: rest) := by
      intro column
      simpa using ih (front ++ [c]) column
    rw [expandTabs]
    split
    · rename_i htab
      subst htab
      obtain ⟨more, hgap⟩ : ∃ more, 8 - column % 8 = more + 1 := ⟨7 - column % 8, by omega⟩
      have hspaces : ∀ c ∈ List.replicate more ' ', isSpacer c = true := by
        intro c hc
        rw [List.eq_of_mem_replicate hc]
        rfl
      have hrest := ih [] (column + (8 - column % 8))
      simp only [List.nil_append] at hrest
      simp only [hgap, List.replicate_succ, List.cons_append] at hrest ⊢
      rw [words_append_cons rfl, words_append_cons rfl, words_append_of_forall hspaces, hrest]
    · split
      · exact hother 0
      · exact hother (column + 1)

/-- A spacer that is written as a space parts the same words. -/
theorem words_append_map (front cs : List Char) :
    words (front ++ cs.map fun c => if isSpacer c then ' ' else c) = words (front ++ cs) := by
  induction cs generalizing front with
  | nil => rfl
  | cons c rest ih =>
    rw [List.map_cons]
    split
    · rename_i hc
      have hrest := ih []
      rw [words_append_cons rfl, words_append_cons hc]
      exact congrArg _ hrest
    · simpa using ih (front ++ [c])

/-- **Tabs and other spacers part words as spaces do.** -/
theorem words_spaced (cs : List Char) : words (spaced cs) = words cs := by
  have hmap := words_append_map [] (expandTabs 0 cs)
  have htabs := words_append_expandTabs [] cs 0
  simp only [List.nil_append] at hmap htabs
  rw [spaced, hmap, htabs]

theorem eq_space_of_mem_spaced {cs : List Char} {c : Char} (h : c ∈ spaced cs)
    (hc : isSpacer c = true) : c = ' ' := by
  obtain ⟨d, -, rfl⟩ := List.mem_map.1 h
  by_cases hd : isSpacer d = true
  · rw [if_pos hd]
  · rw [if_neg hd] at hc
    exact absurd hc hd

/-! ## Chunks -/

/-- A chunk between words. -/
def IsGap (chunk : Chunk) : Prop :=
  chunk ≠ [] ∧ ∀ c ∈ chunk, c = ' '

/-- A chunk without a spacer in it. -/
def IsSolid (chunk : Chunk) : Prop :=
  chunk ≠ [] ∧ ∀ c ∈ chunk, isSpacer c = false

/-- Every chunk is a gap or a solid one, and of two neighbours one is a gap. -/
structure IsCut (chunks : List Chunk) : Prop where
  kinds : ∀ chunk ∈ chunks, IsGap chunk ∨ IsSolid chunk
  parted : chunks.IsChain fun first second => IsGap first ∨ IsGap second

/-- The chunks that are not blank. -/
def visible (chunks : List Chunk) : List Chunk :=
  chunks.filter fun chunk => !isBlankText chunk

variable {chunks : List Chunk}

theorem IsCut.part {part : List Chunk} (h : IsCut chunks) (hpart : part <:+: chunks) :
    IsCut part where
  kinds chunk hchunk := h.kinds chunk (hpart.subset hchunk)
  parted := List.IsChain.infix h.parted hpart

theorem IsGap.isBlankText {chunk : Chunk} (h : IsGap chunk) : isBlankText chunk = true := by
  refine List.all_eq_true.2 fun c hc => ?_
  rw [h.2 c hc]
  rfl

theorem IsGap.isSpacer {chunk : Chunk} (h : IsGap chunk) : ∀ c ∈ chunk, isSpacer c = true := by
  intro c hc
  rw [h.2 c hc]
  rfl

/-- **The words of chunks** are the chunks that are not blank. -/
theorem IsCut.words_flatten (h : IsCut chunks) : words chunks.flatten = visible chunks := by
  induction chunks with
  | nil => rfl
  | cons chunk rest ih =>
    have hrest := ih (h.part (List.suffix_cons chunk rest).isInfix)
    rcases h.kinds chunk List.mem_cons_self with hgap | hsolid
    · have hblank := hgap.isBlankText
      rw [List.flatten_cons, words_append_of_forall hgap.isSpacer, hrest, visible, visible,
        List.filter_cons_of_neg (by simp [hblank])]
    · have hword : words (chunk ++ rest.flatten) = words chunk ++ words rest.flatten := by
        cases rest with
        | nil => simp [words_nil]
        | cons next others =>
          have hnext : IsGap next := by
            rcases (List.isChain_cons_cons.1 h.parted).1 with hgap | hgap
            · obtain ⟨c, hc⟩ := List.exists_mem_of_ne_nil chunk hgap.1
              exact absurd (hsolid.2 c hc) (by simp [hgap.isSpacer c hc])
            · exact hgap
          obtain ⟨c, more, rfl⟩ := List.exists_cons_of_ne_nil hnext.1
          have hc := hnext.isSpacer c List.mem_cons_self
          rw [List.flatten_cons, List.cons_append, words_append_cons hc, words_cons hc]
      rw [List.flatten_cons, hword, hrest, words_of_forall_not hsolid.2, visible, visible,
        ← List.filter_append]
      rfl

/-- A chunk that is cut off starts where the rest started. -/
theorem head?_of_mem_head?_chunksAfter {habit : Habit} {before cs : List Char} {chunk : Chunk}
    (h : chunk ∈ (chunksAfter habit before cs).head?) : chunk.head? = cs.head? := by
  cases cs with
  | nil => simp [chunksAfter] at h
  | cons c rest =>
    rw [chunksAfter, List.head?_cons, Option.mem_some_iff] at h
    rw [← h]
    rfl

/-- A text, cut behind the first characters of a kind. -/
theorem take_drop_length_takeWhile {α : Type} (p : α → Bool) (xs : List α) :
    xs.take (xs.takeWhile p).length = xs.takeWhile p ∧
      xs.drop (xs.takeWhile p).length = xs.dropWhile p := by
  have hwhole : xs.takeWhile p ++ xs.dropWhile p = xs := List.takeWhile_append_dropWhile
  have htake : (xs.takeWhile p ++ xs.dropWhile p).take (xs.takeWhile p).length
      = xs.takeWhile p := List.take_left
  have hdrop : (xs.takeWhile p ++ xs.dropWhile p).drop (xs.takeWhile p).length
      = xs.dropWhile p := List.drop_left
  rw [hwhole] at htake hdrop
  exact ⟨htake, hdrop⟩

/-- **Whole words are cut so that no two of them touch.** -/
theorem isCut_chunksAfter (before : List Char) {cs : List Char}
    (hcs : ∀ c ∈ cs, isSpacer c = true → c = ' ') :
    IsCut (chunksAfter .wholeWords before cs) := by
  induction before, cs using chunksAfter.induct .wholeWords with
  | case1 before => exact ⟨by simp [chunksAfter], by simp [chunksAfter]⟩
  | case2 before c rest more ih =>
    obtain ⟨hc, hrest⟩ := List.forall_mem_cons.1 hcs
    have hcut := ih fun d hd => hrest d (List.mem_of_mem_drop hd)
    rw [chunksAfter]
    change IsCut ((c :: rest.take more) :: chunksAfter .wholeWords _ (rest.drop more))
    by_cases hspace : c = ' '
    · -- A gap: all spaces that follow one another.
      have hmore : more = (rest.takeWhile (· == ' ')).length := by
        simp [more, chunkLength, hspace]
      have hgap : IsGap (c :: rest.take more) := by
        rw [hmore, (take_drop_length_takeWhile _ _).1]
        refine ⟨List.cons_ne_nil _ _, List.forall_mem_cons.2 ⟨hspace, fun d hd => ?_⟩⟩
        simpa using List.all_eq_true.1 List.all_takeWhile d hd
      exact ⟨List.forall_mem_cons.2 ⟨.inl hgap, hcut.kinds⟩,
        List.isChain_cons.2 ⟨fun _ _ => .inl hgap, hcut.parted⟩⟩
    · -- A word: it ends at the next space, with which the next chunk starts.
      have hmore : more = (rest.takeWhile (· != ' ')).length := by
        simp [more, chunkLength, hspace]
      have hnot : ∀ d ∈ c :: rest, d ≠ ' ' → isSpacer d = false := fun d hd hne =>
        Bool.eq_false_iff.2 fun hd' => hne (hcs d hd hd')
      have hsolid : IsSolid (c :: rest.take more) := by
        rw [hmore, (take_drop_length_takeWhile _ _).1]
        refine ⟨List.cons_ne_nil _ _, List.forall_mem_cons.2 ⟨hnot c List.mem_cons_self hspace, ?_⟩⟩
        intro d hd
        refine hnot d (List.mem_cons_of_mem _ (List.takeWhile_subset _ hd)) ?_
        simpa using List.all_eq_true.1 List.all_takeWhile d hd
      refine ⟨List.forall_mem_cons.2 ⟨.inr hsolid, hcut.kinds⟩,
        List.isChain_cons.2 ⟨fun next hnext => .inr ?_, hcut.parted⟩⟩
      have hhead := head?_of_mem_head?_chunksAfter hnext
      rw [hmore, (take_drop_length_takeWhile _ _).2] at hhead
      refine (hcut.kinds next (List.mem_of_mem_head? hnext)).resolve_right fun hnext' => ?_
      obtain ⟨d, others, rfl⟩ := List.exists_cons_of_ne_nil hnext'.1
      have hd : d = ' ' := by
        have hstop := List.head?_dropWhile_not (· != ' ') rest
        rw [← hhead] at hstop
        simpa using hstop
      exact absurd (hnext'.2 d List.mem_cons_self) (by simp [hd, isSpacer])

/-! ## Lines -/

theorem visible_append (first second : List Chunk) :
    visible (first ++ second) = visible first ++ visible second :=
  List.filter_append ..

theorem visible_singleton_of_blank {chunk : Chunk} (h : isBlankText chunk = true) :
    visible [chunk] = [] := by
  simp [visible, h]

/-- What is dropped from the start of a line is blank. -/
theorem exists_dropBlankStart (started : Bool) (chunks : List Chunk) :
    ∃ dropped, chunks = dropped ++ dropBlankStart started chunks ∧ visible dropped = [] := by
  cases chunks with
  | nil => exact ⟨[], rfl, rfl⟩
  | cons chunk rest =>
    rw [dropBlankStart]
    split
    · rename_i hblank
      exact ⟨[chunk], rfl, visible_singleton_of_blank (Bool.and_eq_true_iff.1 hblank).2⟩
    · exact ⟨[], rfl, rfl⟩

/-- What is dropped from the end of a line is blank. -/
theorem exists_dropBlankEnd (line : List Chunk) :
    ∃ dropped, line = dropBlankEnd line ++ dropped ∧ visible dropped = [] := by
  unfold dropBlankEnd
  split
  · rename_i hblank
    obtain ⟨last, hlast, hblank⟩ := (Option.any_eq_true _ _).1 hblank
    exact ⟨[last], (List.dropLast_append_getLast? last hlast).symm,
      visible_singleton_of_blank hblank⟩
  · exact ⟨[], (List.append_nil line).symm, rfl⟩

theorem fitLong_append (limit : Nat) (line rest : List Chunk) :
    (fitLong .wholeWords limit line rest).1 ++ (fitLong .wholeWords limit line rest).2
      = line ++ rest := by
  unfold fitLong
  split
  · rfl
  · split
    · rfl
    · dsimp only
      split
      · rename_i hempty
        simp [List.isEmpty_iff.1 hempty]
      · rfl

/-- **A line and the rest** are the chunks, without blank ones in front of the line and behind
it. -/
theorem exists_nextLine (limit : Nat) (started : Bool) (chunks : List Chunk) :
    ∃ front back, visible front = [] ∧ visible back = [] ∧
      chunks = front ++ (nextLine .wholeWords limit started chunks).1 ++ back
        ++ (nextLine .wholeWords limit started chunks).2 := by
  obtain ⟨front, hchunks, hfront⟩ := exists_dropBlankStart started chunks
  have hfitting := takeFitting_append limit 0 (dropBlankStart started chunks)
  have hfilled := fitLong_append limit (takeFitting limit 0 (dropBlankStart started chunks)).1
    (takeFitting limit 0 (dropBlankStart started chunks)).2
  obtain ⟨back, hline, hback⟩ := exists_dropBlankEnd
    (fitLong .wholeWords limit (takeFitting limit 0 (dropBlankStart started chunks)).1
      (takeFitting limit 0 (dropBlankStart started chunks)).2).1
  refine ⟨front, back, hfront, hback, ?_⟩
  calc chunks = front ++ dropBlankStart started chunks := hchunks
    _ = _ := by
      rw [← hfitting, ← hfilled, hline]
      simp only [nextLine, List.append_assoc]

theorem nextLine_isInfix (limit : Nat) (started : Bool) (chunks : List Chunk) :
    (nextLine .wholeWords limit started chunks).1 <:+: chunks ∧
      (nextLine .wholeWords limit started chunks).2 <:+: chunks := by
  obtain ⟨front, back, -, -, hchunks⟩ := exists_nextLine limit started chunks
  constructor
  · exact ⟨front, back ++ (nextLine .wholeWords limit started chunks).2, by
      simpa only [List.append_assoc] using hchunks.symm⟩
  · exact ⟨front ++ (nextLine .wholeWords limit started chunks).1 ++ back, [], by
      simpa only [List.append_nil] using hchunks.symm⟩

theorem visible_nextLine (limit : Nat) (started : Bool) (chunks : List Chunk) :
    visible (nextLine .wholeWords limit started chunks).1
      ++ visible (nextLine .wholeWords limit started chunks).2 = visible chunks := by
  obtain ⟨front, back, hfront, hback, hchunks⟩ := exists_nextLine limit started chunks
  conv_rhs => rw [hchunks]
  simp only [visible_append, hfront, hback, List.nil_append, List.append_nil]

/-! ## Widths -/

theorem width_takeFitting_le {limit used : Nat} (h : used ≤ limit) (chunks : List Chunk) :
    used + width (takeFitting limit used chunks).1 ≤ limit := by
  induction chunks generalizing used with
  | nil => simpa [takeFitting, width] using h
  | cons chunk rest ih =>
    rw [takeFitting]
    split
    · rename_i hfits
      have hrest := ih hfits
      simp only [width, List.flatten_cons, List.length_append] at hrest ⊢
      omega
    · simpa [width] using h

theorem width_dropBlankEnd_le (line : List Chunk) : width (dropBlankEnd line) ≤ width line := by
  obtain ⟨dropped, hline, -⟩ := exists_dropBlankEnd line
  conv_rhs => rw [hline]
  simp only [width, List.flatten_append, List.length_append]
  omega

/-- **A line keeps the limit**, or it is a single chunk that is too wide and not blank. -/
theorem width_nextLine (limit : Nat) (started : Bool) (chunks : List Chunk) :
    width (nextLine .wholeWords limit started chunks).1 ≤ limit ∨
      ∃ chunk, (nextLine .wholeWords limit started chunks).1 = [chunk] ∧ limit < chunk.length ∧
        isBlankText chunk = false := by
  have hfits := width_takeFitting_le (Nat.zero_le limit) (dropBlankStart started chunks)
  rw [Nat.zero_add] at hfits
  have hle : ∀ line, width line ≤ limit → width (dropBlankEnd line) ≤ limit :=
    fun line => Nat.le_trans (width_dropBlankEnd_le line)
  unfold nextLine
  dsimp only
  unfold fitLong
  split
  · exact .inl (hle _ hfits)
  · rename_i chunk others _
    split
    · exact .inl (hle _ hfits)
    · rename_i hwide
      dsimp only
      split
      · cases hblank : isBlankText chunk with
        | true => exact .inl (by simp [dropBlankEnd, hblank, width])
        | false => exact .inr ⟨chunk, by simp [dropBlankEnd, hblank], Nat.lt_of_not_le hwide, hblank⟩
      · exact .inl (hle _ hfits)

/-! ## Packing -/

/-- **Packing keeps the words.** -/
theorem words_pack {limit : Nat} {started : Bool} (h : IsCut chunks) :
    (pack .wholeWords limit started chunks).flatMap words = visible chunks := by
  induction started, chunks using pack.induct .wholeWords limit with
  | case1 => simp [pack, visible]
  | case2 started chunk rest next hempty ih =>
    have hparts := nextLine_isInfix limit started (chunk :: rest)
    have hvisible := visible_nextLine limit started (chunk :: rest)
    simp only [next] at hempty ih
    rw [pack, if_pos hempty, ih (h.part hparts.2), ← hvisible, List.isEmpty_iff.1 hempty]
    rfl
  | case3 started chunk rest next hempty ih =>
    have hparts := nextLine_isInfix limit started (chunk :: rest)
    have hvisible := visible_nextLine limit started (chunk :: rest)
    simp only [next] at hempty ih
    rw [pack, if_neg hempty, List.flatMap_cons, ih (h.part hparts.2), ← hvisible,
      (h.part hparts.1).words_flatten]

/-- **A line keeps the limit**, or it is a single word that is wider. -/
theorem length_of_mem_pack {limit : Nat} {started : Bool} {line : List Char} (h : IsCut chunks)
    (hline : line ∈ pack .wholeWords limit started chunks) :
    line.length ≤ limit ∨ limit < line.length ∧ words line = [line] := by
  induction started, chunks using pack.induct .wholeWords limit with
  | case1 => simp [pack] at hline
  | case2 started chunk rest next hempty ih =>
    have hparts := nextLine_isInfix limit started (chunk :: rest)
    simp only [next] at hempty ih
    rw [pack, if_pos hempty] at hline
    exact ih (h.part hparts.2) hline
  | case3 started chunk rest next hempty ih =>
    have hparts := nextLine_isInfix limit started (chunk :: rest)
    simp only [next] at hempty ih
    rw [pack, if_neg hempty] at hline
    rcases List.mem_cons.1 hline with rfl | hline
    · rcases width_nextLine limit started (chunk :: rest) with hfits | ⟨word, hword, hwide, hblank⟩
      · exact .inl hfits
      -- A line that is too wide is a single word, for cuts are made between words only.
      · have hwords := (h.part hparts.1).words_flatten
        rw [hword] at hwords ⊢
        refine .inr ⟨by simpa using hwide, ?_⟩
        simpa [visible, hblank] using hwords
    · exact ih (h.part hparts.2) hline

end Wrap

/-! ## Paragraphs -/

theorem isCut_chunks (paragraph : String) :
    Wrap.IsCut (Wrap.chunksAfter .wholeWords [] (Wrap.spaced paragraph.toList)) :=
  Wrap.isCut_chunksAfter [] fun _ => Wrap.eq_space_of_mem_spaced

/-- **The lines of a paragraph hold its words.** -/
theorem words_wrap (limit : Nat) (paragraph : String) :
    (wrap .wholeWords limit paragraph).flatMap (fun line => words line.toList)
      = words paragraph.toList := by
  have hcut := isCut_chunks paragraph
  have hwhole := hcut.words_flatten
  rw [Wrap.flatten_chunksAfter, Wrap.words_spaced] at hwhole
  simp only [wrap, List.flatMap_map, String.toList_ofList]
  rw [Wrap.words_pack hcut, hwhole]

/-- **A line of a paragraph keeps the limit**, or it is a single word that is wider. -/
theorem length_of_mem_wrap {limit : Nat} {paragraph line : String}
    (h : line ∈ wrap .wholeWords limit paragraph) :
    line.length ≤ limit ∨ limit < line.length ∧ words line.toList = [line.toList] := by
  obtain ⟨cs, hcs, rfl⟩ := List.mem_map.1 h
  simpa using Wrap.length_of_mem_pack (isCut_chunks paragraph) hcs

end ClientGen.Text
