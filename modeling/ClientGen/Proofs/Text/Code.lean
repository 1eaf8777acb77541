import ClientGen.Text.Wrap
import ClientGen.Writer.Basic
import Mathlib.Data.List.Induction

/-!
# The lines of code of a text

What of a text is code: its lines without the blank ones and without those that are comments as a
whole.  The lines of code of a text that is put together line by line are those of its parts, so
text that has none can be put between lines and taken away.  Documentation has none: filling turns
every line feed of a paragraph into a space or ends a line with it, so whatever a documentation
holds, each of its lines stands behind the sign of a comment.

## Main definitions

* `Text.codeLines` — the lines of code of a text.

## Main results

* `codeLines_newline`, `codeLines_unlines` — the code of lines is the code of each of them.
* `codeLines_strip` — line feeds at the ends do not count.
* `codeLines_docsLine`, `codeLines_packageDocsLine` — documentation holds no code.
-/

namespace ClientGen.Text

/-- Whether a line is code: neither blank nor a comment as a whole. -/
def isCode (line : List Char) : Bool :=
  match line.dropWhile isBlank with
  | [] | '/' :: '/' :: _ => false
  | _ => true

/-- The lines of code of a text. -/
def codeLines (text : String) : List String :=
  (lines text).filter fun line => isCode line.toList

/-! ## Putting texts together -/

theorem pieces_append_cons (sep : Char) (first second : List Char) :
    pieces sep (first ++ sep :: second) = pieces sep first ++ pieces sep second := by
  induction first with
  | nil => simp [pieces]
  | cons c rest ih =>
    by_cases hc : c = sep
    · simp [pieces, hc, ih]
    · simp only [List.cons_append, pieces, hc, if_false, ih]
      cases hrest : pieces sep rest with
      | nil => exact absurd hrest (pieces_ne_nil sep rest)
      | cons => rfl

theorem pieces_of_not_mem {sep : Char} {cs : List Char} (h : sep ∉ cs) : pieces sep cs = [cs] := by
  induction cs with
  | nil => rfl
  | cons c rest ih =>
    obtain ⟨hc, hrest⟩ := not_or.1 (mt List.mem_cons.2 h)
    simp [pieces, Ne.symm hc, ih hrest]

theorem lines_of_not_mem {text : String} (h : '\n' ∉ text.toList) : lines text = [text] := by
  simp [lines, pieces_of_not_mem h]

theorem codeLines_newline (first second : String) :
    codeLines (first ++ "\n" ++ second) = codeLines first ++ codeLines second := by
  have htext : (first ++ "\n" ++ second).toList = first.toList ++ '\n' :: second.toList := by simp
  rw [codeLines, lines, htext, pieces_append_cons, List.map_append, List.filter_append]
  rfl

theorem codeLines_empty : codeLines "" = [] := rfl

theorem codeLines_unlines (texts : List String) :
    codeLines (unlines texts) = texts.flatMap codeLines := by
  unfold unlines
  induction texts with
  | nil => rfl
  | cons text rest ih =>
    cases rest with
    | nil => simp
    | cons other rest =>
      rw [String.intercalate_cons_cons, codeLines_newline, ih]
      rfl

/-- **Line feeds at the ends of a text do not count.** -/
theorem codeLines_strip (text : String) :
    codeLines (String.ofList (trim (· == '\n') text.toList)) = codeLines text := by
  have hstart : ∀ cs : List Char,
      codeLines (String.ofList (cs.dropWhile (· == '\n'))) = codeLines (String.ofList cs) := by
    intro cs
    induction cs with
    | nil => rfl
    | cons c rest ih =>
      rw [List.dropWhile_cons]
      split
      · rename_i hc
        obtain rfl := eq_of_beq hc
        have htext : String.ofList ('\n' :: rest) = "" ++ "\n" ++ String.ofList rest := by
          simp
        rw [ih, htext, codeLines_newline, codeLines_empty, List.nil_append]
      · rfl
  have hend : ∀ cs : List Char,
      codeLines (String.ofList (trimEnd (· == '\n') cs)) = codeLines (String.ofList cs) := by
    intro cs
    unfold trimEnd
    -- From the end of the text, whose last characters come first when it is turned around.
    induction cs using List.reverseRecOn with
    | nil => rfl
    | append_singleton rest c ih =>
      rw [List.reverse_append, List.reverse_singleton, List.singleton_append, List.dropWhile_cons]
      split
      · rename_i hc
        obtain rfl := eq_of_beq hc
        have htext : String.ofList (rest ++ ['\n']) = String.ofList rest ++ "\n" ++ "" := by
          simp
        rw [ih, htext, codeLines_newline, codeLines_empty, List.append_nil]
      · simp
  rw [trim, hend, hstart, String.ofList_toList]

/-! ## Comments -/

/-- A text of spaces and tabs, which shifts a line but shows nothing. -/
def IsIndent (text : String) : Prop :=
  ∀ c ∈ text.toList, c = ' ' ∨ c = '\t'

theorem isIndent_join {texts : List String} (h : ∀ text ∈ texts, IsIndent text) :
    IsIndent (String.join texts) := by
  intro c hc
  rw [String.toList_join, List.mem_flatMap] at hc
  obtain ⟨text, htext, hc⟩ := hc
  exact h text htext c hc

theorem isCode_comment {margin : String} (h : IsIndent margin) (rest : List Char) :
    isCode (margin.toList ++ '/' :: '/' :: rest) = false := by
  have hblank : ∀ c ∈ margin.toList, isBlank c = true := by
    intro c hc
    rcases h c hc with rfl | rfl <;> rfl
  rw [isCode, List.dropWhile_append_of_pos hblank]
  rfl

/-- A line of comment stays one line, which is no code behind a margin that shows nothing. -/
theorem codeLines_comment {margin line : String} (hmargin : IsIndent margin)
    (hline : '\n' ∉ line.toList) : codeLines (margin ++ Writer.comment line) = [] := by
  have hcomment : ∃ rest, '\n' ∉ rest ∧ (Writer.comment line).toList = '/' :: '/' :: rest := by
    unfold Writer.comment
    split
    · exact ⟨[], by simp, rfl⟩
    · exact ⟨' ' :: line.toList, by simpa using hline, by simp⟩
  obtain ⟨rest, hrest, htext⟩ := hcomment
  have hfeed : '\n' ∉ (margin ++ Writer.comment line).toList := by
    rw [String.toList_append, htext, List.mem_append]
    rintro (hmem | hmem)
    · simpa using hmargin _ hmem
    · simp [hrest] at hmem
  have hcode : isCode (margin ++ Writer.comment line).toList = false := by
    rw [String.toList_append, htext, isCode_comment hmargin]
  rw [codeLines, lines_of_not_mem hfeed, List.filter_cons, hcode]
  rfl

/-! ## Filling -/

namespace Wrap

variable {habit : Habit} {limit : Nat}

theorem newline_not_mem_spaced {cs : List Char} : '\n' ∉ spaced cs := by
  intro hmem
  obtain ⟨c, -, hc⟩ := List.mem_map.1 hmem
  by_cases hspacer : isSpacer c = true
  · rw [if_pos hspacer] at hc
    exact absurd hc (by decide)
  · rw [if_neg hspacer] at hc
    exact hspacer (hc ▸ rfl)

theorem flatten_chunksAfter (before cs : List Char) :
    (chunksAfter habit before cs).flatten = cs := by
  induction before, cs using chunksAfter.induct habit with
  | case1 before => simp [chunksAfter]
  | case2 before c rest more ih =>
    rw [chunksAfter, List.flatten_cons, ih, List.cons_append, List.take_append_drop]

theorem flatten_takeFitting (limit used : Nat) (chunks : List Chunk) :
    (takeFitting limit used chunks).1.flatten ++ (takeFitting limit used chunks).2.flatten
      = chunks.flatten := by
  rw [← List.flatten_append, takeFitting_append]

theorem flatten_fitLong (habit : Habit) (limit : Nat) (line rest : List Chunk) :
    (fitLong habit limit line rest).1.flatten ++ (fitLong habit limit line rest).2.flatten
      = line.flatten ++ rest.flatten := by
  unfold fitLong
  split
  · rfl
  · split
    · rfl
    · cases habit with
      | hyphenated =>
        simp only [List.flatten_append, List.flatten_cons, List.flatten_nil, List.append_nil,
          List.append_assoc]
        rw [← List.append_assoc (List.take _ _), List.take_append_drop]
      | wholeWords =>
        simp only
        split
        · rename_i hempty
          simp [List.isEmpty_iff.1 hempty]
        · rfl

theorem flatten_dropBlankEnd_subset (line : List Chunk) :
    (dropBlankEnd line).flatten ⊆ line.flatten := by
  unfold dropBlankEnd
  split
  · intro c hc
    obtain ⟨chunk, hchunk, hc⟩ := List.mem_flatten.1 hc
    exact List.mem_flatten.2 ⟨chunk, List.dropLast_subset line hchunk, hc⟩
  · exact List.Subset.refl _

theorem flatten_dropBlankStart_subset (started : Bool) (chunks : List Chunk) :
    (dropBlankStart started chunks).flatten ⊆ chunks.flatten := by
  cases chunks with
  | nil => simp [dropBlankStart]
  | cons c rest =>
    rw [dropBlankStart]
    split
    · exact List.subset_append_right _ _
    · exact List.Subset.refl _

/-- A line takes its characters from the chunks, and leaves others of them. -/
theorem nextLine_subset (started : Bool) (chunks : List Chunk) :
    (nextLine habit limit started chunks).1.flatten ⊆ chunks.flatten ∧
      (nextLine habit limit started chunks).2.flatten ⊆ chunks.flatten := by
  have hstart := flatten_dropBlankStart_subset started chunks
  have hfitting := flatten_takeFitting limit 0 (dropBlankStart started chunks)
  have hfilled := flatten_fitLong habit limit
    (takeFitting limit 0 (dropBlankStart started chunks)).1
    (takeFitting limit 0 (dropBlankStart started chunks)).2
  rw [hfitting] at hfilled
  rw [← hfilled] at hstart
  exact ⟨List.Subset.trans (flatten_dropBlankEnd_subset _)
      (List.Subset.trans (List.subset_append_left _ _) hstart),
    List.Subset.trans (List.subset_append_right _ _) hstart⟩

/-- **Packing makes up no characters.** -/
theorem subset_of_mem_pack {started : Bool} {chunks : List Chunk} {line : List Char}
    (h : line ∈ pack habit limit started chunks) : line ⊆ chunks.flatten := by
  -- Along the packing: a line without characters is dropped, any other one is the next line.
  induction started, chunks using pack.induct habit limit with
  | case1 started => simp [pack] at h
  | case2 started c rest next hempty ih =>
    rw [pack] at h
    simp only [next] at hempty ih
    rw [if_pos hempty] at h
    exact List.Subset.trans (ih h) (nextLine_subset started (c :: rest)).2
  | case3 started c rest next hempty ih =>
    rw [pack] at h
    simp only [next] at hempty ih
    rw [if_neg hempty] at h
    rcases List.mem_cons.1 h with rfl | h
    · exact (nextLine_subset started (c :: rest)).1
    · exact List.Subset.trans (ih h) (nextLine_subset started (c :: rest)).2

end Wrap

theorem newline_not_mem_of_mem_wrap {habit : Wrap.Habit} {limit : Nat} {paragraph line : String}
    (h : line ∈ wrap habit limit paragraph) : '\n' ∉ line.toList := by
  obtain ⟨cs, hcs, rfl⟩ := List.mem_map.1 h
  have hsubset := Wrap.subset_of_mem_pack hcs
  rw [Wrap.flatten_chunksAfter] at hsubset
  rw [String.toList_ofList]
  exact fun hmem => Wrap.newline_not_mem_spaced (hsubset hmem)

theorem newline_not_mem_of_mem_filled {habit : Wrap.Habit} {limit : Nat} {paragraph line : String}
    (h : line ∈ Writer.filled habit limit paragraph) : '\n' ∉ line.toList := by
  unfold Writer.filled at h
  split at h
  · rw [List.mem_singleton.1 h]
    simp
  · exact newline_not_mem_of_mem_wrap h

/-- Every line of a filled documentation is the comment of a single line. -/
theorem exists_comment_of_mem {habit : Wrap.Habit} {limit : Nat} {paragraphs : List String}
    {line : String}
    (h : line ∈ (paragraphs.flatMap (Writer.filled habit limit)).map Writer.comment) :
    ∃ single, '\n' ∉ single.toList ∧ line = Writer.comment single := by
  obtain ⟨single, hsingle, rfl⟩ := List.mem_map.1 h
  obtain ⟨paragraph, -, hsingle⟩ := List.mem_flatMap.1 hsingle
  exact ⟨single, newline_not_mem_of_mem_filled hsingle, rfl⟩

/-- **The documentation of a package holds no code.** -/
theorem codeLines_packageDocsLine {text line : String} (h : line ∈ Writer.packageDocsLines text) :
    codeLines line = [] := by
  obtain ⟨single, hsingle, rfl⟩ := exists_comment_of_mem h
  have hmargin : IsIndent "" := by simp [IsIndent]
  simpa using codeLines_comment hmargin hsingle

/-- **Documentation holds no code**, behind any margin that shows nothing. -/
theorem codeLines_docsLine {limit : Nat} {text margin line : String} (hmargin : IsIndent margin)
    (h : line ∈ Writer.docsLines limit text) :
    ((lines line).map (Writer.indented margin)).flatMap codeLines = [] := by
  obtain ⟨single, hsingle, rfl⟩ := exists_comment_of_mem h
  have hfeed : '\n' ∉ (Writer.comment single).toList := by
    unfold Writer.comment
    split <;> simp [hsingle]
  rw [lines_of_not_mem hfeed, List.map_singleton, List.flatMap_singleton, Writer.indented]
  split
  · rfl
  · exact codeLines_comment hmargin hsingle

end ClientGen.Text
