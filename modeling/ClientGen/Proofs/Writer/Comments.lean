import ClientGen.Proofs.Text.Filling

/-!
# Documentation as comments

What a documentation becomes in a unit: comment lines behind the margin, which hold its words, all
of them and in order, whatever the documentation is.  Nothing of it stands outside a comment, and a
line is wider than the limit only where a single word is.

## Main results

* `Writer.docs_eq` — the lines that a documentation adds.
* `Writer.docs_comments` — they are comments within the limit that hold the words.
-/

namespace ClientGen

namespace Writer

open Text (words)

/-! ## Lines -/

theorem newline_not_mem_comment {line : String} (h : '\n' ∉ line.toList) :
    '\n' ∉ (comment line).toList := by
  unfold comment
  split
  · simp
  · simpa using h

/-- A comment of one line is added as it is, behind the margin. -/
theorem append_comment (writer : Writer) {line : String} (h : '\n' ∉ line.toList) :
    writer.append (comment line)
      = { writer with lines := writer.lines ++ [writer.margin ++ comment line] } := by
  have hblank : Text.isBlankText (comment line).toList = false := by
    unfold comment
    split
    · rfl
    · rw [String.toList_append]
      rfl
  rw [append, Text.lines_of_not_mem (newline_not_mem_comment h), List.map_singleton, indented,
    hblank]
  rfl

theorem foldl_append_comments (writer : Writer) {lines : List String}
    (h : ∀ line ∈ lines, '\n' ∉ line.toList) :
    (lines.map comment).foldl append writer = { writer with
      lines := writer.lines ++ lines.map fun line => writer.margin ++ comment line } := by
  induction lines generalizing writer with
  | nil => simp
  | cons line rest ih =>
    obtain ⟨hline, hrest⟩ := List.forall_mem_cons.1 h
    rw [List.map_cons, List.foldl_cons, append_comment writer hline, ih _ hrest]
    simp [margin]

/-- The contents of the comments of a documentation. -/
def docsContents (limit : Nat) (documentation : Json) : List String :=
  if documentation.truthy then (paragraphs documentation.text).flatMap (filled .wholeWords limit)
  else []

theorem newline_not_mem_docsContents {limit : Nat} {documentation : Json} {content : String}
    (h : content ∈ docsContents limit documentation) : '\n' ∉ content.toList := by
  unfold docsContents at h
  split at h
  · obtain ⟨paragraph, -, hcontent⟩ := List.mem_flatMap.1 h
    exact Text.newline_not_mem_of_mem_filled hcontent
  · simp at h

/-- The comment lines of a documentation, each behind the margin. -/
def commented (writer : Writer) (documentation : Json) : List String :=
  (docsContents writer.docsLimit documentation).map fun content => writer.margin ++ comment content

/-- **The lines that a documentation adds** are comments. -/
theorem docs_eq (writer : Writer) (documentation : Json) :
    writer.docs documentation
      = { writer with lines := writer.lines ++ writer.commented documentation } := by
  have hlines : ∀ content ∈ docsContents writer.docsLimit documentation, '\n' ∉ content.toList :=
    fun _ => newline_not_mem_docsContents
  rw [commented, ← foldl_append_comments writer hlines]
  unfold docs docsContents
  by_cases htruthy : documentation.truthy
  · simp [htruthy, docsLines]
  · simp [htruthy]

/-! ## Words -/

theorem words_filled (limit : Nat) (paragraph : String) :
    (filled .wholeWords limit paragraph).flatMap (fun line => words line.toList)
      = words paragraph.toList := by
  rw [← Text.words_wrap limit paragraph]
  unfold filled
  split
  · rename_i hnone
    rw [hnone]
    rfl
  · rfl

theorem length_of_mem_filled {limit : Nat} {paragraph line : String}
    (h : line ∈ filled .wholeWords limit paragraph) :
    line.length ≤ limit ∨ limit < line.length ∧ words line.toList = [line.toList] := by
  unfold filled at h
  split at h
  · rw [List.mem_singleton.1 h]
    exact .inl (Nat.zero_le limit)
  · exact Text.length_of_mem_wrap h

theorem words_docsContents (limit : Nat) (text : String) :
    (docsContents limit (.str text)).flatMap (fun content => words content.toList)
      = words (Text.strip text).toList := by
  unfold docsContents
  split
  · rw [List.flatMap_assoc]
    simp only [words_filled, paragraphs, Text.lines, List.flatMap_map, String.toList_ofList]
    exact Text.words_pieces _
  · rename_i hfalsy
    have hempty : text = "" := by simpa [Json.truthy] using hfalsy
    rw [hempty]
    rfl

theorem length_of_mem_docsContents {limit : Nat} {documentation : Json} {content : String}
    (h : content ∈ docsContents limit documentation) :
    content.length ≤ limit ∨ limit < content.length ∧ words content.toList = [content.toList] := by
  unfold docsContents at h
  split at h
  · obtain ⟨paragraph, -, hcontent⟩ := List.mem_flatMap.1 h
    exact length_of_mem_filled hcontent
  · simp at h

theorem newline_not_mem_margin {writer : Writer} (h : '\n' ∉ writer.indentText.toList) :
    '\n' ∉ writer.margin.toList := by
  rw [margin, String.toList_join, List.mem_flatMap]
  rintro ⟨text, htext, hmem⟩
  exact h (List.eq_of_mem_replicate htext ▸ hmem)

theorem docsLimit_eq (writer : Writer) :
    (writer.docsLimit : Int) = max (77 - writer.indentText.length * writer.level) 20 := by
  have hwidth : (docsWidth : Int) - 3 = 77 := rfl
  rw [docsLimit, hwidth, Int.toNat_of_nonneg (by omega)]

/-- **Documentation stays in comments, whole and in order.**  Whatever the text is, it adds lines
that are a margin and a comment each.  The content of a comment keeps to the limit unless it is a
single word, and the words of the contents, one after another, are those of the text. -/
theorem docs_comments (writer : Writer) (text : String)
    (hindent : '\n' ∉ writer.indentText.toList) :
    ∃ contents : List String,
      writer.docs (.str text) = { writer with
        lines := writer.lines ++ contents.map fun content =>
          writer.margin ++ if content = "" then "//" else "// " ++ content } ∧
      (∀ content ∈ contents, '\n' ∉ (writer.margin ++ content).toList ∧
        ((content.length : Int) ≤ max (77 - writer.indentText.length * writer.level) 20 ∨
          max (77 - writer.indentText.length * writer.level) 20 < (content.length : Int) ∧
            words content.toList = [content.toList])) ∧
      contents.flatMap (fun content => words content.toList) = words (Text.strip text).toList := by
  refine ⟨docsContents writer.docsLimit (.str text), ?_, ?_, words_docsContents _ text⟩
  · simpa only [commented, comment, String.isEmpty_iff] using docs_eq writer (.str text)
  · intro content hcontent
    constructor
    · rw [String.toList_append, List.mem_append, not_or]
      exact ⟨newline_not_mem_margin hindent, newline_not_mem_docsContents hcontent⟩
    · rw [← docsLimit_eq]
      exact_mod_cast length_of_mem_docsContents hcontent

/-- A documentation in a unit whose margin is so wide that the least width applies, with a tab, a
word that is blank, a word wider than a line and an empty paragraph. -/
theorem docs_comments_narrow :
    let writer : Writer := {
      path := "a.go", packageName := "a", level := 2
      indentText := String.ofList (List.replicate 32 ' ') }
    let text := " Aa\tb \u00a0 withinaverylongword-of-many-letters\n\n  last "
    '\n' ∉ writer.indentText.toList ∧
    words (Text.strip text).toList
      = ["Aa", "b", "withinaverylongword-of-many-letters", "last"].map String.toList ∧
    ∃ contents : List String,
      writer.docs (.str text) = { writer with
        lines := writer.lines ++ contents.map fun content =>
          writer.margin ++ if content = "" then "//" else "// " ++ content } ∧
      (∀ content ∈ contents, '\n' ∉ (writer.margin ++ content).toList ∧
        ((content.length : Int) ≤ max (77 - writer.indentText.length * writer.level) 20 ∨
          max (77 - writer.indentText.length * writer.level) 20 < (content.length : Int) ∧
            words content.toList = [content.toList])) ∧
      contents.flatMap (fun content => words content.toList) = words (Text.strip text).toList :=
  ⟨by decide +kernel, by decide +kernel, docs_comments _ _ (by decide +kernel)⟩

end Writer

end ClientGen
