import ClientGen.Declaration.Basic
import ClientGen.Proofs.Symbol.OfShape
import ClientGen.Proofs.Writer.Comments
import ClientGen.Proofs.Writer.Printing

/-!
# The lines that steps add

Lines of parts, empty lines and documentation never fail, and neither does a block of them.  What
they add to a unit depends only on where the writer stands: on its margin, and on the package that
symbols are seen from.  So the lines of steps are those of their parts, one after another, and a
block has those of its body one level deeper.

## Main definitions

* `Writer.printed` — the lines of a text at the place of a writer.
* `Step.Adds` — writers at the place of a writer perform the steps to the end, adding these lines.

## Main results

* `Step.Adds.append`, `Step.Adds.block` — the lines of steps after one another, and of a block.
-/

namespace ClientGen

namespace Part

/-- The text of parts in the package of a path. -/
def texts (path : Option String) (parts : List Part) : String :=
  String.join (parts.map (Part.render path))

variable {path : Option String}

@[simp]
theorem texts_nil : texts path [] = "" := rfl

@[simp]
theorem texts_cons (part : Part) (rest : List Part) :
    texts path (part :: rest) = part.render path ++ texts path rest := by
  simp [texts]

/-- A symbol goes by its name in every package. -/
@[simp]
theorem render_name (symbol : Symbol) : render path (.name symbol) = symbol.name :=
  Symbol.name_relativeTo path symbol

@[simp]
theorem render_text (text : String) : render path (.text text) = text := rfl

@[simp]
theorem render_quoted (text : String) : render path (.quoted text) = Text.quote text := rfl

end Part

theorem Text.isBlankText_of_mem {c : Char} {cs : List Char} (hmem : c ∈ cs)
    (hc : isBlank c = false) : isBlankText cs = false := by
  rw [isBlankText, List.all_eq_false]
  exact ⟨c, hmem, by simp [hc]⟩

namespace Writer

/-- The lines of a text, each behind the margin unless it is blank. -/
def printed (writer : Writer) (text : String) : List String :=
  (Text.lines text).map (indented writer.margin)

variable {base writer : Writer}

theorem printed_of_below (h : Below base 0 writer) (text : String) :
    writer.printed text = base.printed text := by
  rw [printed, printed, margin, margin, h.level, h.indentText]
  simp

theorem commented_of_below (h : Below base 0 writer) (documentation : Json) :
    writer.commented documentation = base.commented documentation := by
  rw [commented, commented, docsLimit, docsLimit, margin, margin, h.level, h.indentText]
  simp

/-- A text of one line that is not blank is printed behind the margin. -/
theorem printed_of_not_mem {text : String} (hline : '\n' ∉ text.toList)
    (hblank : Text.isBlankText text.toList = false) :
    base.printed text = [base.margin ++ text] := by
  rw [printed, Text.lines_of_not_mem hline, List.map_singleton, indented, hblank]
  rfl

/-- The end of a block is one line. -/
theorem printed_brace (writer : Writer) : writer.printed "\x7d" = [writer.margin ++ "\x7d"] :=
  printed_of_not_mem (by decide) (by decide)

end Writer

open Writer (Below)

namespace Step

/-- Every writer at the place of the base performs the steps to the end.  It has added the lines
then, and is back at that place. -/
def Adds (base : Writer) (steps : List Step) (lines : List String) : Prop :=
  ∀ writer, Below base 0 writer →
    ∃ after, writer.run steps = (after, none) ∧ Below base 0 after ∧
      after.lines = writer.lines ++ lines

variable {base : Writer} {first second : List Step} {lines lines' : List String}

theorem adds_nil (base : Writer) : Adds base [] [] :=
  fun writer h => ⟨writer, rfl, h, (List.append_nil _).symm⟩

theorem Adds.append (hfirst : Adds base first lines) (hsecond : Adds base second lines') :
    Adds base (first ++ second) (lines ++ lines') := by
  intro writer h
  obtain ⟨between, hrun, hbetween, hlines⟩ := hfirst writer h
  obtain ⟨after, hrun', hafter, hlines'⟩ := hsecond between hbetween
  refine ⟨after, ?_, hafter, ?_⟩
  · rw [Writer.run_append, hrun]
    exact hrun'
  · rw [hlines', hlines, List.append_assoc]

theorem adds_flatMap {α : Type} {steps : α → List Step} {lines : α → List String} (xs : List α)
    (h : ∀ x ∈ xs, Adds base (steps x) (lines x)) :
    Adds base (xs.flatMap steps) (xs.flatMap lines) := by
  induction xs with
  | nil => exact adds_nil base
  | cons x rest ih =>
    obtain ⟨hx, hrest⟩ := List.forall_mem_cons.1 h
    exact hx.append (ih hrest)

/-- Writing parts adds the lines of their text. -/
theorem exists_write {writer : Writer} (h : Below base 0 writer) (parts : List Part) :
    ∃ after, writer.write (.parts parts) = (after, none) ∧ Below base 0 after ∧
      after.lines = writer.lines ++ base.printed (Part.texts base.imports.ownPath parts) := by
  have hown := Imports.ownPath_trackAll writer.imports (Phrase.parts parts).dependencies
  refine ⟨_, rfl, ⟨h.indentText, hown.trans h.ownPath, h.level⟩, ?_⟩
  show writer.lines ++ writer.printed (Part.texts _ parts) = _
  rw [Writer.printed_of_below h, ← h.ownPath]
  exact congrArg (fun path => writer.lines ++ base.printed (Part.texts path parts)) hown

theorem adds_line {parts : List Part} {text : String}
    (htext : Part.texts base.imports.ownPath parts = text) :
    Adds base [.line parts] (base.printed text) := by
  intro writer h
  obtain ⟨after, hwrite, hafter, hlines⟩ := exists_write h parts
  refine ⟨after, ?_, hafter, htext ▸ hlines⟩
  rw [line, Writer.run, Writer.perform, hwrite]
  rfl

/-- A text of one line that is not blank is added behind the margin. -/
theorem adds_line_of_not_mem {parts : List Part} {text : String}
    (htext : Part.texts base.imports.ownPath parts = text) (hline : '\n' ∉ text.toList)
    (hblank : Text.isBlankText text.toList = false) :
    Adds base [.line parts] [base.margin ++ text] :=
  Writer.printed_of_not_mem hline hblank ▸ adds_line htext

theorem adds_blank (base : Writer) : Adds base [.blank] [""] :=
  fun writer h => ⟨writer.blank, rfl, ⟨h.indentText, h.ownPath, h.level⟩, rfl⟩

theorem adds_docs (base : Writer) (documentation : Json) :
    Adds base [.docs documentation] (base.commented documentation) := by
  intro writer h
  refine ⟨writer.docs documentation, rfl, ?_, ?_⟩
  · rw [Writer.docs_eq]
    exact ⟨h.indentText, h.ownPath, h.level⟩
  · rw [Writer.docs_eq, Writer.commented_of_below h]

/-- **A block adds the lines of its body one level deeper**, between those of its two ends. -/
theorem Adds.block (hlevel : 0 ≤ base.level) {opening closing : List Part} {body : List Step}
    {start ending : String} (hstart : Part.texts base.imports.ownPath opening = start)
    (hbody : Adds base.indent body lines)
    (hending : Part.texts base.imports.ownPath closing = ending) :
    Adds base [.block (.parts opening) (.parts closing) body]
      (base.printed start ++ lines ++ base.printed ending) := by
  intro writer h
  obtain ⟨opened, hopening, hopened, hlines⟩ := exists_write h opening
  have hinner : Below base.indent 0 opened.indent := by
    refine ⟨hopened.indentText, hopened.ownPath, ?_⟩
    simp only [Writer.indent, hopened.level]
    omega
  obtain ⟨inside, hrun, hinside, hadded⟩ := hbody opened.indent hinner
  have hinsideLevel : inside.level = base.level + 1 := by
    rw [hinside.level]
    exact Int.add_zero _
  -- The way back to the margin cannot fail, for the level was not below zero before.
  obtain ⟨left, hdedent, hleft, hkept⟩ : ∃ left, inside.dedent = (left, none) ∧ Below base 0 left ∧
      left.lines = inside.lines := by
    refine ⟨{ inside with level := inside.level - 1 }, ?_, ?_, rfl⟩
    · rw [Writer.dedent, if_neg (by omega)]
    · refine ⟨hinside.indentText, hinside.ownPath, ?_⟩
      show inside.level - 1 = base.level + (0 : Nat)
      omega
  obtain ⟨after, hclosing, hafter, hlast⟩ := exists_write hleft closing
  refine ⟨after, ?_, hafter, ?_⟩
  · rw [Writer.run, Writer.perform, hopening]
    simp only [Writer.Outcome.andThen, hrun, hdedent, hclosing, Writer.run]
  · rw [hlast, hkept, hadded]
    show opened.lines ++ lines ++ _ = _
    rw [hlines, hstart, hending]
    simp only [List.append_assoc]

/-- A block that is closed again was not opened in front of the margin. -/
theorem Adds.level_of_block {opening : List Part} {closing : Phrase} {body : List Step}
    (hbody : Adds base.indent body lines) {writer : Writer} (h : Below base 0 writer)
    (hclosed : (writer.perform (.block (.parts opening) closing body)).2 = none) :
    0 ≤ base.level := by
  obtain ⟨opened, hopening, hopened, -⟩ := exists_write h opening
  have hinner : Below base.indent 0 opened.indent := by
    refine ⟨hopened.indentText, hopened.ownPath, ?_⟩
    simp only [Writer.indent, hopened.level]
    omega
  obtain ⟨inside, hrun, hinside, -⟩ := hbody opened.indent hinner
  rw [Writer.perform, hopening] at hclosed
  simp only [Writer.Outcome.andThen, hrun] at hclosed
  have hdedent : inside.dedent.2 = none := by
    cases hresult : inside.dedent.2 with
    | none => rfl
    | some failure => simp [hresult] at hclosed
  have hlevel : inside.level = base.level + 1 := by
    rw [hinside.level]
    exact Int.add_zero _
  by_contra hbelow
  rw [Writer.dedent, if_pos (by omega)] at hdedent
  exact absurd hdedent (by simp)

end Step

/-- The comment lines of a documentation, if the settings want them. -/
def Context.commented (context : Context) (writer : Writer) (documentation : Json) : List String :=
  if context.settings.hasComments then writer.commented documentation else []

theorem Context.adds_docs (context : Context) (base : Writer) (documentation : Json) :
    Step.Adds base (context.docs documentation) (context.commented base documentation) := by
  unfold docs commented
  split
  · exact Step.adds_docs base documentation
  · exact Step.adds_nil base

end ClientGen
