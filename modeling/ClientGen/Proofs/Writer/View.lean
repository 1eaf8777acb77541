import ClientGen.Proofs.Text.Code
import ClientGen.Writer.Layout
import ClientGen.Writer.Step

/-!
# What of a unit is looked at

Two units can be compared in full, or by their code only: then documentation, comments and empty
lines do not count.  A view says which of the two is meant.  What a step writes is reduced to what
the view shows of it (`Step.seenAll`), and two lists of steps that are reduced to the same steps
leave writers that look alike, whatever the writers held before.

For the view of code this rests on documentation holding no code, which takes an indentation that
shows nothing.

## Main definitions

* `View` — the two ways of comparing.
* `Step.seenAll` — steps as a view shows them.
* `Writer.Alike` — two writers look alike.

## Main results

* `Writer.Alike.run` — steps that look alike keep writers alike.
* `Writer.Alike.toText` — writers that look alike are laid out alike.
-/

namespace ClientGen

/-- What of a run is compared: its files, or only the code in them. -/
inductive View where
  | files
  | code

namespace View

variable (view : View)

/-- A documentation as it is seen. -/
def documentation (documentation : Json) : Json :=
  match view with
  | files => documentation
  | code => .null

/-- A documentation of the package as it is seen, if it is one. -/
def packageDocs (documentation : Json) : Json :=
  match view, documentation with
  | code, .str _ => .str ""
  | _, documentation => documentation

/-- Steps that write no code, as they are seen. -/
def remarks (steps : List Step) : List Step :=
  match view with
  | files => steps
  | code => []

/-- Texts, line by line, as they are seen. -/
def lines (texts : List String) : List String :=
  match view with
  | files => texts
  | code => texts.flatMap Text.codeLines

/-- Whether the text of a level of indentation shows nothing, if that matters. -/
def Indents (text : String) : Prop :=
  match view with
  | files => True
  | code => Text.IsIndent text

theorem lines_append (first second : List String) :
    view.lines (first ++ second) = view.lines first ++ view.lines second := by
  cases view with
  | files => rfl
  | code => exact List.flatMap_append

end View

/-! ## Symbols and phrases -/

namespace Symbol

variable (view : View) (symbol : Symbol)

/-- A symbol as it is seen: its documentation is not code. -/
def seen (view : View) : Symbol → Symbol
  | named identity =>
    named { identity with documentation := view.documentation identity.documentation }
  | composite container element isPointer => composite container (element.seen view) isPointer

@[simp] theorem name_seen : (symbol.seen view).name = symbol.name := by
  induction symbol with
  | named identity => rfl
  | composite container element isPointer ih => simp only [seen, name, ih]

@[simp] theorem isPointer_seen : (symbol.seen view).isPointer = symbol.isPointer := by
  cases symbol <;> rfl

@[simp] theorem unit?_seen : (symbol.seen view).unit? = symbol.unit? := by
  cases symbol <;> rfl

@[simp] theorem dependency?_seen : (symbol.seen view).dependency? = symbol.dependency? := by
  cases symbol <;> rfl

@[simp] theorem dependencies_seen : (symbol.seen view).dependencies = symbol.dependencies := by
  induction symbol with
  | named identity => rfl
  | composite container element isPointer ih => simp only [seen, dependencies, ih]

@[simp] theorem fullName_seen : (symbol.seen view).fullName = symbol.fullName := by
  induction symbol with
  | named identity => rfl
  | composite container element isPointer ih => simp only [seen, fullName, isPointer_seen, ih]

theorem pointer_seen : (symbol.seen view).pointer = symbol.pointer := by
  simp only [pointer, isPointer_seen, fullName_seen]

theorem scope_seen : (symbol.seen view).scope = symbol.scope := by
  simp only [scope, dependency?_seen, unit?_seen]

theorem relativeTo_seen (path : Option String) :
    (symbol.seen view).relativeTo path = (symbol.relativeTo path).seen view := by
  induction symbol with
  | named identity =>
    simp only [seen, relativeTo]
    split
    · split <;> rfl
    · rfl
  | composite container element isPointer ih => simp only [seen, relativeTo, ih]

end Symbol

namespace Part

/-- A part as it is seen. -/
@[simp] def seen (view : View) : Part → Part
  | text literal => text literal
  | full symbol => full (symbol.seen view)
  | pointer symbol => pointer (symbol.seen view)
  | name symbol => name (symbol.seen view)
  | quoted literal => quoted literal

theorem dependencies_seen (view : View) (part : Part) :
    (part.seen view).dependencies = part.dependencies := by
  cases part <;> simp only [seen, dependencies, Symbol.dependencies_seen]

theorem render_seen (view : View) (path : Option String) (part : Part) :
    (part.seen view).render path = part.render path := by
  cases part <;> simp only [seen, render, Symbol.relativeTo_seen, Symbol.fullName_seen,
    Symbol.pointer_seen, Symbol.name_seen]

end Part

namespace Phrase

/-- A phrase as it is seen. -/
@[simp] def seen (view : View) : Phrase → Phrase
  | parts found => parts (found.map (Part.seen view))
  | template source args => template source args

theorem dependencies_seen (view : View) (phrase : Phrase) :
    (phrase.seen view).dependencies = phrase.dependencies := by
  cases phrase with
  | parts found => simp only [seen, dependencies, List.flatMap_map, Part.dependencies_seen]
  | template source args => rfl

theorem isCallable_seen (view : View) (phrase : Phrase) :
    (phrase.seen view).isCallable = phrase.isCallable := by
  cases phrase <;> rfl

theorem render_seen (view : View) (path : Option String) (phrase : Phrase) :
    (phrase.seen view).render path = phrase.render path := by
  cases phrase with
  | parts found =>
    have hrender : Part.render path ∘ Part.seen view = Part.render path :=
      funext fun part => Part.render_seen view path part
    simp only [seen, render, List.map_map, hrender]
  | template source args => rfl

end Phrase

theorem Writer.write_seen (view : View) (writer : Writer) (phrase : Phrase) :
    writer.write (phrase.seen view) = writer.write phrase := by
  simp only [write, Phrase.isCallable_seen, Phrase.dependencies_seen, Phrase.render_seen]

/-! ## Failures -/

/-- The definition of an enum value without the documentation in it. -/
def EnumValue.undocumented : Json → Json
  | .obj fields => .obj (fields.filter (·.1 != "documentation"))
  | node => node

/-- The definition of an enum value as it is seen. -/
def View.definition (view : View) (node : Json) : Json :=
  match view with
  | files => node
  | code => EnumValue.undocumented node

theorem View.definition_definition (view : View) (node : Json) :
    view.definition (view.definition node) = view.definition node := by
  cases view with
  | files => rfl
  | code => cases node <;> simp [definition, EnumValue.undocumented]

namespace Failure

/-- A failure as it is seen; one of them quotes the definition of an enum value. -/
def seen (view : View) : Failure → Failure
  | .model (.enumValueMissing node) => .model (.enumValueMissing (view.definition node))
  | failure => failure

theorem seen_files (failure : Failure) : failure.seen .files = failure := by
  unfold seen
  split <;> rfl

theorem seen_seen (view : View) (failure : Failure) :
    (failure.seen view).seen view = failure.seen view := by
  cases failure with
  | model fault =>
    cases fault with
    | enumValueMissing node => simp only [seen, View.definition_definition]
    | _ => rfl
  | _ => rfl

/-- Two failures are the same as they are seen. -/
def Alike (view : View) (first second : Failure) : Prop :=
  first.seen view = second.seen view

end Failure

/-! ## Steps -/

namespace Step

mutual

/-- A step as it is seen: documentation, comments and empty lines are not code. -/
@[simp] def seen (view : View) : Step → List Step
  | .write phrase => [.write (phrase.seen view)]
  | .blank => view.remarks [.blank]
  | .docs documentation => view.remarks [.docs documentation]
  | .packageDocs documentation => [.packageDocs (view.packageDocs documentation)]
  | .indent levels => [.indent levels]
  | .dedent levels => [.dedent levels]
  | .use dependencies => [.use dependencies]
  | .block opening closing body =>
    [.block (opening.seen view) (closing.seen view) (seenAll view body)]
  | .fail failure => [.fail (failure.seen view)]
termination_by structural step => step

/-- Steps as they are seen. -/
@[simp] def seenAll (view : View) : List Step → List Step
  | [] => []
  | step :: rest => seen view step ++ seenAll view rest
termination_by structural steps => steps

end

@[simp] theorem seenAll_append (view : View) (first second : List Step) :
    seenAll view (first ++ second) = seenAll view first ++ seenAll view second := by
  induction first with
  | nil => rfl
  | cons step rest ih => simp only [List.cons_append, seenAll, ih, List.append_assoc]

theorem seenAll_flatMap {α : Type} (view : View) (xs : List α) (steps : α → List Step) :
    seenAll view (xs.flatMap steps) = xs.flatMap fun x => seenAll view (steps x) := by
  induction xs with
  | nil => rfl
  | cons x rest ih => rw [List.flatMap_cons, seenAll_append, ih, List.flatMap_cons]

end Step

/-! ## Writers -/

namespace Writer

variable {view : View} {writer writer' : Writer}

/-- Two writers look alike: they differ at most in what is not seen of their lines. -/
structure Alike (view : View) (writer writer' : Writer) : Prop where
  path : writer.path = writer'.path
  packageName : writer.packageName = writer'.packageName
  indentText : writer.indentText = writer'.indentText
  imports : writer.imports = writer'.imports
  level : writer.level = writer'.level
  lines : view.lines writer.lines = view.lines writer'.lines
  packageDocs : view.lines writer.packageDocs = view.lines writer'.packageDocs
  /-- Indentation shows nothing. -/
  indents : view.Indents writer.indentText

/-- Two outcomes look alike: the writers do, and so do the failures, if there are any. -/
inductive Outcome.Alike (view : View) : Outcome → Outcome → Prop
  | done {writer writer' : Writer} (h : Writer.Alike view writer writer') :
      Alike view (writer, none) (writer', none)
  | stopped {writer writer' : Writer} {failure failure' : Failure}
      (h : Writer.Alike view writer writer') (hfailure : failure.Alike view failure') :
      Alike view (writer, some failure) (writer', some failure')

theorem Alike.refl (h : view.Indents writer.indentText) : Alike view writer writer :=
  ⟨rfl, rfl, rfl, rfl, rfl, rfl, rfl, h⟩

theorem Alike.symm (h : Alike view writer writer') : Alike view writer' writer where
  path := h.path.symm
  packageName := h.packageName.symm
  indentText := h.indentText.symm
  imports := h.imports.symm
  level := h.level.symm
  lines := h.lines.symm
  packageDocs := h.packageDocs.symm
  indents := h.indentText ▸ h.indents

theorem Alike.trans {writer'' : Writer} (h : Alike view writer writer')
    (h' : Alike view writer' writer'') : Alike view writer writer'' where
  path := h.path.trans h'.path
  packageName := h.packageName.trans h'.packageName
  indentText := h.indentText.trans h'.indentText
  imports := h.imports.trans h'.imports
  level := h.level.trans h'.level
  lines := h.lines.trans h'.lines
  packageDocs := h.packageDocs.trans h'.packageDocs
  indents := h.indents

theorem Outcome.Alike.symm {outcome outcome' : Outcome} (h : Outcome.Alike view outcome outcome') :
    Outcome.Alike view outcome' outcome := by
  cases h with
  | done h => exact .done h.symm
  | stopped h hfailure => exact .stopped h.symm hfailure.symm

theorem Outcome.Alike.trans {first second third : Outcome} (h : Outcome.Alike view first second)
    (h' : Outcome.Alike view second third) : Outcome.Alike view first third := by
  cases h with
  | done h =>
    cases h' with
    | done h' => exact .done (h.trans h')
  | stopped h hfailure =>
    cases h' with
    | stopped h' hfailure' => exact .stopped (h.trans h') (hfailure.trans hfailure')

theorem Alike.eq (h : Alike .files writer writer') : writer = writer' := by
  obtain ⟨path, packageName, indentText, imports, lines, level, packageDocs⟩ := writer
  obtain ⟨path', packageName', indentText', imports', lines', level', packageDocs'⟩ := writer'
  obtain ⟨rfl, rfl, rfl, rfl, rfl, rfl, rfl, -⟩ := h
  rfl

theorem Outcome.Alike.andThen {outcome outcome' : Outcome} {next next' : Writer → Outcome}
    (h : Outcome.Alike view outcome outcome')
    (hnext : ∀ {writer writer'}, Writer.Alike view writer writer' →
      Outcome.Alike view (next writer) (next' writer')) :
    Outcome.Alike view (outcome.andThen next) (outcome'.andThen next') := by
  cases h with
  | done h => exact hnext h
  | stopped h hfailure => exact .stopped h hfailure

theorem Alike.margin (h : Alike view writer writer') : writer.margin = writer'.margin := by
  rw [Writer.margin, Writer.margin, h.level, h.indentText]

theorem Alike.append (h : Alike view writer writer') (text : String) :
    Alike view (writer.append text) (writer'.append text) where
  __ := h
  lines := by
    simp only [Writer.append, View.lines_append, h.lines, h.margin]

theorem Alike.use (h : Alike view writer writer') (dependencies : List Dependency) :
    Alike view (writer.use dependencies) (writer'.use dependencies) where
  __ := h
  imports := by simp only [Writer.use, h.imports]

theorem Alike.indent (h : Alike view writer writer') (levels : Int) :
    Alike view (writer.indent levels) (writer'.indent levels) where
  __ := h
  level := by simp only [Writer.indent, h.level]

theorem Alike.dedent (h : Alike view writer writer') (levels : Int) :
    Outcome.Alike view (writer.dedent levels) (writer'.dedent levels) := by
  by_cases hlevel : levels > writer.level
  · have hlevel' : levels > writer'.level := h.level ▸ hlevel
    rw [Writer.dedent, if_pos hlevel, Writer.dedent, if_pos hlevel', h.level, h.path]
    exact .stopped h rfl
  · have hlevel' : ¬ levels > writer'.level := h.level ▸ hlevel
    rw [Writer.dedent, if_neg hlevel, Writer.dedent, if_neg hlevel']
    exact .done { h with level := congrArg (· - levels) h.level }

theorem Alike.write (h : Alike view writer writer') (phrase : Phrase) :
    Outcome.Alike view (writer.write phrase) (writer'.write phrase) := by
  unfold Writer.write
  split
  · have hused := h.use phrase.dependencies
    dsimp only
    rw [hused.imports]
    split
    · exact .done (hused.append _)
    · exact .stopped hused rfl
  · exact .stopped h rfl

/-! ### Documentation -/

theorem isIndent_margin (h : Text.IsIndent writer.indentText) : Text.IsIndent writer.margin :=
  Text.isIndent_join fun _ htext => List.eq_of_mem_replicate htext ▸ h

/-- Lines that hold no code can be added to one of two writers whose code is the same. -/
theorem Alike.appendAll (h : Alike .code writer writer') {added : List String}
    (hadded : ∀ line ∈ added,
      ((Text.lines line).map (indented writer.margin)).flatMap Text.codeLines = []) :
    Alike .code (added.foldl Writer.append writer) writer' := by
  induction added generalizing writer with
  | nil => exact h
  | cons line rest ih =>
    rw [List.foldl_cons]
    refine ih { h with lines := ?_ } fun other hother =>
      hadded other (List.mem_cons_of_mem line hother)
    rw [Writer.append, View.lines_append, View.lines.eq_def .code (List.map _ _)]
    simp only [hadded line List.mem_cons_self, List.append_nil]
    exact h.lines

theorem Alike.docs (h : Alike .code writer writer') (documentation : Json) :
    Alike .code (writer.docs documentation) writer' := by
  unfold Writer.docs
  split
  · exact h.appendAll fun line hline =>
      Text.codeLines_docsLine (isIndent_margin h.indents) hline
  · exact h

theorem lines_packageDocsLines (text : String) :
    View.lines .code (packageDocsLines text) = [] :=
  List.flatMap_eq_nil_iff.2 fun _ hline => Text.codeLines_packageDocsLine hline

theorem Alike.withPackageDocs (h : Alike view writer writer') {docs docs' : List String}
    (hdocs : view.lines docs = view.lines docs') :
    Alike view { writer with packageDocs := docs } { writer' with packageDocs := docs' } where
  __ := h
  packageDocs := hdocs

theorem Alike.documentPackage (h : Alike view writer writer') (documentation : Json) :
    Outcome.Alike view (writer.documentPackage documentation)
      (writer'.documentPackage (view.packageDocs documentation)) := by
  cases documentation with
  | str text =>
    cases view with
    | files => exact .done (h.withPackageDocs rfl)
    | code =>
      refine .done (h.withPackageDocs ?_)
      rw [lines_packageDocsLines, lines_packageDocsLines]
  | null | bool | int | real | arr | obj => cases view <;> exact .stopped h rfl

/-! ### Steps -/

theorem run_singleton (writer : Writer) (step : Step) :
    writer.run [step] = writer.perform step := by
  rw [run]
  rcases writer.perform step with ⟨after, _ | failure⟩ <;> rfl

mutual

/-- A step, and what is seen of it, leave writers alike. -/
theorem Alike.perform : ∀ (step : Step) {writer writer' : Writer}, Alike view writer writer' →
    Outcome.Alike view (writer.perform step) (writer'.run (step.seen view))
  | .write phrase, writer, writer', h => by
    rw [Step.seen, run_singleton, Writer.perform, Writer.perform, write_seen]
    exact h.write phrase
  | .blank, writer, writer', h => by
    cases view with
    | files => exact h.eq ▸ .done (.refl trivial)
    | code =>
      refine .done { h with lines := ?_ }
      rw [blank, View.lines_append, h.lines]
      exact List.append_nil _
  | .docs documentation, writer, writer', h => by
    cases view with
    | files => exact h.eq ▸ .done (.refl trivial)
    | code => exact .done (h.docs documentation)
  | .packageDocs documentation, writer, writer', h => by
    rw [Step.seen, run_singleton]
    exact h.documentPackage documentation
  | .indent levels, writer, writer', h => by
    rw [Step.seen, run_singleton]
    exact .done (h.indent levels)
  | .dedent levels, writer, writer', h => by
    rw [Step.seen, run_singleton]
    exact h.dedent levels
  | .use dependencies, writer, writer', h => by
    rw [Step.seen, run_singleton]
    exact .done (h.use dependencies)
  | .block opening closing body, writer, writer', h => by
    rw [Step.seen, run_singleton, Writer.perform, Writer.perform, write_seen]
    refine (h.write opening).andThen fun h => ?_
    refine ((h.indent 1).runSeen body).andThen fun h => ?_
    refine (h.dedent 1).andThen fun h => ?_
    rw [write_seen]
    exact h.write closing
  | .fail failure, writer, writer', h => by
    rw [Step.seen, run_singleton]
    exact .stopped h (failure.seen_seen view).symm
termination_by structural step => step

/-- Steps, and what is seen of them, leave writers alike. -/
theorem Alike.runSeen : ∀ (steps : List Step) {writer writer' : Writer}, Alike view writer writer' →
    Outcome.Alike view (writer.run steps) (writer'.run (Step.seenAll view steps))
  | [], writer, writer', h => .done h
  | step :: rest, writer, writer', h => by
    rw [run, Step.seenAll, run_append]
    exact (Alike.perform step h).andThen fun h => Alike.runSeen rest h
termination_by structural steps => steps

end

/-- **Steps that look alike keep writers alike.** -/
theorem Alike.run (h : Alike view writer writer') {steps steps' : List Step}
    (hsteps : Step.seenAll view steps = Step.seenAll view steps') :
    Outcome.Alike view (writer.run steps) (writer'.run steps') := by
  -- Both runs are compared with the run of what is seen of either list of steps.
  have hfirst := Alike.runSeen steps h
  have hsecond := Alike.runSeen steps' (.refl h.symm.indents)
  rw [hsteps] at hfirst
  exact hfirst.trans hsecond.symm

/-! ### Layout -/

/-- The code of a unit is that of its parts, one after another. -/
theorem codeLines_unit (packageDocs packageName : String) (groups : List (List Dependency))
    (body : String) :
    Text.codeLines (Layout.unit packageDocs packageName groups body)
      = Text.codeLines Layout.notice ++ Text.codeLines packageDocs
        ++ Text.codeLines ("package " ++ packageName ++ "\n" ++ Layout.importBlock groups)
        ++ Text.codeLines body := by
  have hdocs : ∀ rest : String,
      Text.codeLines ((if packageDocs.isEmpty then "" else packageDocs ++ "\n") ++ rest)
        = Text.codeLines packageDocs ++ Text.codeLines rest := by
    intro rest
    split
    · rename_i hempty
      rw [String.isEmpty_iff.1 hempty, String.empty_append, Text.codeLines_empty, List.nil_append]
    · exact Text.codeLines_newline packageDocs rest
  -- The line ends around a body are there only if it is not empty; blank lines are no code.
  have hbody : ∀ front : String,
      Text.codeLines (front ++ if body.isEmpty then "" else "\n" ++ body ++ "\n")
        = Text.codeLines front ++ Text.codeLines body := by
    intro front
    split
    · rename_i hempty
      rw [String.isEmpty_iff.1 hempty, String.append_empty, Text.codeLines_empty, List.append_nil]
    · have htext : front ++ ("\n" ++ body ++ "\n") = front ++ "\n" ++ (body ++ "\n" ++ "") := by
        simp only [String.append_assoc, String.append_empty]
      rw [htext, Text.codeLines_newline, Text.codeLines_newline, Text.codeLines_empty,
        List.append_nil]
  have hunit : Layout.unit packageDocs packageName groups body
      = Layout.notice ++ "\n" ++ ((if packageDocs.isEmpty then "" else packageDocs ++ "\n")
        ++ ("package " ++ packageName ++ "\n" ++ Layout.importBlock groups
          ++ if body.isEmpty then "" else "\n" ++ body ++ "\n")) := by
    simp only [Layout.unit, String.append_assoc]
  rw [hunit, Text.codeLines_newline, hdocs, hbody]
  simp only [List.append_assoc]

/-- **Writers that look alike are laid out alike.** -/
theorem Alike.toText (h : Alike view writer writer') :
    view.lines [writer.toText] = view.lines [writer'.toText] := by
  cases view with
  | files => rw [h.eq]
  | code =>
    have hlines : ∀ texts texts', View.lines .code texts = View.lines .code texts' →
        Text.codeLines (Text.unlines texts) = Text.codeLines (Text.unlines texts') := by
      intro texts texts' htexts
      rw [Text.codeLines_unlines, Text.codeLines_unlines]
      exact htexts
    have hcode : Text.codeLines writer.toText = Text.codeLines writer'.toText := by
      simp only [Writer.toText, Writer.body, codeLines_unit, Text.codeLines_strip,
        hlines _ _ h.packageDocs, hlines _ _ h.lines, h.packageName, h.imports]
    simpa only [View.lines, List.flatMap_singleton] using hcode

end Writer

end ClientGen
