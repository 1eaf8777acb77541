import ClientGen.Proofs.Dependency.Imports
import ClientGen.Writer.Step

/-!
# Steps that are performed to the end

Steps succeed together only if each of them does, and a block only if its body does, so a failure
written into steps shows that they never succeed.  The imports of a writer after steps are those
before them and the packages that the steps note, wherever in the tree of steps they stand.

## Main definitions

* `Step.Run` — some writer performs the steps to the end.
* `Step.uses`, `Step.usesAll` — the packages that a step, or steps, note.

## Main results

* `Step.Run.of_block` — the body of a block runs if the steps around it do.
* `Writer.imports_run` — the imports after steps that succeed.
* `Writer.prefix_lines_run` — steps leave the lines that were written before them.
-/

namespace ClientGen

/-! ## Success -/

namespace Writer

theorem Outcome.andThen_eq {outcome : Outcome} {next : Writer → Outcome}
    (h : (outcome.andThen next).2 = none) :
    outcome.2 = none ∧ outcome.andThen next = next outcome.1 := by
  obtain ⟨writer, _ | failure⟩ := outcome
  · exact ⟨rfl, rfl⟩
  · simp [Outcome.andThen] at h

theorem run_cons_eq {writer : Writer} {step : Step} {rest : List Step}
    (h : (writer.run (step :: rest)).2 = none) :
    (writer.perform step).2 = none ∧
      writer.run (step :: rest) = (writer.perform step).1.run rest := by
  rw [run] at h ⊢
  exact Outcome.andThen_eq h

theorem run_append_eq {writer : Writer} {first second : List Step}
    (h : (writer.run (first ++ second)).2 = none) :
    (writer.run first).2 = none ∧
      writer.run (first ++ second) = (writer.run first).1.run second := by
  rw [run_append] at h ⊢
  exact Outcome.andThen_eq h

end Writer

namespace Step

variable {first second steps : List Step}

/-- Some writer performs the steps to the end. -/
def Run (steps : List Step) : Prop :=
  ∃ writer : Writer, (writer.run steps).2 = none

theorem Run.of_append (h : Run (first ++ second)) : Run first ∧ Run second := by
  obtain ⟨writer, hwriter⟩ := h
  obtain ⟨hfirst, heq⟩ := Writer.run_append_eq hwriter
  exact ⟨⟨writer, hfirst⟩, _, heq ▸ hwriter⟩

theorem Run.of_mem {step : Step} (h : Run steps) (hmem : step ∈ steps) :
    ∃ writer : Writer, (writer.perform step).2 = none := by
  obtain ⟨first, second, rfl⟩ := List.append_of_mem hmem
  obtain ⟨writer, hwriter⟩ := h.of_append.2
  exact ⟨writer, (Writer.run_cons_eq hwriter).1⟩

theorem Run.not_fail (h : Run steps) (failure : Failure) : .fail failure ∉ steps := by
  intro hmem
  obtain ⟨writer, hwriter⟩ := h.of_mem hmem
  simp [Writer.perform] at hwriter

/-- **The body of a block runs** if the steps around it do. -/
theorem Run.of_block {opening closing : Phrase} {body : List Step} (h : Run steps)
    (hmem : .block opening closing body ∈ steps) : Run body := by
  obtain ⟨writer, hwriter⟩ := h.of_mem hmem
  rw [Writer.perform] at hwriter
  obtain ⟨-, heq⟩ := Writer.Outcome.andThen_eq hwriter
  rw [heq] at hwriter
  exact ⟨_, (Writer.Outcome.andThen_eq hwriter).1⟩

/-! ## Packages -/

mutual

/-- The packages that a step notes, those of a block's body included. -/
def uses : Step → List Dependency
  | .write phrase => phrase.dependencies
  | .use dependencies => dependencies
  | .block opening closing body => opening.dependencies ++ (usesAll body ++ closing.dependencies)
  | .blank | .docs _ | .packageDocs _ | .indent _ | .dedent _ | .fail _ => []
termination_by structural step => step

/-- The packages that steps note. -/
def usesAll : List Step → List Dependency
  | [] => []
  | step :: rest => uses step ++ usesAll rest
termination_by structural steps => steps

end

theorem usesAll_append (first second : List Step) :
    usesAll (first ++ second) = usesAll first ++ usesAll second := by
  induction first with
  | nil => rfl
  | cons step rest ih => simp [usesAll, ih]

theorem usesAll_flatMap {α : Type} (xs : List α) (steps : α → List Step) :
    usesAll (xs.flatMap steps) = xs.flatMap fun x => usesAll (steps x) := by
  induction xs with
  | nil => rfl
  | cons x rest ih => rw [List.flatMap_cons, usesAll_append, ih, List.flatMap_cons]

end Step

namespace Writer

/-- A write that succeeds notes the packages of its phrase and adds the lines of its text. -/
theorem write_eq_of_success {writer : Writer} {phrase : Phrase}
    (h : (writer.write phrase).2 = none) : ∃ text, phrase.render writer.imports.ownPath = .ok text ∧
      (writer.write phrase).1 = (writer.use phrase.dependencies).append text := by
  unfold write at h ⊢
  split at h
  · rename_i hcallable
    rw [if_pos hcallable]
    have hpath : (writer.use phrase.dependencies).imports.ownPath = writer.imports.ownPath :=
      Imports.ownPath_trackAll _ _
    dsimp only at h ⊢
    rw [hpath] at h ⊢
    split at h
    · rename_i text hrender
      exact ⟨text, hrender, rfl⟩
    · cases h
  · cases h

theorem imports_write {writer : Writer} {phrase : Phrase} (h : (writer.write phrase).2 = none) :
    (writer.write phrase).1.imports = writer.imports.trackAll phrase.dependencies := by
  obtain ⟨text, -, hwrite⟩ := write_eq_of_success h
  rw [hwrite]
  rfl

/-- Documentation adds lines and changes nothing else. -/
theorem exists_lines_docs (writer : Writer) (documentation : Json) :
    ∃ lines, writer.docs documentation = { writer with lines := lines } := by
  have hfold : ∀ (texts : List String) (writer : Writer),
      ∃ lines, texts.foldl append writer = { writer with lines := lines } := by
    intro texts
    induction texts with
    | nil => exact fun writer => ⟨writer.lines, rfl⟩
    | cons text rest ih =>
      intro writer
      obtain ⟨lines, hlines⟩ := ih (writer.append text)
      exact ⟨lines, hlines⟩
  unfold docs
  split
  · exact hfold _ _
  · exact ⟨writer.lines, rfl⟩

theorem imports_docs (writer : Writer) (documentation : Json) :
    (writer.docs documentation).imports = writer.imports := by
  obtain ⟨lines, hdocs⟩ := exists_lines_docs writer documentation
  rw [hdocs]

theorem imports_dedent {writer : Writer} {levels : Int} (h : (writer.dedent levels).2 = none) :
    (writer.dedent levels).1.imports = writer.imports := by
  unfold dedent at h ⊢
  split at h
  · simp at h
  · rename_i hle
    rw [if_neg hle]

mutual

/-- **The imports after a step** are those before it and what the step notes. -/
theorem imports_perform {writer : Writer} : ∀ {step : Step}, (writer.perform step).2 = none →
    (writer.perform step).1.imports = writer.imports.trackAll step.uses
  | .write phrase => fun h => by
    rw [perform] at h ⊢
    rw [imports_write h, Step.uses]
  | .blank => fun _ => rfl
  | .docs documentation => fun _ => by
    rw [perform, Step.uses]
    exact imports_docs writer documentation
  | .packageDocs documentation => fun h => by
    rw [perform] at h ⊢
    cases documentation <;> simp_all [documentPackage, Step.uses, Imports.trackAll]
  | .indent levels => fun _ => rfl
  | .dedent levels => fun h => by
    rw [perform] at h ⊢
    rw [imports_dedent h, Step.uses]
    rfl
  | .use dependencies => fun _ => rfl
  | .block opening closing body => fun h => by
    rw [perform] at h ⊢
    -- Opening line, body, the way back to the margin, closing line: each of the four succeeds.
    obtain ⟨hopening, heq⟩ := Outcome.andThen_eq h
    rw [heq] at h ⊢
    obtain ⟨hbody, heq⟩ := Outcome.andThen_eq h
    rw [heq] at h ⊢
    obtain ⟨hdedent, heq⟩ := Outcome.andThen_eq h
    rw [heq] at h ⊢
    rw [imports_write h, imports_dedent hdedent, imports_run hbody, Step.uses,
      Imports.trackAll_append, Imports.trackAll_append]
    exact congrArg (fun imports => Imports.trackAll (Imports.trackAll imports _) _)
      (imports_write hopening)
  | .fail failure => fun h => by simp [perform] at h
termination_by structural step => step

/-- **The imports after steps** are those before them and what the steps note. -/
theorem imports_run {writer : Writer} : ∀ {steps : List Step}, (writer.run steps).2 = none →
    (writer.run steps).1.imports = writer.imports.trackAll (Step.usesAll steps)
  | [] => fun _ => rfl
  | step :: rest => fun h => by
    obtain ⟨hstep, heq⟩ := run_cons_eq h
    rw [heq] at h ⊢
    rw [imports_run h, imports_perform hstep, Step.usesAll, Imports.trackAll_append]
termination_by structural steps => steps

end

/-! ## Lines -/

theorem Outcome.prefix_lines_andThen {lines : List String} {outcome : Outcome}
    {next : Writer → Outcome} (h : lines <+: outcome.1.lines)
    (hnext : outcome.1.lines <+: (next outcome.1).1.lines) :
    lines <+: (outcome.andThen next).1.lines := by
  obtain ⟨writer, _ | failure⟩ := outcome
  · exact h.trans hnext
  · exact h

theorem prefix_lines_write (writer : Writer) (phrase : Phrase) :
    writer.lines <+: (writer.write phrase).1.lines := by
  unfold write
  split
  · dsimp only
    split
    · exact List.prefix_append _ _
    · exact List.prefix_rfl
  · exact List.prefix_rfl

theorem prefix_lines_docs (writer : Writer) (documentation : Json) :
    writer.lines <+: (writer.docs documentation).lines := by
  have hfold : ∀ (texts : List String) (writer : Writer),
      writer.lines <+: (texts.foldl append writer).lines := by
    intro texts
    induction texts with
    | nil => exact fun writer => List.prefix_rfl
    | cons text rest ih =>
      intro writer
      have happend : writer.lines <+: (writer.append text).lines := List.prefix_append _ _
      exact happend.trans (ih (writer.append text))
  unfold docs
  split
  · exact hfold _ _
  · exact List.prefix_rfl

theorem lines_dedent (writer : Writer) (levels : Int) :
    (writer.dedent levels).1.lines = writer.lines := by
  unfold dedent
  split <;> rfl

mutual

/-- A step leaves the lines that were written before it. -/
theorem prefix_lines_perform (writer : Writer) :
    ∀ step : Step, writer.lines <+: (writer.perform step).1.lines
  | .write phrase => writer.prefix_lines_write phrase
  | .blank => List.prefix_append _ _
  | .docs documentation => writer.prefix_lines_docs documentation
  | .packageDocs documentation => by
    rw [perform]
    unfold documentPackage
    split <;> exact List.prefix_rfl
  | .indent _ => List.prefix_rfl
  | .dedent levels => by
    simp only [perform, lines_dedent, List.prefix_rfl]
  | .use _ => List.prefix_rfl
  | .block opening closing body => by
    rw [perform]
    refine Outcome.prefix_lines_andThen (writer.prefix_lines_write opening) ?_
    refine Outcome.prefix_lines_andThen
      (prefix_lines_run (writer.write opening).1.indent body) ?_
    refine Outcome.prefix_lines_andThen ?_ (prefix_lines_write _ closing)
    simp only [lines_dedent, List.prefix_rfl]
  | .fail _ => List.prefix_rfl
termination_by structural step => step

/-- **Steps leave the lines that were written before them**, whether they succeed or fail. -/
theorem prefix_lines_run (writer : Writer) :
    ∀ steps : List Step, writer.lines <+: (writer.run steps).1.lines
  | [] => List.prefix_rfl
  | step :: rest => by
    rw [run]
    exact Outcome.prefix_lines_andThen (prefix_lines_perform writer step)
      (prefix_lines_run _ rest)
termination_by structural steps => steps

end

end Writer

end ClientGen
