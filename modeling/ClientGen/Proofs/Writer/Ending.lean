import ClientGen.Proofs.Declaration.Parts

/-!
# How steps end

Steps end in a writer at some level of indentation, or in a failure.  Steps that are made of parts
leave the level as they found it, and they fail only with the failures written into them; whether
the way back out of a block can fail depends on what is known about levels.

## Main definitions

* `Writer.Levels` — which levels a writer may have at a depth, and that blocks respect this.
* `Outcome.Ends` — an outcome has a permitted level or a permitted failure.
* `Step.EndWell` — steps end so at every depth.

## Main results

* `Step.endWell_of_madeOf` — steps made of parts end well if their failures are permitted.
* `Middleware.endWell_steps` — a middleware ends well if its handler does.
-/

namespace ClientGen

namespace Writer

/-- Levels that a writer may have inside a number of blocks, if a block that is left takes back the
level that it added, or fails in a permitted way. -/
structure Levels (P : Nat → Int → Prop) (R : Failure → Prop) : Prop where
  indent : ∀ depth level, P depth level → P (depth + 1) (level + 1)
  dedent : ∀ depth level, P (depth + 1) level → 1 ≤ level → P depth (level - 1)
  stuck : ∀ depth level, P (depth + 1) level → level < 1 →
    ∀ unit, R (.indentation 1 level unit)

/-- Nothing is known about levels, and leaving a block may fail. -/
theorem levels_any {R : Failure → Prop} (h : ∀ level unit, R (.indentation 1 level unit)) :
    Levels (fun _ _ => True) R where
  indent _ _ _ := trivial
  dedent _ _ _ _ := trivial
  stuck _ level _ _ unit := h level unit

/-- The outcome is a writer with a permitted level, or a permitted failure. -/
structure Outcome.Ends (P : Int → Prop) (R : Failure → Prop) (outcome : Outcome) : Prop where
  level : outcome.2 = none → P outcome.1.level
  failure : ∀ failure, outcome.2 = some failure → R failure

namespace Outcome.Ends

variable {P P' : Int → Prop} {R : Failure → Prop}

theorem of_level {writer : Writer} (h : P writer.level) : Ends P R (writer, none) where
  level _ := h
  failure := by simp

theorem of_failure {writer : Writer} {failure : Failure} (h : R failure) :
    Ends P R (writer, some failure) where
  level := by simp
  failure := by
    intro other hother
    exact Option.some.inj hother ▸ h

theorem andThen {outcome : Outcome} {next : Writer → Outcome} (h : outcome.Ends P R)
    (hnext : ∀ writer : Writer, P writer.level → (next writer).Ends P' R) :
    (outcome.andThen next).Ends P' R := by
  obtain ⟨writer, _ | failure⟩ := outcome
  · exact hnext writer (h.level rfl)
  · exact .of_failure (h.failure failure rfl)

end Outcome.Ends

theorem level_docs (writer : Writer) (documentation : Json) :
    (writer.docs documentation).level = writer.level := by
  obtain ⟨lines, hdocs⟩ := exists_lines_docs writer documentation
  rw [hdocs]

end Writer

open Writer (Levels Outcome.Ends)

namespace Step

variable {P : Nat → Int → Prop} {R : Failure → Prop} {Q : Part → Prop}

/-- The steps end with the level of their depth, or in a permitted failure. -/
def EndWell (P : Nat → Int → Prop) (R : Failure → Prop) (steps : List Step) : Prop :=
  ∀ (depth : Nat) (writer : Writer), P depth writer.level → (writer.run steps).Ends (P depth) R

theorem endWell_nil : EndWell P R [] :=
  fun _ _ h => .of_level h

/-- Where levels do not matter, only failures have to be permitted. -/
theorem endWell_any {steps : List Step}
    (h : ∀ (writer : Writer) (failure : Failure),
      (writer.run steps).2 = some failure → R failure) :
    EndWell (fun _ _ => True) R steps :=
  fun _ writer _ => ⟨fun _ => trivial, h writer⟩

theorem EndWell.append {first second : List Step} (hfirst : EndWell P R first)
    (hsecond : EndWell P R second) : EndWell P R (first ++ second) := by
  intro depth writer h
  rw [Writer.run_append]
  exact (hfirst depth writer h).andThen fun writer h => hsecond depth writer h

theorem endWell_use (dependencies : List Dependency) : EndWell P R [.use dependencies] := by
  intro depth writer h
  have huse : Writer.Outcome.Ends (P depth) R (writer.use dependencies, none) := .of_level h
  rw [Writer.run, Writer.perform]
  exact huse.andThen fun writer h => .of_level h

theorem endWell_packageDocs (text : String) : EndWell P R [.packageDocs (.str text)] := by
  intro depth writer h
  have hdocument : (writer.documentPackage (.str text)).Ends (P depth) R := by
    unfold Writer.documentPackage
    exact .of_level h
  rw [Writer.run, Writer.perform]
  exact hdocument.andThen fun writer h => .of_level h

/-- Writing parts never fails and leaves the level. -/
theorem ends_write {depth : Nat} {writer : Writer} {phrase : Phrase} (hphrase : phrase.MadeOf Q)
    (h : P depth writer.level) : (writer.write phrase).Ends (P depth) R := by
  cases phrase with
  | parts found => exact .of_level h
  | template source args => exact hphrase.elim

theorem ends_dedent (hlevels : Levels P R) {depth : Nat} {writer : Writer}
    (h : P (depth + 1) writer.level) : writer.dedent.Ends (P depth) R := by
  unfold Writer.dedent
  split
  · rename_i hlt
    exact .of_failure (hlevels.stuck depth writer.level h hlt writer.path)
  · rename_i hle
    exact .of_level (hlevels.dedent depth writer.level h (by omega))

/-- **A block ends well** if its body does. -/
theorem endWell_block (hlevels : Levels P R) {opening closing : Phrase} {body : List Step}
    (hopening : opening.MadeOf Q) (hbody : EndWell P R body) (hclosing : closing.MadeOf Q) :
    EndWell P R [.block opening closing body] := by
  intro depth writer h
  have hblock : (writer.perform (.block opening closing body)).Ends (P depth) R := by
    rw [Writer.perform]
    refine (ends_write hopening h).andThen fun writer h => ?_
    refine (hbody (depth + 1) writer.indent (hlevels.indent _ _ h)).andThen fun writer h => ?_
    exact (ends_dedent hlevels h).andThen fun writer h => ends_write hclosing h
  rw [Writer.run]
  exact hblock.andThen fun writer h => .of_level h

mutual

theorem ends_of_madeOf (hlevels : Levels P R) :
    ∀ {step : Step}, step.MadeOf Q R → ∀ (depth : Nat) (writer : Writer),
      P depth writer.level → (writer.perform step).Ends (P depth) R
  | .write _, hmade, _, _, h => ends_write hmade h
  | .blank, _, _, _, h => .of_level h
  | .docs documentation, _, _, writer, h => .of_level (by rwa [Writer.level_docs])
  | .fail _, hmade, _, _, _ => .of_failure hmade
  | .block opening closing body, hmade, depth, writer, h => by
    obtain ⟨hopening, hbody, hclosing⟩ := hmade
    rw [Writer.perform]
    refine (ends_write hopening h).andThen fun writer h => ?_
    have hinside := endWell_of_madeOf hlevels hbody (depth + 1) writer.indent (hlevels.indent _ _ h)
    refine hinside.andThen fun writer h => ?_
    exact (ends_dedent hlevels h).andThen fun writer h => ends_write hclosing h
termination_by structural step => step

/-- **Steps made of parts end well** if their failures are permitted. -/
theorem endWell_of_madeOf (hlevels : Levels P R) :
    ∀ {steps : List Step}, AllMadeOf Q R steps → EndWell P R steps
  | [], _ => endWell_nil
  | _ :: _, hmade => fun depth writer h => by
    rw [Writer.run]
    refine (ends_of_madeOf hlevels hmade.1 depth writer h).andThen fun writer h => ?_
    exact endWell_of_madeOf hlevels hmade.2 depth writer h
termination_by structural steps => steps

end

end Step

/-- **A middleware ends well** if its handler does. -/
theorem Middleware.endWell_steps {P : Nat → Int → Prop} {R : Failure → Prop}
    (hlevels : Levels P R) (middleware : Middleware) {handler : List Step}
    (h : Step.EndWell P R handler) : Step.EndWell P R (middleware.steps [] handler) := by
  have hid : Step.AllMadeOf (fun _ => True) R middleware.idMethod := by
    simp [idMethod, Step.line]
  have hblank : Step.EndWell P R [.blank] :=
    Step.endWell_of_madeOf (Q := fun _ => True) hlevels (by simp)
  have htype : Step.EndWell P R
      [.block (.parts ["type ", .name middleware.symbol, " struct \x7b"]) "\x7d" [], .blank] :=
    Step.endWell_of_madeOf (Q := fun _ => True) hlevels (by simp)
  have hhandler : Step.EndWell P R [.block middleware.signature "\x7d" handler] :=
    Step.endWell_block (Q := fun _ => True) hlevels (by simp [signature]) h (by simp)
  have hmethods := (Step.endWell_of_madeOf hlevels hid).append (hhandler.append hblank)
  rw [steps, List.append_assoc]
  exact (Step.endWell_use _).append (htype.append hmethods)

end ClientGen
