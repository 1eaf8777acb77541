import ClientGen.Proofs.Success
import ClientGen.Proofs.Writer.Step

/-!
# Writers print trees of blocks

Writes, empty lines and blocks of them form a tree.  Read in order, the tree is a list of contents,
each below some number of blocks (`Step.contents`), and a writer that performs the steps prints the
list: every content has its lines, which depend on the depth but on nothing that was written before
(`Placed.lines`).  The level of the writer goes up and down on the way; what it stands at is the
depth of the content that comes next, which is why a failure leaves it at the depth of what failed.

## Main definitions

* `Step.prints` — a step is made of writes, empty lines and blocks.
* `Step.contents` — the contents of a step in order, with their depths.
* `Placed.lines` — the lines of a content, or why it has none.

## Main results

* `Writer.run_prints` — a run appends the lines of the contents, up to the first that fails.
-/

namespace ClientGen

/-! ## Contents -/

/-- What stands at one place of a tree.  A call that fails before it can write anything is a content
too. -/
inductive Content where
  | text (phrase : Phrase)
  | blank
  | failure (cause : Failure)

/-- A content below a number of blocks. -/
structure Placed where
  depth : Nat
  content : Content

namespace Step

mutual

/-- Whether a step is a write, an empty line, a failing call, or a block of such steps. -/
def prints : Step → Bool
  | .write _ | .blank | .fail _ => true
  | .block _ _ body => printsAll body
  | .docs _ | .packageDocs _ | .indent _ | .dedent _ | .use _ => false
termination_by structural step => step

/-- Whether all steps are of these kinds. -/
def printsAll : List Step → Bool
  | [] => true
  | step :: rest => prints step && printsAll rest
termination_by structural steps => steps

end

mutual

/-- The contents of a step below a number of blocks: a block has its opening phrase, its body one
block deeper, and its closing phrase. -/
def contents (depth : Nat) : Step → List Placed
  | .write phrase => [⟨depth, .text phrase⟩]
  | .blank => [⟨depth, .blank⟩]
  | .fail failure => [⟨depth, .failure failure⟩]
  | .block opening closing body =>
    [⟨depth, .text opening⟩] ++ (contentsAll (depth + 1) body ++ [⟨depth, .text closing⟩])
  | .docs _ | .packageDocs _ | .indent _ | .dedent _ | .use _ => []
termination_by structural step => step

/-- The contents of steps. -/
def contentsAll (depth : Nat) : List Step → List Placed
  | [] => []
  | step :: rest => contents depth step ++ contentsAll depth rest
termination_by structural steps => steps

end

end Step

/-- The text of a phrase in the package of a path, if the phrase can be called at all. -/
def Phrase.textIn (path : Option String) (phrase : Phrase) : Except Failure String :=
  if phrase.isCallable then phrase.render path else .error (.malformed .kind)

/-- The lines that a content adds to what a writer holds: a text is split into lines, and each that
is not blank stands behind the indentation of the writer's level and of the blocks around it. -/
def Placed.lines (writer : Writer) (placed : Placed) : Except Failure (List String) :=
  match placed.content with
  | .text phrase => (phrase.textIn writer.imports.ownPath).map fun text =>
      (Text.lines text).map (Writer.indented
        (String.join (List.replicate (writer.level.toNat + placed.depth) writer.indentText)))
  | .blank => .ok [""]
  | .failure cause => .error cause

namespace Writer

variable {base writer : Writer} {depth : Nat} {lines : List String} {steps : List Step}

/-! ## Printing -/

/-- A writer that has entered a number of blocks since the base. -/
structure Below (base : Writer) (depth : Nat) (writer : Writer) : Prop where
  indentText : writer.indentText = base.indentText
  ownPath : writer.imports.ownPath = base.imports.ownPath
  level : writer.level = base.level + depth

theorem Below.margin (hbase : 0 ≤ base.level) (h : Below base depth writer) :
    writer.margin
      = String.join (List.replicate (base.level.toNat + depth) base.indentText) := by
  have hlevel : writer.level.toNat = base.level.toNat + depth := by
    rw [h.level]
    omega
  rw [Writer.margin, hlevel, h.indentText]

/-- An outcome that has printed contents behind some lines: all of them, and the writer is as deep
as it should be, or those in front of one that fails, and the writer is as deep as that one. -/
inductive Prints (base : Writer) (depth : Nat) (lines : List String) (contents : List Placed) :
    Outcome → Prop
  | done {after : Writer} (printed : List (List String)) (hbelow : Below base depth after)
      (hprinted : contents.mapM (Placed.lines base) = .ok printed)
      (hlines : after.lines = lines ++ printed.flatten) : Prints base depth lines contents
        (after, none)
  | stopped {after : Writer} {failure : Failure} {placed : Placed} {printed : List (List String)}
      (before rest : List Placed) (hcontents : contents = before ++ placed :: rest)
      (hbelow : Below base placed.depth after)
      (hprinted : before.mapM (Placed.lines base) = .ok printed)
      (hfails : placed.lines base = .error failure)
      (hlines : after.lines = lines ++ printed.flatten) : Prints base depth lines contents
        (after, some failure)

theorem mapM_lines_append {first second : List Placed} {printed printed' : List (List String)}
    (hfirst : first.mapM (Placed.lines base) = .ok printed)
    (hsecond : second.mapM (Placed.lines base) = .ok printed') :
    (first ++ second).mapM (Placed.lines base) = .ok (printed ++ printed') := by
  rw [mapM_eq_ok] at hfirst hsecond ⊢
  exact List.rel_append hfirst hsecond

/-- Steps after one another print their contents after one another. -/
theorem Prints.andThen {first second : List Placed} {depth' : Nat} {outcome : Outcome}
    {next : Writer → Outcome} (h : Prints base depth lines first outcome)
    (hnext : ∀ after, Below base depth after →
      Prints base depth' after.lines second (next after)) :
    Prints base depth' lines (first ++ second) (outcome.andThen next) := by
  cases h with
  | @done after printed hbelow hprinted hlines =>
    have hrest := hnext after hbelow
    simp only [Outcome.andThen]
    generalize next after = result at hrest
    cases hrest with
    | @done after' printed' hbelow' hprinted' hlines' =>
      refine .done _ hbelow' (mapM_lines_append hprinted hprinted') ?_
      rw [hlines', hlines, List.flatten_append, List.append_assoc]
    | @stopped after' failure placed printed' before rest hcontents hbelow' hprinted' hfails
        hlines' =>
      refine .stopped (first ++ before) rest ?_ hbelow'
        (mapM_lines_append hprinted hprinted') hfails ?_
      · rw [hcontents, List.append_assoc]
      · rw [hlines', hlines, List.flatten_append, List.append_assoc]
  | @stopped after failure placed printed before rest hcontents hbelow hprinted hfails hlines =>
    refine .stopped before (rest ++ second) ?_ hbelow hprinted hfails hlines
    rw [hcontents, List.append_assoc, List.cons_append]

theorem Prints.nil (h : Below base depth writer) :
    Prints base depth writer.lines [] (writer, none) :=
  .done [] h rfl (by simp)

theorem Prints.write (hbase : 0 ≤ base.level) (h : Below base depth writer) (phrase : Phrase) :
    Prints base depth writer.lines [⟨depth, .text phrase⟩] (writer.write phrase) := by
  have hown := Imports.ownPath_trackAll writer.imports phrase.dependencies
  have htext : Placed.lines base ⟨depth, .text phrase⟩ = (phrase.textIn base.imports.ownPath).map
      fun text => (Text.lines text).map (indented writer.margin) := by
    rw [h.margin hbase]
    rfl
  -- What the phrase needs is noted first; that changes neither the margin nor the package.
  have hused : Below base depth (writer.use phrase.dependencies) :=
    ⟨h.indentText, hown.trans h.ownPath, h.level⟩
  unfold Writer.write
  split
  · rename_i hcallable
    rw [Phrase.textIn, if_pos hcallable, ← hused.ownPath] at htext
    dsimp only
    split
    · rename_i text hrender
      rw [hrender] at htext
      refine .done [(Text.lines text).map (indented writer.margin)]
        ⟨hused.indentText, hused.ownPath, hused.level⟩ (mapM_eq_ok.2 (.cons htext .nil)) ?_
      rw [List.flatten_singleton]
      rfl
    · rename_i failure hrender
      rw [hrender] at htext
      exact .stopped [] [] rfl hused rfl htext (by simp [use])
  · rename_i hcallable
    rw [Phrase.textIn, if_neg hcallable] at htext
    exact .stopped [] [] rfl h rfl htext (by simp)

theorem Prints.dedent (hbase : 0 ≤ base.level) (h : Below base (depth + 1) writer) :
    Prints base depth writer.lines [] writer.dedent := by
  have hlevel : ¬ (1 : Int) > writer.level := by
    rw [h.level]
    omega
  rw [Writer.dedent, if_neg hlevel]
  refine .done [] ⟨h.indentText, h.ownPath, ?_⟩ rfl (by simp)
  simp only [h.level]
  omega

mutual

/-- **A step prints its contents.** -/
theorem prints_perform (hbase : 0 ≤ base.level) : ∀ {step : Step} {depth : Nat} {writer : Writer},
    step.prints = true → Below base depth writer →
      Prints base depth writer.lines (step.contents depth) (writer.perform step)
  | .write phrase, depth, writer, _, h => by
    rw [perform, Step.contents]
    exact .write hbase h phrase
  | .blank, depth, writer, _, h => by
    rw [perform, Step.contents]
    exact .done [[""]] ⟨h.indentText, h.ownPath, h.level⟩ rfl rfl
  | .fail failure, depth, writer, _, h => by
    rw [perform, Step.contents]
    exact .stopped [] [] rfl h rfl rfl (by simp)
  | .block opening closing body, depth, writer, hsteps, h => by
    rw [Step.prints] at hsteps
    rw [perform, Step.contents]
    refine Prints.andThen (.write hbase h opening) fun opened hopened => ?_
    have hinner : Below base (depth + 1) opened.indent := by
      refine ⟨hopened.indentText, hopened.ownPath, ?_⟩
      simp only [indent, hopened.level]
      omega
    refine Prints.andThen (prints_run hbase hsteps hinner) fun inner hinner => ?_
    exact (Prints.dedent hbase hinner).andThen fun left hleft => .write hbase hleft closing
termination_by structural step => step

/-- **Steps print their contents.** -/
theorem prints_run (hbase : 0 ≤ base.level) : ∀ {steps : List Step} {depth : Nat} {writer : Writer},
    Step.printsAll steps = true → Below base depth writer →
      Prints base depth writer.lines (Step.contentsAll depth steps) (writer.run steps)
  | [], depth, writer, _, h => by
    rw [run, Step.contentsAll]
    exact .nil h
  | step :: rest, depth, writer, hsteps, h => by
    rw [Step.printsAll, Bool.and_eq_true] at hsteps
    rw [run, Step.contentsAll]
    exact Prints.andThen (prints_perform hbase hsteps.1 h) fun _ hafter =>
      prints_run hbase hsteps.2 hafter
termination_by structural steps => steps

end

/-- **A writer prints trees of blocks.**  If no step fails, the writer is back at its level and has
appended the lines of all contents of the tree in order.  If one fails, it has appended the lines of
the contents in front of the one that fails and nothing else, no closing line of a block around that
one, and it stands at the level of that one. -/
theorem run_prints (hsteps : Step.printsAll steps = true) (hlevel : 0 ≤ writer.level) :
    ((writer.run steps).2 = none →
      (writer.run steps).1.level = writer.level ∧
        ∃ printed, (Step.contentsAll 0 steps).mapM (Placed.lines writer) = .ok printed ∧
          (writer.run steps).1.lines = writer.lines ++ printed.flatten) ∧
    ∀ failure, (writer.run steps).2 = some failure →
      ∃ before placed rest printed, Step.contentsAll 0 steps = before ++ placed :: rest ∧
        before.mapM (Placed.lines writer) = .ok printed ∧
        placed.lines writer = .error failure ∧
        (writer.run steps).1.lines = writer.lines ++ printed.flatten ∧
        (writer.run steps).1.level = writer.level + placed.depth := by
  have hbelow : Below writer 0 writer := ⟨rfl, rfl, (Int.add_zero _).symm⟩
  have hprints := prints_run hlevel hsteps hbelow
  generalize writer.run steps = outcome at hprints
  cases hprints with
  | @done after printed hbelow hprinted hlines =>
    refine ⟨fun _ => ⟨by simp [hbelow.level], printed, hprinted, hlines⟩, ?_⟩
    intro failure hfailure
    simp at hfailure
  | @stopped after failure placed printed before rest hcontents hbelow hprinted hfails hlines =>
    refine ⟨fun hnone => by simp at hnone, ?_⟩
    intro cause hcause
    obtain rfl := Option.some.inj hcause
    exact ⟨before, placed, rest, printed, hcontents, hprinted, hfails, hlines, hbelow.level⟩

end Writer

namespace Sample

/-- A block whose inner block asks for an argument that is not there. -/
def tree : List Step :=
  [.block "a \x7b" "\x7d" [.write "b\n\nc", .blank,
    .block "d \x7b" "\x7d" [.write (.template "\x7b\x7b e \x7d\x7d" [])]]]

end Sample

namespace Writer

theorem run_prints_sample : ∃ failure, ((start "a.go" "a").run Sample.tree).2 = some failure ∧
    ∃ before placed rest printed,
      Step.contentsAll 0 Sample.tree = before ++ placed :: rest ∧
        before.mapM (Placed.lines (start "a.go" "a")) = .ok printed ∧
        placed.lines (start "a.go" "a") = .error failure ∧
        printed.flatten = ["a \x7b", "\tb", "", "\tc", "", "\td \x7b"] ∧ placed.depth = 2 := by
  have hfails : ((start "a.go" "a").run Sample.tree).2.isSome = true := by decide +kernel
  obtain ⟨failure, hfailure⟩ := Option.isSome_iff_exists.1 hfails
  obtain ⟨before, placed, rest, printed, hcontents, hprinted, hplaced, hlines, hlevel⟩ :=
    (run_prints rfl (Int.le_refl 0)).2 failure hfailure
  refine ⟨failure, hfailure, before, placed, rest, printed, hcontents, hprinted, hplaced, ?_, ?_⟩
  · have hrun : ((start "a.go" "a").run Sample.tree).1.lines
        = ["a \x7b", "\tb", "", "\tc", "", "\td \x7b"] := by decide +kernel
    rw [← hrun, hlines]
    rfl
  · have hrun : ((start "a.go" "a").run Sample.tree).1.level = 2 := by decide +kernel
    rw [hrun] at hlevel
    change (2 : Int) = 0 + placed.depth at hlevel
    omega

end Writer

end ClientGen
