import ClientGen.Writer.Basic

/-!
# Steps of writing

What a generator produces is a tree of steps: single writes, and blocks whose body stands one level
deeper between an opening and a closing phrase.  `Writer.run` performs steps one after another until
one of them fails; what was written before it stays, and no block around it is closed.
-/

namespace ClientGen

/-- A step of writing. -/
inductive Step where
  | write (phrase : Phrase)
  | blank
  /-- A documentation as comment lines; null writes nothing. -/
  | docs (documentation : Json)
  | packageDocs (documentation : Json)
  | indent (levels : Int)
  | dedent (levels : Int)
  /-- Notes packages without writing. -/
  | use (dependencies : List Dependency)
  | block (opening closing : Phrase) (body : List Step)
  | fail (failure : Failure)
deriving Inhabited

namespace Writer

mutual

/-- Performs a step. -/
def perform (writer : Writer) : Step → Outcome
  | .write phrase => writer.write phrase
  | .blank => (writer.blank, none)
  | .docs documentation => (writer.docs documentation, none)
  | .packageDocs documentation => writer.documentPackage documentation
  | .indent levels => (writer.indent levels, none)
  | .dedent levels => writer.dedent levels
  | .use dependencies => (writer.use dependencies, none)
  | .block opening closing body =>
    (writer.write opening).andThen fun writer =>
      (run writer.indent body).andThen fun writer =>
        writer.dedent.andThen fun writer => writer.write closing
  | .fail failure => (writer, some failure)
termination_by structural step => step

/-- Performs steps until one fails. -/
def run (writer : Writer) : List Step → Outcome
  | [] => (writer, none)
  | step :: rest => (perform writer step).andThen fun writer => run writer rest
termination_by structural steps => steps

end

theorem run_append (writer : Writer) (first second : List Step) :
    writer.run (first ++ second) = (writer.run first).andThen fun writer => writer.run second := by
  induction first generalizing writer with
  | nil => simp [run, Outcome.andThen]
  | cons step rest ih =>
    simp only [List.cons_append, run]
    rcases hstep : writer.perform step with ⟨writer', _ | failure⟩
    · simp only [Outcome.andThen, ih]
    · simp only [Outcome.andThen]

end Writer

namespace Step

/-- The names that an argument of a block cannot have. -/
def takenNames : List String :=
  ["self", "open_template", "close_template", "body"]

/-- A line of parts. -/
def line (parts : List Part) : Step :=
  .write (.parts parts)

/-- A block between two templates with the same arguments. -/
def blockOf (opening closing : String) (args : Arguments) (body : List Step) : Step :=
  if takenNames.any fun name => Entries.has name args then .fail (.malformed .kind)
  else .block (.template opening args) (.template closing args) body

end Step

end ClientGen
