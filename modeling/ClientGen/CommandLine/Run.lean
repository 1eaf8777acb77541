import ClientGen.CommandLine.Command
import ClientGen.Console.Table
import ClientGen.Generation.Delivery
import ClientGen.Generation.Report
import ClientGen.Settings.File
import ClientGen.Source.Basic

/-!
# Carrying out a command line

A command line is carried out in a file tree, and leaves behind lines on the console and the tree
after it.  Only the generating command changes files, and only after everything else has gone well.
A failure that nobody reports interrupts the command line, and the tree stays as it is then.  Main
definitions: `carryOut` and `run`.
-/

namespace ClientGen.CommandLine

/-- How a command line ends. -/
inductive Ending where
  /-- The command was carried out. -/
  | success
  /-- The command failed, or there is none. -/
  | failure
  /-- The command line was not carried out. -/
  | halted (halt : Halt)
deriving DecidableEq, Repr

/-- The number that tells the ending to the caller. -/
def Ending.code : Ending → Nat
  | success => 0
  | failure => 1
  | halted .help => 0
  | halted .misuse => 2

/-- What a command line leaves behind. -/
structure Outcome where
  ending : Ending
  /-- The lines on the console. -/
  lines : List String := []
  tree : Tree

/-- A command line that a failure ends before it has an outcome. -/
structure Interruption where
  failure : Failure
  /-- The tree at that time. -/
  tree : Tree

/-- A result that is found while the tree is as it is. -/
def during {α : Type} (tree : Tree) (result : Except Failure α) : Except Interruption α :=
  result.mapError fun failure => { failure, tree }

/-! ## Messages -/

/-- The command fails with a message. -/
def complain (tree : Tree) (message : String) : Except Interruption Outcome := do
  let lines ← during tree (Console.lines ("[red]✗ Error:[/red] " ++ message))
  return { ending := .failure, lines, tree }

/-- The lines of a warning. -/
def warningLines (warning : String) : Except Failure (List String) :=
  Console.lines ("[yellow]⚠️  " ++ warning ++ "[/yellow]")

/-- The table of files below a directory. -/
def fileTable (title : String) (directory : Path) (files : List (String × String)) :
    Console.Table where
  title := title
  frame := .simple
  columns := [{ header := "File" }, { header := "Lines", isNumeric := true }]
  rows := files.map fun file =>
    [(directory.join (.ofText file.1)).text, toString (file.2.toList.count '\n')]

/-- The lines of a run's summary. -/
def summaryLines (summary : List (String × Json)) : Except Failure (List String) :=
  Console.panel "Generation metadata" (Text.unlines (summary.map fun entry =>
    "[bold]" ++ entry.1 ++ ":[/bold] " ++ entry.2.text))

/-- A trait without its namespace. -/
def traitName (trait : String) : String :=
  ((Text.cut? '#' trait.toList).map fun parts => String.ofList parts.2).getD trait

/-- The names of a shape's traits. -/
def traitNames (shape : Shape) : String :=
  let traits := (Entries.keys shape.traits).mergeSort fun a b => decide (a ≤ b)
  let names := ", ".intercalate (traits.map traitName)
  if names.isEmpty then "[dim]none[/dim]" else names

/-- The table of shapes. -/
def shapeTable (shapes : List Shape) : Console.Table where
  title := "📋 Shapes"
  frame := .rounded
  columns := [{ header := "Shape" }, { header := "Type" }, { header := "Traits" }]
  rows := (shapes.filter fun shape => !shape.isBuiltin).map fun shape =>
    [shape.id.text, shape.type.name, traitNames shape]

/-! ## Commands -/

/-- Whether a failure says that a model cannot be loaded. -/
def isLoadFailure : Failure → Bool
  | .source _ => true
  | .fileNotFound _ => true
  | _ => false

/-- Goes on with the model of a source, or complains. -/
def withModel (tree : Tree) (network : Network) (source : String)
    (next : Model → Except Interruption Outcome) : Except Interruption Outcome :=
  match loadModel tree network source with
  | .ok model => next model
  | .error failure =>
    if isLoadFailure failure then complain tree ("Failed to load model: " ++ failure.message)
    else .error { failure, tree }

/-- The directory for the files of a run. -/
def outputPath (settings : Settings) : Except Failure Path :=
  if settings.outputDir.truthy then
    match settings.outputDir with
    | .str path => .ok (.ofText path)
    | _ => .error (.malformed .kind)
  else .ok (.ofText ".")

/-- Delivers the files of a run. -/
def deliver (tree : Tree) (order : Order) (settings : Settings) (report : Report) :
    Except Interruption Outcome := do
  let warnings := (← during tree (report.warnings.mapM warningLines)).flatten
  let directory ← during tree (outputPath settings)
  let files := report.manifest.files
  if order.isDry then
    let lines ← during tree (fileTable "📋 Files (dry run)" directory files).lines
    return { ending := .success, lines := warnings ++ lines, tree }
  else
    match report.manifest.write tree directory with
    | (tree, some fault) =>
      -- The files that were written before the fault stay in the tree.
      let outcome ← complain tree
        ("Failed to write output to " ++ directory.text ++ ": " ++ fault.message)
      return { outcome with lines := warnings ++ outcome.lines }
    | (tree, none) =>
      let lines ← during tree (fileTable "✅ Generated files" directory files).lines
      let summary ← if order.isVerbose then during tree (summaryLines report.metadata) else pure []
      return { ending := .success, lines := warnings ++ lines ++ summary, tree }

/-- Carries out the generating command. -/
def generate (library : Library) (network : Network) (tree : Tree) (order : Order) :
    Except Interruption Outcome :=
  withModel tree network order.model fun model =>
    match Settings.load tree order.overrides order.settings with
    | .error (.settings fault) => complain tree fault.message
    | .error failure => .error { failure, tree }
    | .ok settings => do
      let _ ← during tree (Console.plain ("Generating " ++ settings.moduleName.text ++ "..."))
      let report ← during tree (generateClient library model settings)
      match report.failure with
      | none => deliver tree order settings report
      | some failure =>
        let lines ← during tree
          (Console.lines ("[red]✗ Generation failed:[/red] " ++ failure.message))
        return { ending := .failure, lines, tree }

/-- The shapes that the listing command shows. -/
def listed (model : Model) (root : Option String) : Except Failure (List Shape) :=
  match root with
  | none => model.ordered
  | some root => if root.isEmpty then model.ordered else model.closureWritten root

/-- Carries out the listing command. -/
def shapes (network : Network) (tree : Tree) (source : String) (root : Option String) :
    Except Interruption Outcome :=
  withModel tree network source fun model =>
    match listed model root with
    | .error (.model fault) => complain tree fault.message
    | .error failure => .error { failure, tree }
    | .ok shapes => do
      return { ending := .success, lines := ← during tree (shapeTable shapes).lines, tree }

/-- The tree after a file has been opened for the log. -/
def openLog (tree : Tree) (log : Option String) : Except Failure Tree :=
  match log.map Path.ofText with
  | none => .ok tree
  -- A log is appended to, so a file that is there keeps its content.
  | some path => if tree.contains path then .ok tree else (tree.write path "").mapError .file

/-- Carries out a command line. -/
def carryOut (library : Library) (network : Network) (tree : Tree) (words : List String) :
    Except Interruption Outcome :=
  match Invocation.ofWords words with
  | .error halt => .ok { ending := .halted halt, tree }
  | .ok invocation => do
    let tree ← during tree (openLog tree (invocation.log.filter fun path => !path.isEmpty))
    match invocation.command with
    | none => return { ending := .failure, tree }
    | some (.generate order) => generate library network tree order
    | some (.shapes source root) => shapes network tree source root

/-- The outcome of a command line, or the failure that interrupts it. -/
def run (library : Library) (network : Network) (tree : Tree) (words : List String) :
    Except Failure Outcome :=
  (carryOut library network tree words).mapError Interruption.failure

end ClientGen.CommandLine
