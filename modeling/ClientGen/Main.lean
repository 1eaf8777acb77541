import ClientGen.CommandLine.Run

/-!
# The program

The command line of the generator: reads the files that a command names, carries the command out,
writes the files that it changes, and prints its lines.  There is no network, and there are no
integrations that import strings could name.
-/

namespace ClientGen.Program

/-- What stands at a path of the file system. -/
def lookUp (path : String) : IO (Option FileNode) := do
  try
    let bytes ← IO.FS.readBinFile path
    return some (.file bytes.toList)
  catch
    | .noFileOrDirectory .. => return none
    | _ => return some .directory

/-- The tree of the files that a command reads. -/
def inputs (command : Option CommandLine.Command) : IO Tree := do
  let paths := (command.map CommandLine.Command.inputs).getD []
  let files ← paths.filterMapM fun path => do
    return (← lookUp path).map fun node => (path, node)
  return .ofFiles files

/-- Writes a file and makes the directories around it. -/
def write (file : Path × List UInt8) : IO Unit := do
  IO.FS.createDirAll file.1.parent.text
  IO.FS.writeBinFile file.1.text ⟨file.2.toArray⟩

/-- Ends a command line: writes the files and prints the lines, or the failure. -/
def finish (before : Tree) (result : Except CommandLine.Interruption CommandLine.Outcome) :
    IO UInt32 := do
  try
    match result with
    | .ok outcome =>
      (before.changes outcome.tree).forM write
      outcome.lines.forM IO.println
      return outcome.ending.code.toUInt32
    | .error interruption =>
      (before.changes interruption.tree).forM write
      IO.eprintln interruption.failure.message
      return CommandLine.Ending.failure.code.toUInt32
  catch error =>
    IO.println ("✗ Error: Failed to write output: " ++ error.toString)
    return CommandLine.Ending.failure.code.toUInt32

end ClientGen.Program

open ClientGen in
/-- Carries out a command line. -/
def main (words : List String) : IO UInt32 := do
  let command := match CommandLine.Invocation.ofWords words with
    | .ok invocation => invocation.command
    | .error _ => none
  let tree ← Program.inputs command
  Program.finish tree (CommandLine.carryOut [] (fun _ => .disconnected) tree words)
