import ClientGen.Writer.Layout
import ClientGen.Writer.Step

/-!
# Units of a run

A run writes several units of code, each of which is started when it is first written to.  The
directory of a unit decides which package it belongs to.
-/

namespace ClientGen

/-- The units that were written to, by path, and what all of them share. -/
structure Units where
  modulePath : String
  packageName : String
  indentText : String := "\t"
  writers : List (String × Writer) := []

namespace Units

/-- The directory of a path; empty for a file at the top. -/
def directory (path : String) : String :=
  match Text.cutLast? '/' path.toList with
  | some (directory, _) => String.ofList directory
  | none => ""

/-- The last element of a directory. -/
def lastElement (directory : String) : String :=
  match Text.cutLast? '/' directory.toList with
  | some (_, last) => String.ofList last
  | none => directory

/-- The empty unit of a path. -/
def fresh (units : Units) (path : String) : Writer :=
  let directory := directory path
  if directory.isEmpty then
    .start path units.packageName (some units.modulePath) units.indentText
  else
    .start path (lastElement directory) (some (units.modulePath ++ "/" ++ directory))
      units.indentText

/-- The unit of a path as it is so far. -/
def writer (units : Units) (path : String) : Writer :=
  (units.writers.lookup path).getD (units.fresh path)

/-- Performs steps in the unit of a path. -/
def perform (units : Units) (path : String) (steps : List Step) : Units × Option Failure :=
  let outcome := (units.writer path).run steps
  ({ units with writers := Entries.put path outcome.1 units.writers }, outcome.2)

/-- The path of the unit that declares a symbol. -/
def pathOf (symbol : Symbol) : Except Failure String :=
  match symbol.unit? with
  | some path => if path.isEmpty then .error (.undeclared symbol.fullName) else .ok path
  | none => .error (.undeclared symbol.fullName)

/-- The units by path. -/
def sorted (units : Units) : List (String × Writer) :=
  units.writers.mergeSort fun a b => decide (a.1 ≤ b.1)

end Units

end ClientGen
