import ClientGen.Integration.Fault
import ClientGen.Settings.Fault
import ClientGen.Source.Fault
import ClientGen.Template.Fault

/-!
# Failures

Every way in which the library fails, as one type.  A failure is a cause with its data; the wording
is `Failure.message`.  A malformed value has no wording.
-/

namespace ClientGen

/-- Two sources that want the same identifier in one scope. -/
structure Collision where
  identifier : String
  first : String
  second : String
  scope : String := ""
deriving DecidableEq, Repr

/-- The collision in words. -/
def Collision.message (collision : Collision) : String :=
  let place := if collision.scope.isEmpty then "" else " in scope '" ++ collision.scope ++ "'"
  "Identifier '" ++ collision.identifier ++ "'" ++ place ++ " is claimed by both '"
    ++ collision.first ++ "' and '" ++ collision.second ++ "'"

/-- Why an operation fails. -/
inductive Failure where
  | model (fault : ModelFault)
  | collision (clash : Collision)
  /-- A generator lacks part of its configuration. -/
  | incomplete (generator : String) (missing : List String)
  /-- Two units have the same path. -/
  | unitRepeated (path : String)
  /-- No unit declares the symbol. -/
  | undeclared (symbol : String)
  | template (name : TemplateName) (fault : TemplateFault)
  | registry (fault : RegistryFault)
  | settings (fault : SettingsFault)
  | source (fault : SourceFault)
  | fileNotFound (path : String)
  | file (fault : FileFault)
  /-- More levels of indentation are to be left than were entered. -/
  | indentation (levels level : Int) (unit : String)
  /-- A step says itself that it fails. -/
  | step (reason : String)
  /-- A tag of a console text closes a style that is not open. -/
  | markup (tag : String)
  | malformed (value : Malformed)

namespace Failure

/-- The failure in words; none for a malformed value. -/
def message? : Failure → Option String
  | model fault => some fault.message
  | collision clash => some clash.message
  | incomplete generator missing =>
    some (generator ++ " is missing required configuration: " ++ ", ".intercalate missing)
  | unitRepeated path => some ("Output unit generated twice: " ++ path)
  | undeclared symbol => some ("Symbol " ++ symbol ++ " has no definition file")
  | template name fault => some ("Failed to render " ++ name.message ++ ": " ++ fault.message)
  | registry fault => some fault.message
  | settings fault => some fault.message
  | source fault => some fault.message
  | fileNotFound path => some ("File not found: " ++ path)
  | file fault => some fault.message
  | indentation levels level unit =>
    some ("Cannot dedent " ++ toString levels ++ " levels from level " ++ toString level ++ " in "
      ++ unit)
  | step reason => some reason
  | markup tag => some ("Nothing is open that the tag [" ++ tag ++ "] closes")
  | malformed _ => none

/-- The failure in words; empty for a malformed value. -/
def message (failure : Failure) : String :=
  failure.message?.getD ""

end Failure

/-- A shape id that a written one stands for. -/
def ShapeId.read (written : String) (fallback : Option String := none) : Except Failure ShapeId :=
  (ShapeId.parse written fallback).mapError fun fault => .model (.badId fault)

/-- A result that depends on the form of a value. -/
def formed {α : Type} (result : Except Malformed α) : Except Failure α :=
  result.mapError .malformed

end ClientGen
