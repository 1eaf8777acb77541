import ClientGen.CommandLine.Switch
import ClientGen.Json.Basic

/-!
# Commands

The program has two commands: one generates a client from a model, the other lists the shapes of a
model.  Main definition: `Invocation.ofWords`, which reads a command line.
-/

namespace ClientGen.CommandLine

/-- What the generating command is told. -/
structure Order where
  /-- The source of the model. -/
  model : String
  /-- The file of the settings. -/
  settings : Option String := none
  /-- Settings that count before those of the file. -/
  overrides : List (String × Json) := []
  /-- Whether the files are only listed. -/
  isDry : Bool := false
  /-- Whether the summary of the run is shown. -/
  isVerbose : Bool := false

/-- A command. -/
inductive Command where
  | generate (order : Order)
  /-- Lists the shapes of a model, those that can be reached from one if that is given. -/
  | shapes (model : String) (root : Option String)

/-- The files that a command reads. -/
def Command.inputs : Command → List String
  | generate order => order.model :: order.settings.toList
  | shapes model _ => [model]

/-- What a command line asks for. -/
structure Invocation where
  /-- The file for the log. -/
  log : Option String := none
  command : Option Command := none

/-! ## Switches -/

/-- The switches in front of a command. -/
def leadingSwitches : List Switch :=
  [helpSwitch, { name := "log-file", takesValue := true }]

/-- The switch for more output. -/
def verboseSwitch : Switch where
  name := "verbose"
  letter := some 'v'

/-- The switches of the generating command. -/
def generateSwitches : List Switch :=
  [helpSwitch, { name := "settings", letter := some 's', takesValue := true },
    { name := "module", takesValue := true }, { name := "service", takesValue := true },
    { name := "package-name", takesValue := true }, { name := "protocol", takesValue := true },
    { name := "output", letter := some 'o', takesValue := true }, { name := "dry-run" },
    verboseSwitch]

/-- The switches of the listing command. -/
def shapesSwitches : List Switch :=
  [helpSwitch, { name := "service", takesValue := true }, verboseSwitch]

/-- The settings that switches override. -/
def overriding : List (String × String) :=
  [("module_name", "module"), ("service", "service"), ("package_name", "package-name"),
    ("protocol", "protocol"), ("output_dir", "output")]

/-! ## Reading -/

namespace Choices

/-- The settings that the choices override; those that are not chosen are null. -/
def overrides (choices : Choices) : List (String × Json) :=
  overriding.map fun setting => (setting.1, ((choices.value? setting.2).map Json.str).getD .null)

/-- The order that the choices make. -/
def order (choices : Choices) (model : String) : Order where
  model := model
  settings := choices.value? "settings"
  overrides := choices.overrides
  isDry := choices.has "dry-run"
  isVerbose := choices.has "verbose"

end Choices

/-- Reads the words after the name of a command, which must give its operand and nothing else that
is left over. -/
def readCommand (switches : List Switch) (make : Choices → String → Command)
    (words : List String) : Except Halt Command := do
  let choices ← Choices.ofWords? switches false words
  match choices.operand, choices.stray with
  | some operand, [] => return make choices operand
  | _, _ => throw .misuse

/-- Reads a command. -/
def Command.ofWords (name : String) (words : List String) : Except Halt Command :=
  match name with
  | "generate" =>
    readCommand generateSwitches (fun choices model => .generate (choices.order model)) words
  | "shapes" =>
    readCommand shapesSwitches (fun choices model => .shapes model (choices.value? "service")) words
  | _ => .error .misuse

/-- Reads a command line. -/
def Invocation.ofWords (words : List String) : Except Halt Invocation := do
  let choices ← Choices.ofWords? leadingSwitches true words
  let command ← match choices.operand with
    | some name => some <$> Command.ofWords name choices.rest
    | none => pure none
  if choices.stray.isEmpty then return { log := choices.value? "log-file", command }
  else throw .misuse

end ClientGen.CommandLine
