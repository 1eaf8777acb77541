import ClientGen.Text.Class.Digit
import ClientGen.Text.Split

/-!
# Reading the words of a command line

A command line is a list of words.  A word with two dashes in front names a switch, and any start of
its name that no other switch has will do; a word with one dash holds one or more letters of
switches.  The value of a switch stands in the same word or is the next one.  All other words are
operands, and so are all words after one that is two dashes.  Main definition: `Choices.ofWords?`.

How a word reads depends only on the switches of the command, and an ambiguous word makes a command
line unreadable wherever it stands.
-/

namespace ClientGen.CommandLine

/-- Something that can be chosen on a command line. -/
structure Switch where
  name : String
  letter : Option Char := none
  takesValue : Bool := false
deriving DecidableEq, Repr

/-- The switch that asks for help. -/
def helpSwitch : Switch where
  name := "help"
  letter := some 'h'

/-- Why a command line is not carried out. -/
inductive Halt where
  /-- It asks for help. -/
  | help
  /-- It cannot be understood. -/
  | misuse
deriving DecidableEq, Repr

/-! ## Words -/

/-- What a word says that names switches. -/
structure Use where
  /-- The switches that are complete, with their values; where there is none it is empty. -/
  given : List (String × String) := []
  /-- The switch whose value is the next word. -/
  awaiting : Option String := none
  /-- Letters that are no switch. -/
  stray : List String := []
deriving DecidableEq, Repr

/-- How a word reads. -/
inductive Reading where
  | operand
  /-- Two dashes. -/
  | separator
  /-- Looks like a switch, but is none. -/
  | unknown
  | use (use : Use)
  /-- A switch has a value that takes none. -/
  | misuse
deriving DecidableEq, Repr

/-- What a letter and the letters after it say. -/
def letters (switches : List Switch) (switch : Switch) : List Char → Reading
  | [] => .use (if switch.takesValue then { awaiting := switch.name }
      else { given := [(switch.name, "")] })
  | c :: rest =>
    if switch.takesValue then
      -- What is left of the word is the value, with or without an equals sign in front.
      let value := if c = '=' then rest else c :: rest
      .use { given := [(switch.name, String.ofList value)] }
    else if c = '=' || c = '-' then .misuse
    else
      match switches.find? (·.letter == some c) with
      | none => .use { given := [(switch.name, "")], stray := [String.ofList ('-' :: c :: rest)] }
      | some next =>
        match letters switches next rest with
        | .use use => .use { use with given := (switch.name, "") :: use.given }
        | reading => reading

/-- What a long name says, with the value behind its equals sign. -/
def named (switch : Switch) : Option (List Char) → Reading
  | none => .use (if switch.takesValue then { awaiting := switch.name }
      else { given := [(switch.name, "")] })
  | some value =>
    if switch.takesValue then .use { given := [(switch.name, String.ofList value)] } else .misuse

/-- The switches that a long name may mean: the one of that name, or those whose names start with
it. -/
def meant (switches : List Switch) (name : List Char) : List Switch :=
  match switches.find? (·.name.toList == name) with
  | some switch => [switch]
  | none => switches.filter fun switch => name.isPrefixOf switch.name.toList

/-- Whether the characters behind a dash make a negative number; a line feed at the end does not
count. -/
def isNumeral (cs : List Char) : Bool :=
  let cs := if cs.getLast? == some '\n' then cs.dropLast else cs
  let isRun (digits : List Char) := !digits.isEmpty && digits.all Text.isDecimalDigit
  match Text.cut? '.' cs with
  | some (whole, fraction) => whole.all Text.isDecimalDigit && isRun fraction
  | none => isRun cs

/-- How a word reads that starts with a dash and means no switch. -/
def unmeant (behind : List Char) : Reading :=
  if isNumeral behind || behind.contains ' ' then .operand else .unknown

/-- How a word reads; an ambiguous one does not. -/
def read? (switches : List Switch) (word : String) : Option Reading :=
  match word.toList with
  | ['-', '-'] => some .separator
  | '-' :: '-' :: rest =>
    let (name, value) := match Text.cut? '=' rest with
      | some (name, value) => (name, some value)
      | none => (rest, none)
    match meant switches name with
    | [] => some (unmeant ('-' :: rest))
    | [switch] => some (named switch value)
    | _ => none
  | '-' :: c :: rest =>
    match switches.find? (·.letter == some c) with
    | some switch => some (letters switches switch rest)
    | none => some (unmeant (c :: rest))
  | _ => some .operand

/-- How words read, if none of them is ambiguous. -/
def readAll? (switches : List Switch) : List String → Option (List (String × Reading))
  | [] => some []
  | word :: rest =>
    match read? switches word with
    | none => none
    -- Whatever follows two dashes is an operand, even if it looks like a switch.
    | some .separator => some ((word, .separator) :: rest.map fun word => (word, .operand))
    | some reading => (readAll? switches rest).map ((word, reading) :: ·)

/-! ## Command lines -/

/-- What the words of a command line choose. -/
structure Choices where
  /-- Switches with their values, in order. -/
  given : List (String × String) := []
  operand : Option String := none
  /-- Words that mean nothing. -/
  stray : List String := []
  /-- The words after an operand that ends the reading. -/
  rest : List String := []
deriving DecidableEq, Repr

namespace Choices

/-- Adds switches, unless one of them asks for help. -/
def add (choices : Choices) (given : List (String × String)) (stray : List String) :
    Except Halt Choices :=
  if given.any (·.1 == helpSwitch.name) then .error .help
  else .ok { choices with given := choices.given ++ given, stray := choices.stray ++ stray }

/-- Takes a word as the operand, or as a stray word if there is an operand already. -/
def take (choices : Choices) (word : String) (mark : List String) : Choices :=
  match choices.operand with
  | none => { choices with operand := word }
  | some _ => { choices with stray := choices.stray ++ word :: mark }

/-- Goes on with words that have been read, up to the first operand or to the end.  Two dashes next
to the operand belong to it; where the operand ends the reading there must be none in front. -/
def scan (isLeading : Bool) (choices : Choices) : List (String × Reading) → Except Halt Choices
  | [] => .ok choices
  | (_, .misuse) :: _ => .error .misuse
  | (word, .unknown) :: rest => do scan isLeading (← choices.add [] [word]) rest
  | (_, .use use) :: rest =>
    match use.awaiting with
    | none => do scan isLeading (← choices.add use.given use.stray) rest
    | some name =>
      match rest with
      | (value, .operand) :: rest => do
        scan isLeading (← choices.add (use.given ++ [(name, value)]) use.stray) rest
      | _ => .error .misuse
  | (mark, .separator) :: rest =>
    if isLeading then .error .misuse
    else
      match rest with
      | (word, _) :: rest => scan isLeading (choices.take word [mark]) rest
      | [] => .ok { choices with stray := choices.stray ++ [mark] }
  | (word, .operand) :: rest =>
    if isLeading then .ok { choices with operand := word, rest := rest.map Prod.fst }
    else
      match rest with
      | (mark, .separator) :: rest => scan isLeading (choices.take word [mark]) rest
      | rest => scan isLeading (choices.take word []) rest

/-- What words choose, given the switches of a command.  If it is leading, its operand ends the
reading. -/
def ofWords? (switches : List Switch) (isLeading : Bool) (words : List String) :
    Except Halt Choices :=
  match readAll? switches words with
  | some readings => scan isLeading {} readings
  | none => .error .misuse

/-- The value of a switch; the last one counts. -/
def value? (choices : Choices) (name : String) : Option String :=
  choices.given.reverse.lookup name

/-- Whether a switch is given. -/
def has (choices : Choices) (name : String) : Bool :=
  (choices.value? name).isSome

end Choices

end ClientGen.CommandLine
