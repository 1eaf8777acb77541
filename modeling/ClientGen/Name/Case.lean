import ClientGen.Text.Casing
import ClientGen.Text.Class.Blank
import ClientGen.Text.Class.Word
import ClientGen.Text.Split

/-!
# Letter case of names

Names in a model are written in many styles, and an identifier needs one of its own: snake case
(`user_name`), camel case (`userName`), Pascal case (`UserName`) or capitals (`USER_NAME`).

Snake case marks the words of a name by two passes, one that parts a run of capitals from the word
after it (`HTTPClient` becomes `HTTP_Client`) and one that parts a small letter or digit from the
capital after it.  Pascal case keeps a name that has the form already, so that a name such as
`GetHTTPStatus` comes through unchanged.
-/

namespace ClientGen.Name

open Text

/-- The longest runs of characters of one kind. -/
def segments (inside : Char → Bool) : List Char → List (List Char)
  | [] => []
  | c :: rest =>
    if inside c then
      match segments inside rest with
      | [] => [[c]]
      | run :: others =>
        -- The next run continues this one only if it starts right here.
        if rest.head?.any inside then (c :: run) :: others else [c] :: run :: others
    else segments inside rest

/-- The words of a text: its runs of word characters. -/
def words (name : String) : List String :=
  (segments isWord name.toList).map String.ofList

/-- The upper-case form of the first character, and the rest untouched. -/
def capitalized : List Char → List Char
  | [] => []
  | c :: rest => upperForm c ++ rest

/-- A text with its first character in upper case. -/
def capitalize (name : String) : String :=
  String.ofList (capitalized name.toList)

/-! ## Snake case -/

/-- A run of capitals, its last one parted from the others if a small letter comes after it. -/
def partLast (run after : List Char) : List Char :=
  if 2 ≤ run.length && after.head?.any Char.isLower then
    run.dropLast ++ '_' :: run.getLast?.toList
  else run

/-- Parts every run of capitals from the word that its last capital starts. -/
def splitAcronyms : List Char → List Char
  | [] => []
  | c :: rest =>
    if c.isUpper then
      -- The whole run at once: only its last capital can start another word.
      let more := rest.takeWhile Char.isUpper
      let after := rest.drop more.length
      partLast (c :: more) after ++ splitAcronyms after
    else c :: splitAcronyms rest
termination_by cs => cs.length
decreasing_by
  · simp only [List.length_drop, List.length_cons]
    omega
  · simp only [List.length_cons]
    omega

/-- Parts every small letter or digit from a capital after it. -/
def splitHumps : List Char → List Char
  | [] => []
  | [c] => [c]
  | c :: d :: rest =>
    if (c.isLower || c.isDigit) && d.isUpper then c :: '_' :: d :: splitHumps rest
    else c :: splitHumps (d :: rest)

/-- Keeps one underscore of every run. -/
def joinUnderscores : List Char → List Char
  | [] => []
  | c :: rest =>
    if c = '_' && rest.head? == some '_' then joinUnderscores rest
    else c :: joinUnderscores rest

/-- Snake case of a name's characters. -/
def snaked (cs : List Char) : List Char :=
  let joined := cs.map fun c => if c = '-' then '_' else c
  trim (· == '_') (joinUnderscores (toLower (splitHumps (splitAcronyms joined))))

/-- A name in snake case. -/
def snake (name : String) : String :=
  String.ofList (snaked name.toList)

/-! ## Pascal and camel case -/

/-- Whether a name is an ASCII capital followed by ASCII letters and digits. -/
def isPascal : List Char → Bool
  | [] => false
  | c :: rest => c.isUpper && rest.all Char.isAlphanum

/-- What stands between the words of a name. -/
def isSeparator (c : Char) : Bool :=
  c == '_' || c == '-' || isBlank c

/-- Pascal case of a name's characters. -/
def pascaled (cs : List Char) : List Char :=
  -- A name that is in Pascal case already keeps its acronyms.
  if isPascal cs then cs
  else (segments (fun c => !isSeparator c) cs).flatMap capitalized

/-- A name in Pascal case. -/
def pascal (name : String) : String :=
  String.ofList (pascaled name.toList)

/-- Camel case of a name's characters: Pascal case with the first character in lower case. -/
def cameled (cs : List Char) : List Char :=
  match pascaled cs with
  | [] => []
  | c :: rest => lowerForm c ++ rest

/-- A name in camel case. -/
def camel (name : String) : String :=
  String.ofList (cameled name.toList)

/-- The styles of an identifier. -/
inductive Case where
  | snake
  | camel
  | pascal
  | capitals
deriving DecidableEq, Repr

/-- A name's characters in a style. -/
def Case.apply : Case → List Char → List Char
  | .snake, cs => snaked cs
  | .camel, cs => cameled cs
  | .pascal, cs => pascaled cs
  | .capitals, cs => toUpper (snaked cs)

/-- The style of a name, by the word that options use for it. -/
def Case.ofName? : String → Option Case
  | "snake" => some .snake
  | "camel" => some .camel
  | "pascal" => some .pascal
  | "screaming_snake" => some .capitals
  | _ => none

end ClientGen.Name
