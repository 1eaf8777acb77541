import ClientGen.Name.Keyword
import ClientGen.Text.Class.Capital
import ClientGen.Text.Class.Digit
import ClientGen.Text.Class.Identifier

/-!
# Package names

The default package name of a module path, and what may be wrong with a chosen one.
-/

namespace ClientGen.Name

open Text

/-- Whether a path element marks a major version: a `v` and digits. -/
def isMajorVersion : List Char → Bool
  | 'v' :: digits => !digits.isEmpty && digits.all isDecimalDigit
  | _ => false

/-- The path elements that are not empty. -/
def pathElements (path : List Char) : List (List Char) :=
  (pieces '/' path).filter (!·.isEmpty)

/-- A character that a default package name keeps. -/
def isPackageCharacter (c : Char) : Bool :=
  c.isLower || c.isDigit || c == '_'

/-- The package name of a module: the last element of its path in lower case, without characters
other than ASCII letters, digits and underscores.  An element for the major version does not
count. -/
def packageName (modulePath : String) : String :=
  let elements := pathElements modulePath.toList
  let named :=
    -- A path that is nothing but a version is named after it.
    if 1 < elements.length && elements.getLast?.any isMajorVersion then elements.dropLast
    else elements
  String.ofList ((toLower (named.getLast?.getD [])).filter isPackageCharacter)

/-- What may be wrong with a package name. -/
inductive PackageProblem where
  | empty
  | notIdentifier (name : String)
  | capital
  | underscore
  | keyword (name : String)
  | predeclared (name : String)
deriving DecidableEq, Repr

/-- The problem in words. -/
def PackageProblem.message : PackageProblem → String
  | .empty => "Package name cannot be empty"
  | .notIdentifier name => "'" ++ name ++ "' is not a valid Go identifier"
  | .capital => "Package names should be lowercase"
  | .underscore => "Package names should not contain underscores"
  | .keyword name => "'" ++ name ++ "' is a Go reserved word"
  | .predeclared name => "'" ++ name ++ "' shadows a predeclared Go identifier"

/-- Everything that is wrong with a package name. -/
def packageProblems (name : String) : List PackageProblem :=
  match name.toList with
  | [] => [.empty]
  | c :: rest =>
    (if isIdentifier (c :: rest) then [] else [.notIdentifier name])
    ++ (if isCapital c then [.capital] else [])
    ++ (if (c :: rest).contains '_' then [.underscore] else [])
    ++ (if keywords.contains name then [.keyword name]
      else if predeclared.contains name then [.predeclared name] else [])

end ClientGen.Name
