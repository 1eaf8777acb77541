import ClientGen.Dependency.Imports
import ClientGen.Text.Wrap
import ClientGen.Writer.Phrase

/-!
# Writers

A writer collects the lines of one unit of code, indented by levels, together with the packages that
what it wrote needs.  An operation that fails still gives the writer as it left it, with its cause:
the packages of a phrase are noted before the phrase is rendered.

Documentation is written as comment lines that are filled to a width.
-/

namespace ClientGen

/-- The state of a unit of code while it is written. -/
structure Writer where
  /-- The path of the unit. -/
  path : String
  packageName : String
  indentText : String := "\t"
  imports : Imports := {}
  lines : List String := []
  level : Int := 0
  /-- The lines of the comment above the package clause. -/
  packageDocs : List String := []
deriving Inhabited

/-- A writer after some steps, and what stopped it if something did. -/
abbrev Writer.Outcome := Writer × Option Failure

namespace Writer

/-- An empty unit in a package. -/
def start (path packageName : String) (packagePath : Option String := none)
    (indentText : String := "\t") : Writer where
  path := path
  packageName := packageName
  indentText := indentText
  imports := { ownPath := packagePath }

/-- Goes on unless something stopped the writer. -/
def Outcome.andThen (outcome : Outcome) (next : Writer → Outcome) : Outcome :=
  match outcome.2 with
  | none => next outcome.1
  | some _ => outcome

/-- The text in front of every line. -/
def margin (writer : Writer) : String :=
  String.join (List.replicate writer.level.toNat writer.indentText)

/-- The text of a line behind a margin; a blank line stays empty. -/
def indented (margin line : String) : String :=
  if Text.isBlankText line.toList then "" else margin ++ line

/-- Adds the lines of a text. -/
def append (writer : Writer) (text : String) : Writer :=
  { writer with lines := writer.lines ++ (Text.lines text).map (indented writer.margin) }

/-- Adds an empty line. -/
def blank (writer : Writer) : Writer :=
  { writer with lines := writer.lines ++ [""] }

/-- Notes packages that the unit needs. -/
def use (writer : Writer) (dependencies : List Dependency) : Writer :=
  { writer with imports := writer.imports.trackAll dependencies }

/-- Adds a phrase. -/
def write (writer : Writer) (phrase : Phrase) : Outcome :=
  if phrase.isCallable then
    -- Noted first: a phrase that cannot be rendered leaves its packages behind.
    let writer := writer.use phrase.dependencies
    match phrase.render writer.imports.ownPath with
    | .ok text => (writer.append text, none)
    | .error failure => (writer, some failure)
  else (writer, some (.malformed .kind))

/-- Enters levels of indentation. -/
def indent (writer : Writer) (levels : Int := 1) : Writer :=
  { writer with level := writer.level + levels }

/-- Leaves levels of indentation that were entered. -/
def dedent (writer : Writer) (levels : Int := 1) : Outcome :=
  if levels > writer.level then
    (writer, some (.indentation levels writer.level writer.path))
  else ({ writer with level := writer.level - levels }, none)

/-! ## Documentation -/

/-- The width of a comment line, with the sign of a comment and the space after it. -/
def docsWidth : Nat := 80

/-- The width that is left for the words of a comment. -/
def docsLimit (writer : Writer) : Nat :=
  (max (docsWidth - 3 - writer.indentText.length * writer.level : Int) 20).toNat

/-- The paragraphs of a documentation. -/
def paragraphs (text : String) : List String :=
  Text.lines (Text.strip text)

/-- The lines of a paragraph; an empty one has one empty line. -/
def filled (habit : Text.Wrap.Habit) (limit : Nat) (paragraph : String) : List String :=
  match Text.wrap habit limit paragraph with
  -- Filling drops an empty paragraph, but it parts the others.
  | [] => [""]
  | lines => lines

/-- A line as a comment. -/
def comment (line : String) : String :=
  if line.isEmpty then "//" else "// " ++ line

/-- The comment lines of a documentation. -/
def docsLines (limit : Nat) (text : String) : List String :=
  ((paragraphs text).flatMap (filled .wholeWords limit)).map comment

/-- Adds a documentation as comment lines, if there is one. -/
def docs (writer : Writer) (documentation : Json) : Writer :=
  if documentation.truthy then
    (docsLines writer.docsLimit documentation.text).foldl append writer
  else writer

/-- The comment lines of a documentation of the package. -/
def packageDocsLines (text : String) : List String :=
  ((paragraphs text).flatMap (filled .hyphenated (docsWidth - 3))).map comment

/-- Sets the documentation of the package, which must be a text. -/
def documentPackage (writer : Writer) (documentation : Json) : Outcome :=
  match documentation with
  | .str text => ({ writer with packageDocs := packageDocsLines text }, none)
  | _ => (writer, some (.malformed .part))

/-- What was written, without package clause and imports. -/
def body (writer : Writer) : String :=
  Text.unlines writer.lines

end Writer

end ClientGen
