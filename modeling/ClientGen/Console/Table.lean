import ClientGen.Console.Markup

/-!
# Tables and panels

Tables and panels drawn with characters.  A table has a title, which is centred over it, a line of
headers, and rows; a cell may have several lines.  Every column is as wide as its widest cell, with
a space on both sides.  Main definitions: `Table.lines` and `panel`.
-/

namespace ClientGen.Console

/-- A horizontal line. -/
structure Rule where
  left : Char
  fill : Char
  crossing : Char
  right : Char
deriving DecidableEq, Repr

/-- The lines around and inside a table. -/
structure Frame where
  top : Rule
  underHeader : Rule
  bottom : Rule
  /-- The left side, the separator of columns, and the right side of a row. -/
  left : Char
  divider : Char
  right : Char
deriving DecidableEq, Repr

namespace Frame

/-- A frame with round corners. -/
def rounded : Frame where
  top := ⟨'╭', '─', '┬', '╮'⟩
  underHeader := ⟨'├', '─', '┼', '┤'⟩
  bottom := ⟨'╰', '─', '┴', '╯'⟩
  left := '│'
  divider := '│'
  right := '│'

/-- A frame that is empty but for a line under the headers. -/
def simple : Frame where
  top := ⟨' ', ' ', ' ', ' '⟩
  underHeader := ⟨' ', '─', '─', ' '⟩
  bottom := ⟨' ', ' ', ' ', ' '⟩
  left := ' '
  divider := ' '
  right := ' '

end Frame

/-- A column of a table. -/
structure Column where
  header : String
  /-- Whether the cells stand at the right. -/
  isNumeric : Bool := false
deriving DecidableEq, Repr

/-- A table; titles and cells may hold markup. -/
structure Table where
  title : String
  frame : Frame
  columns : List Column
  rows : List (List String)

/-- The lines of a cell. -/
abbrev Cell := List (List Char)

namespace Cell

/-- Reads a cell. -/
def ofMarkup (markup : String) : Except Failure Cell := do
  return Text.pieces '\n' (← plain markup)

/-- The columns of the console that a cell takes. -/
def width (cell : Cell) : Nat :=
  (cell.map Text.width).foldl max 0

end Cell

/-- Spaces. -/
def spaces (count : Nat) : List Char :=
  List.replicate count ' '

/-- A text that fills a number of columns. -/
def padded (isRight : Bool) (width : Nat) (cs : List Char) : List Char :=
  let gap := spaces (width - Text.width cs)
  if isRight then gap ++ cs else cs ++ gap

/-- A text in the middle of a number of columns, an odd one of which is left at the right. -/
def centred (fill : Char) (width : Nat) (cs : List Char) : List Char :=
  let gap := width - Text.width cs
  List.replicate (gap / 2) fill ++ cs ++ List.replicate (gap - gap / 2) fill

/-- A horizontal line over columns of some widths. -/
def Rule.draw (rule : Rule) (widths : List Nat) : List Char :=
  rule.left :: ([rule.crossing].intercalate (widths.map fun width =>
    List.replicate (width + 2) rule.fill) ++ [rule.right])

namespace Table

/-- One line of a row. -/
def drawLine (table : Table) (widths : List Nat) (cells : List (List Char)) : List Char :=
  let parts := (table.columns.zip (widths.zip cells)).map fun part =>
    ' ' :: (padded part.1.isNumeric part.2.1 part.2.2 ++ [' '])
  table.frame.left :: ([table.frame.divider].intercalate parts ++ [table.frame.right])

/-- The lines of a row. -/
def drawRow (table : Table) (widths : List Nat) (cells : List Cell) : List (List Char) :=
  let height := (cells.map List.length).foldl max 0
  (List.range height).map fun line =>
    table.drawLine widths (cells.map fun cell => (cell[line]?).getD [])

/-- The widths of the columns. -/
def widths (table : Table) (rows : List (List Cell)) : List Nat :=
  (List.range table.columns.length).map fun column =>
    (rows.map fun row => ((row[column]?).map Cell.width).getD 0).foldl max 0

/-- The lines of a table. -/
def draw (table : Table) (title : List Char) (headers : List Cell) (rows : List (List Cell)) :
    List (List Char) :=
  let widths := table.widths (headers :: rows)
  let top := table.frame.top.draw widths
  centred ' ' (Text.width top) title :: top :: (table.drawRow widths headers
    ++ [table.frame.underHeader.draw widths]
    ++ rows.flatMap (table.drawRow widths)
    ++ [table.frame.bottom.draw widths])

/-- The lines of a table as a console shows them. -/
def lines (table : Table) : Except Failure (List String) := do
  let title ← plain table.title
  let headers ← table.columns.mapM fun column => Cell.ofMarkup column.header
  let rows ← table.rows.mapM fun row => row.mapM Cell.ofMarkup
  return (table.draw title headers rows).map lineOf

end Table

/-- The columns of a console. -/
def consoleWidth : Nat := 400

/-- The lines of a frame as wide as the console around a text, with a title in the upper edge. -/
def panel (title markup : String) : Except Failure (List String) := do
  let cell ← Cell.ofMarkup markup
  let inner := consoleWidth - 4
  let top := ['╭', '─'] ++ centred '─' inner (' ' :: (title.toList ++ [' '])) ++ ['─', '╮']
  let bottom := '╰' :: (List.replicate (inner + 2) '─' ++ ['╯'])
  let rows := cell.map fun line => ['│', ' '] ++ padded false inner line ++ [' ', '│']
  return (top :: rows ++ [bottom]).map lineOf

end ClientGen.Console
