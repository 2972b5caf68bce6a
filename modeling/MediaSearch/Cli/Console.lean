/-
Text and tables for a terminal.

A terminal has no use for the characters that ring its bell or move its cursor, so
they are taken out, and a tab becomes the blanks up to the next multiple of eight
columns.
-/
import MediaSearch.Text.Pieces

namespace MediaSearch.Cli

/-- Whether a character would move the cursor or ring the bell. -/
def isCursorControl (c : Char) : Bool :=
  let n := c.toNat
  n == 7 || n == 8 || (11 ≤ n && n ≤ 13)

/-- The number of columns that a character takes up: none for a control character or a mark on
the letter before it. -/
def columnsOf (c : Char) : Nat :=
  let n := c.toNat
  if n < 32 || (127 ≤ n && n < 160) || (0x300 ≤ n && n ≤ 0x36F) || (0x200B ≤ n && n ≤ 0x200F)
      || (0x2028 ≤ n && n ≤ 0x202E) || (0x2060 ≤ n && n ≤ 0x2064) || n == 0xFEFF then 0
  else 1

/-- The number of columns that a text on one line takes up. -/
def columns (text : List Char) : Nat :=
  text.foldr (fun c taken => columnsOf c + taken) 0

/-- A text with blanks for its tabs, from a column of its line on. -/
def withoutTabs (column : Nat) : List Char → List Char
  | [] => []
  | '\n' :: rest => '\n' :: withoutTabs 0 rest
  | '\t' :: rest =>
    let size := 8 - column % 8
    List.replicate size ' ' ++ withoutTabs (column + size) rest
  | c :: rest => c :: withoutTabs (column + columnsOf c) rest

/-- A text as a terminal shows it, and the end of its line. -/
def consoleLine (text : String) : String :=
  String.ofList (withoutTabs 0 (text.toList.filter fun c => !isCursorControl c)) ++ "\n"

/-! ### Tables -/

/-- Which side the text of a column is set to. -/
inductive Side
  | left
  | right
  deriving DecidableEq, Repr

/-- A column of a table. -/
structure Column where
  /-- Its heading. -/
  heading : String
  /-- The side that its text is set to. -/
  side : Side

/-- The lines of a cell. -/
def cellLines (cell : String) : List (List Char) :=
  Text.pieces '\n' (cell.toList.filter fun c => !isCursorControl c)

/-- A line of a cell, filled up to a width. -/
def setTo (side : Side) (width : Nat) (line : List Char) : String :=
  let blanks := List.replicate (width - columns line) ' '
  String.ofList (match side with
    | .left => line ++ blanks
    | .right => blanks ++ line)

/-- The characters that a line between the rows of a table is drawn with. -/
structure Rule where
  /-- At the left end. -/
  start : String
  /-- Along a column. -/
  along : Char
  /-- Between two columns. -/
  between : String
  /-- At the right end. -/
  stop : String

/-- A line between rows. -/
def Rule.draw (r : Rule) (widths : List Nat) : String :=
  r.start ++ r.between.intercalate (widths.map fun width => "".pushn r.along (width + 2)) ++ r.stop
    ++ "\n"

/-- The width of a column: that of the widest line in it. -/
def widthOf (cells : List String) : Nat :=
  ((cells.flatMap cellLines).map columns).foldl max 0

/-- One line of a row. -/
def rowLine (bar : String) (cells : List String) : String :=
  bar ++ bar.intercalate (cells.map fun cell => " " ++ cell ++ " ") ++ bar ++ "\n"

/-- A row, over as many lines as its highest cell has. -/
def rowLines (bar : String) (table : List (Column × Nat)) (cells : List String) : String :=
  let lines := cells.map cellLines
  let height := (lines.map List.length).foldl max 0
  String.join ((List.range height).map fun i =>
    rowLine bar ((table.zip lines).map fun ((column, width), cell) =>
      setTo column.side width (cell.getD i [])))

/-- A table with a frame around it. -/
def frame (columns : List Column) (rows : List (List String)) : String :=
  let widths := columns.mapIdx fun i column =>
    widthOf (column.heading :: rows.map fun row => row.getD i "")
  let table := columns.zip widths
  Rule.draw ⟨"┏", '━', "┳", "┓"⟩ widths
    ++ rowLines "┃" table (columns.map Column.heading)
    ++ Rule.draw ⟨"┡", '━', "╇", "┩"⟩ widths
    ++ String.join (rows.map (rowLines "│" table))
    ++ Rule.draw ⟨"└", '─', "┴", "┘"⟩ widths

/-- A title in the middle above a table. -/
def titled (title : String) (table : String) : String :=
  let width := columns ((table.toList).takeWhile (· != '\n'))
  let blanks := width - title.length
  "".pushn ' ' (blanks / 2) ++ title ++ "".pushn ' ' (blanks - blanks / 2) ++ "\n" ++ table

end MediaSearch.Cli
