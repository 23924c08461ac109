import Scaffold.Console.Layout
import Scaffold.Console.Markup

/-!
# Tables

A frame around the rows, heavy around the heads of the columns, with one space beside each cell and
the title centred above. A row with more cells than there are columns adds columns without a head.
-/

set_option autoImplicit false

namespace Scaffold.Console

private abbrev Cell := List (List Char)

private def cellOf (text : List Char) : Cell :=
  ((withoutControls text).splitOn '\n').map (expandTabs 0)

private def cellWidthOf (cell : Cell) : Nat :=
  (cell.map Text.cellCount).foldl max 0

/-- What the lines of a row and the rules between rows are drawn with. -/
private structure Stroke where
  left : Char
  fill : Char
  between : Char
  right : Char

private def topRule : Stroke := ⟨'┏', '━', '┳', '┓'⟩

private def headLine : Stroke := ⟨'┃', ' ', '┃', '┃'⟩

private def headRule : Stroke := ⟨'┡', '━', '╇', '┩'⟩

private def rowLine : Stroke := ⟨'│', ' ', '│', '│'⟩

private def bottomRule : Stroke := ⟨'└', '─', '┴', '┘'⟩

private def draw (stroke : Stroke) (cells : List (List Char)) : List Char :=
  stroke.left :: [stroke.between].intercalate cells ++ [stroke.right]

private def rule (stroke : Stroke) (widths : List Nat) : List Char :=
  draw stroke (widths.map fun width => List.replicate (width + 2) stroke.fill)

private def pad (width : Nat) (line : List Char) : List Char :=
  ' ' :: line ++ List.replicate (width - Text.cellCount line) ' ' ++ [' ']

private def row (stroke : Stroke) (widths : List Nat) (cells : List Cell) : List (List Char) :=
  let height := (cells.map List.length).foldl max 1
  (List.range height).map fun index =>
    draw stroke ((widths.zip cells).map fun (width, cell) => pad width (cell.getD index []))

private def fillRow (count : Nat) (cells : List Cell) : List Cell :=
  cells ++ List.replicate (count - cells.length) [[]]

/-- A line in the middle of a width. -/
private def centre (width : Nat) (line : List Char) : List Char :=
  let line := Text.trimRight line
  let left := (width - Text.cellCount line) / 2
  let line := List.replicate left ' ' ++ line
  line ++ List.replicate (width - Text.cellCount line) ' '

private def titleLines (width : Nat) (title : List Char) : List (List Char) :=
  if title.isEmpty then [] else (wrappedLines width (render title)).map (centre width)

/-- A table and the empty line after it. Marks count in the title and the heads only. -/
def table (title : String) (heads : List String) (rows : List (List String)) : List Char :=
  let headCells := heads.map fun head => cellOf (render head.toList)
  let rowCells := rows.map fun cells => cells.map fun cell => cellOf (render (escape cell.toList))
  let count := (rowCells.map List.length).foldl max headCells.length
  if count = 0 then ['\n', '\n']
  else
    let headCells := fillRow count headCells
    let rowCells := rowCells.map (fillRow count)
    let widths := (List.range count).map fun index =>
      ((headCells :: rowCells).map fun cells => cellWidthOf (cells.getD index [])).foldl max 0
    let tableWidth := widths.foldl (fun total width => total + width + 3) 1
    joinLines (titleLines tableWidth title.toList ++ [rule topRule widths] ++
      row headLine widths headCells ++ [rule headRule widths] ++
      rowCells.flatMap (row rowLine widths) ++ [rule bottomRule widths, []])

end Scaffold.Console
