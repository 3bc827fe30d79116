import Pruning.Console.Wrap
import Pruning.Text.Lines

/-!
Tables: columns of cells in a frame, a heading above each column, a title above the table and a caption
below it. A column is as wide as its widest line unless its width is given; when the table is wider than
the page, the widest columns that may wrap give way first.
-/

namespace Pruning.Console

/-- A column of a table. -/
structure Column where
  heading : Styled
  cells : List Styled
  /-- The width of the text, if it is given. -/
  width : Option Nat
  layout : Layout
  deriving DecidableEq, Repr

/-- A table. Columns have the same number of cells. -/
structure Table where
  columns : List Column
  title : Option Styled
  caption : Option Styled
  /-- Whether there are lines between the rows. -/
  ruled : Bool
  deriving DecidableEq, Repr

/-! ## Widths -/

/-- The spaces at both sides of a cell. -/
def padding : Nat := 2

/-- The cells of the longest line of a text. -/
def longest (text : Styled) : Nat :=
  ((Text.lines text.chars).map fun line => cells line).foldl max 0

/-- The width of a column, its padding included, when at most `limit` cells are free. -/
def Column.measure (column : Column) (limit : Nat) : Nat :=
  match column.width with
  | some width => min (width + padding) limit
  | none =>
    if limit ≤ padding then limit
    else min (((column.heading :: column.cells).map longest).foldl max 0 + padding) limit

/-- The quotient of two numbers, rounded to the nearest integer and halves to the even one. -/
def nearest (n d : Nat) : Nat :=
  let double := 2 * (n % d)
  if double < d || (double = d && n / d % 2 = 0) then n / d else n / d + 1

/-- Takes `total` from widths in equal shares, from each at most its limit and only where `takes` says so.
Each entry is a width, its limit and whether it gives way; `sharing` entries are left to do so. -/
def shrink (total sharing : Nat) : List (Nat × Nat × Bool) → List Nat
  | [] => []
  | (width, limit, takes) :: rest =>
    if takes then
      let share := min limit (nearest total sharing)
      (width - share) :: shrink (total - share) (sharing - 1) rest
    else width :: shrink total sharing rest

/-- Takes `total` from widths; `limits` tells for each how much it can give. -/
def shrinkBy (total : Nat) (widths : List Nat) (limits : List Nat) : List Nat :=
  let entries := (widths.zip limits).map fun entry => (entry.1, entry.2, decide (0 < entry.2))
  shrink total (entries.countP fun entry => entry.2.2) entries

/-- Narrows the widest columns that may wrap down to the next widest, again and again, until the columns
fit into `limit` cells. Each entry is a width and whether the column may wrap; each round takes something
away, so as many rounds as cells are enough. -/
def collapse (limit : Nat) : Nat → List (Nat × Bool) → List (Nat × Bool)
  | 0, entries => entries
  | fuel + 1, entries =>
    let excess := sumCells (entries.map Prod.fst) - limit
    let wrapping := (entries.filter Prod.snd).map Prod.fst
    let widest := wrapping.foldl max 0
    let second := (wrapping.filter (· ≠ widest)).foldl max 0
    if excess = 0 || widest = 0 then entries
    else
      let limits := entries.map fun entry =>
        if entry.2 && entry.1 = widest then min excess (widest - second) else 0
      let widths := shrinkBy excess (entries.map Prod.fst) limits
      collapse limit fuel (widths.zip (entries.map Prod.snd))

/-- The cells that the frame takes. -/
def Table.frame (table : Table) : Nat :=
  table.columns.length + 1

/-- The widths of the columns on a page of `page` cells. -/
def Table.widths (table : Table) (page : Nat) : List Nat :=
  let limit := page - table.frame
  let natural := table.columns.map fun column => max 1 (column.measure limit)
  if sumCells natural ≤ limit then natural
  else
    let wraps := table.columns.map fun column => column.width.isNone && !column.layout.unwrapped
    let collapsed := (collapse limit (sumCells natural) (natural.zip wraps)).map Prod.fst
    let widths :=
      if sumCells collapsed ≤ limit then collapsed
      else shrinkBy (sumCells collapsed - limit) collapsed collapsed
    (table.columns.zip widths).map fun entry => entry.1.measure entry.2

/-! ## Lines -/

/-- The lines of a cell of `width` cells, its padding included. -/
def cellLines (layout : Layout) (width : Nat) (text : Styled) : List (List Run) :=
  let inner := width - padding
  (wrap layout inner text).map fun line => fitRuns width ([' '] :: fitRuns inner line ++ [[' ']])

/-- The line of a row: the lines of its cells between bars. -/
def barred (bar : Char) (parts : List (List Run)) : List Run :=
  [bar] :: parts.flatMap fun part => part ++ [[bar]]

/-- A line of the frame: left edge, line, crossing and right edge. -/
def rule (left line crossing right : Char) (widths : List Nat) : List Run :=
  let parts := widths.map fun width => List.replicate width line
  [left :: (List.intercalate [crossing] parts ++ [right])]

/-- The lines of a row. All cells are brought to the height of the highest; the text of a heading is at the
bottom, that of other cells at the top. -/
def rowLines (bar : Char) (isHeading : Bool) (widths : List Nat) (row : List (List (List Run))) :
    List (List Run) :=
  let height := (row.map List.length).foldl max 1
  let filled := (row.zip widths).map fun entry =>
    let blank := List.replicate (height - entry.1.length) [spaces entry.2]
    if isHeading then blank ++ entry.1 else entry.1 ++ blank
  (List.range height).map fun index => barred bar (filled.map fun lines => (lines[index]?).getD [])

/-- The rows of the table below the heading. -/
def Table.rows (table : Table) : List (List Styled) :=
  let height := (table.columns.map fun column => column.cells.length).foldl max 0
  (List.range height).map fun index =>
    table.columns.map fun column => (column.cells[index]?).getD (.plain [])

/-- The lines of a table whose columns have given widths, without title and caption. -/
def Table.body (table : Table) (widths : List Nat) : List (List Run) :=
  let lay (texts : List Styled) : List (List (List Run)) :=
    ((table.columns.zip widths).zip texts).map fun entry =>
      cellLines entry.1.1.layout entry.1.2 entry.2
  let heading := rowLines '┃' true widths (lay (table.columns.map Column.heading))
  let rows := table.rows.map fun row => rowLines '│' false widths (lay row)
  let between := if table.ruled then [rule '├' '─' '┼' '┤' widths] else []
  [rule '┏' '━' '┳' '┓' widths] ++ heading ++ [rule '┡' '━' '╇' '┩' widths] ++
    List.intercalate between rows ++ [rule '└' '─' '┴' '┘' widths]

/-- The lines of a table on a page of `page` cells. A table without columns is an empty line. -/
def Table.lines (table : Table) (page : Nat) : List (List Run) :=
  if table.columns.isEmpty then [[]]
  else
    let widths := table.widths page
    let legend (text : Option Styled) : List (List Run) :=
      match text with
      | none => []
      | some text => wrap { Layout.plain with justify := .center } (sumCells widths + table.frame) text
    (legend table.title ++ table.body widths ++ legend table.caption).map (limitRuns page)

end Pruning.Console
