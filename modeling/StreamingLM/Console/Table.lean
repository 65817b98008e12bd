import StreamingLM.Console.Layout

/-!
Tables of text. Columns are as wide as their widest cell needs; when they do not fit side by side,
the widest ones shrink until they do, and cells wrap.
-/
namespace StreamingLM

/-- A table whose rows have equally many cells. A framed table has its headings in the first row; any
other has neither frame nor headings. -/
structure Table where
  title : Option (List Char) := none
  framed : Bool
  columns : Nat
  rows : List (List (List Char))
  deriving DecidableEq, Repr

namespace Table

def ofRows (title : Option (List Char)) (framed : Bool) (rows : List (List (List Char))) : Table :=
  let columns := (rows.map List.length).foldl max 0
  { title, framed, columns
    rows := rows.map fun row => row ++ List.replicate (columns - row.length) [] }

def margin (t : Table) : Nat := if t.framed then 1 else 2

def frameWidth (t : Table) : Nat := if t.framed then t.columns + 1 else 0

def column (t : Table) (j : Nat) : List (List Char) := t.rows.map fun row => (row[j]?).getD []

/-- The width that a cell asks for when there is so much room. -/
def cellWidth (margin room : Nat) (cell : List Char) : Nat :=
  if room < 2 * margin + 1 then room else min (Layout.widest cell + 2 * margin) room

def columnWidth (margin room : Nat) (cells : List (List Char)) : Nat :=
  (cells.map (cellWidth margin room)).foldl max 0

def total (widths : List Nat) : Nat := widths.foldl (· + ·) 0

/-- The nearest integer to a quotient; a half goes to the even neighbour. -/
def nearest (n d : Nat) : Nat :=
  let q := n / d
  let r := n % d
  if 2 * r < d ∨ (2 * r = d ∧ q % 2 = 0) then q else q + 1

/-- Take `excess` off the columns of width `top`, of which there are `count`, in even shares of at most
`limit`. -/
def takeOff (top limit : Nat) (excess count : Nat) : List Nat → List Nat
  | [] => []
  | w :: rest =>
    if w = top ∧ 0 < count then
      let share := min limit (nearest excess count)
      (w - share) :: takeOff top limit (excess - share) (count - 1) rest
    else w :: takeOff top limit excess count rest

/-- One step of shrinking: the widest columns go down toward the next width below. -/
def shrinkOnce (room : Nat) (widths : List Nat) : List Nat :=
  let top := widths.foldl max 0
  let next := (widths.filter (· ≠ top)).foldl max 0
  let excess := total widths - room
  takeOff top (min excess (top - next)) excess (widths.filter (· = top)).length widths

/-- Shrink the columns until they fit. Each step ends the matter or makes two widths one, so as many
steps as there are columns are enough. -/
def shrink (room : Nat) : Nat → List Nat → List Nat
  | 0, widths => widths
  | steps + 1, widths =>
    if total widths ≤ room then widths else shrink room steps (shrinkOnce room widths)

def widths (t : Table) (console : Nat) : List Nat :=
  let room := console - t.frameWidth
  let columns := (List.range t.columns).map t.column
  let natural := columns.map fun cells => max 1 (columnWidth t.margin room cells)
  if total natural ≤ room then natural
  else
    (columns.zip (shrink room (t.columns + 1) natural)).map fun (cells, width) =>
      if width = 0 then 0 else columnWidth t.margin width cells

def cellLines (margin width : Nat) (cell : List Char) : List (List Char) :=
  (Layout.paragraph (width - 2 * margin) .ellipsis .left cell).map fun line =>
    Cells.fit width (Cells.blanks margin ++ line ++ Cells.blanks margin)

/-- The lines of a row. Headings stand at the bottom of their row, all else at the top. -/
def rowLines (margin : Nat) (widths : List Nat) (heading : Bool) (divider : List Char)
    (row : List (List Char)) : List (List Char) :=
  let cells := (widths.zip row).map fun (width, cell) => (width, cellLines margin width cell)
  let height := (cells.map fun (_, ls) => ls.length).foldl max 1
  let filled := cells.map fun (width, ls) =>
    let empty := List.replicate (height - ls.length) (Cells.blanks width)
    if heading then empty ++ ls else ls ++ empty
  (List.range height).map fun i => divider.intercalate (filled.map fun ls => (ls[i]?).getD [])

def rule (left fill divider right : Char) (widths : List Nat) : List Char :=
  left :: [divider].intercalate (widths.map (List.replicate · fill)) ++ [right]

def sided (side : Char) (lines : List (List Char)) : List (List Char) :=
  lines.map fun line => side :: line ++ [side]

def bodyLines (t : Table) (widths : List Nat) : List (List Char) :=
  if t.framed then
    let heads := t.rows.take 1
    let rest := t.rows.drop 1
    [rule '┏' '━' '┳' '┓' widths]
      ++ sided '┃' (heads.flatMap (rowLines t.margin widths true ['┃']))
      ++ [rule '┡' '━' '╇' '┩' widths]
      ++ sided '│' (rest.flatMap (rowLines t.margin widths false ['│']))
      ++ [rule '└' '─' '┴' '┘' widths]
  else t.rows.flatMap (rowLines t.margin widths false [])

/-- The lines of a table on a console of so many cells; the title stands above the middle. -/
def lines (t : Table) (console : Nat) : List (List Char) :=
  let widths := t.widths console
  let title := match t.title with
    | none => []
    | some title => Layout.paragraph (total widths + t.frameWidth) .fold .center title
  (title ++ t.bodyLines widths).map (Layout.crop console)

end Table
end StreamingLM
