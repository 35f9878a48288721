import QueryLint.Console.Wrap

/-! # Grids

Tables drawn with lines: a heavy frame around the header and a light one around the rows. A column
is as wide as the widest line of its cells with a blank on either side, as long as the grid fits on
the page; if it does not, columns whose lines may be broken give way first, and the widest of them
before the others. A cell of several lines makes its row as high.
-/

namespace QueryLint.Console

inductive Alignment
  | left
  | right
  deriving DecidableEq, Repr

structure Column where
  header : String
  alignment : Alignment := .left
  /-- Whether lines may be broken; where they may not, they are cut. -/
  wraps : Bool := true
  deriving Repr

structure Grid where
  /-- Shown above the grid, in the middle. -/
  title : Option String := none
  columns : List Column
  rows : List (List String)
  deriving Repr

namespace Grid

/-! ## Widths of columns -/

def cellWidth (cell : String) : Nat :=
  ((Text.lines cell.toList).map textWidth).foldl max 0

/-- The cells of a column, without its header. -/
def cellsAt (rows : List (List String)) (i : Nat) : List String :=
  rows.map fun r => (r[i]?).getD ""

def wantedWidths (g : Grid) (room : Nat) : List Nat :=
  g.columns.zipIdx.map fun (c, i) =>
    let content := ((cellsAt g.rows i).map cellWidth).foldl max (cellWidth c.header)
    max 1 (min (content + 2) room)

def sumOf (ws : List Nat) : Nat :=
  ws.foldl (· + ·) 0

/-- A quotient to the nearest number, and from the middle to the even one. -/
def roundedQuotient (n d : Nat) : Nat :=
  let q := n / d
  if 2 * (n % d) < d || (2 * (n % d) = d && q % 2 = 0) then q else q + 1

/-- Takes an excess away from widths, each with the most that it gives. Those that give anything
share evenly what is left when it is their turn. -/
def takeAway (excess givers : Nat) : List (Nat × Nat) → List Nat
  | [] => []
  | (most, w) :: r =>
    if most = 0 then w :: takeAway excess givers r
    else
      let share := min most (roundedQuotient excess givers)
      (w - share) :: takeAway (excess - share) (givers - 1) r

/-- Takes an excess away from widths, within bounds. -/
def reduced (excess : Nat) (bounds ws : List Nat) : List Nat :=
  takeAway excess (bounds.countP (· ≠ 0)) (bounds.zip ws)

/-- Takes an excess away from the widest of the columns that may be broken, until they are as wide
as the next ones. -/
def leveled (wraps : List Bool) (excess : Nat) (ws : List Nat) : List Nat :=
  let broken := ((ws.zip wraps).filter (·.2)).map (·.1)
  let widest := broken.foldl max 0
  let next := (broken.filter (· ≠ widest)).foldl max 0
  let bounds := (ws.zip wraps).map fun (w, breaks) =>
    if breaks && w = widest then min excess (widest - next) else 0
  reduced excess bounds ws

/-- Levels columns round after round until they fit into the room or none is left to give way. A
round that has not come to the end takes at least one cell away. -/
def collapsed (wraps : List Bool) (room : Nat) : Nat → List Nat → List Nat
  | 0, ws => ws
  | rounds + 1, ws =>
    if sumOf ws ≤ room then ws
    else collapsed wraps room rounds (leveled wraps (sumOf ws - room) ws)

/-- The widths of the columns on a page. When leveling is not enough, all of them give way. -/
def widths (g : Grid) (page : Page) : List Nat :=
  let room := page.width - (g.columns.length + 1)
  let wanted := g.wantedWidths room
  let ws := collapsed (g.columns.map (·.wraps)) room (sumOf wanted) wanted
  if sumOf ws ≤ room then ws else reduced (sumOf ws - room) ws ws

/-- The cells that columns of some widths take together with their frame. -/
def totalWidth (ws : List Nat) : Nat :=
  sumOf ws + ws.length + 1

/-! ## Lines -/

def placed (a : Alignment) (width : Nat) (line : List Char) : List Char :=
  match a with
  | .left => fitCells width (truncate .ellipsis width line)
  | .right =>
    let ink := truncate .ellipsis width (Text.stripRight line)
    List.replicate (width - textWidth ink) ' ' ++ ink

/-- The lines of a cell in a column of a width, unless the blanks on either side take all of it. -/
def cellLines (c : Column) (width : Nat) (cell : String) : List (List Char) :=
  if width ≤ 2 then []
  else
    let inner := width - 2
    let lines := if c.wraps then broken .ellipsis inner cell.toList else unbroken inner cell.toList
    lines.map fun l => ' ' :: (placed c.alignment inner l ++ [' '])

def framed (leftEdge divider rightEdge : Char) (parts : List (List Char)) : List Char :=
  leftEdge :: (List.intercalate [divider] parts ++ [rightEdge])

/-- A line of the frame. -/
def rule (leftEdge stroke divider rightEdge : Char) (ws : List Nat) : List Char :=
  framed leftEdge divider rightEdge (ws.map fun w => List.replicate w stroke)

/-- The lines of a row. Blank lines fill it up, in a header above the text and else below it. -/
def rowLines (edge : Char) (isHeader : Bool) (columns : List Column) (ws : List Nat)
    (cells : List String) : List (List Char) :=
  let blocks := (columns.zip (ws.zip cells)).map fun (c, w, cell) => (w, cellLines c w cell)
  let height := (blocks.map (·.2.length)).foldl max 1
  let filled := blocks.map fun (w, lines) =>
    let missing := List.replicate (height - lines.length) (List.replicate w ' ')
    if isHeader then missing ++ lines else lines ++ missing
  (List.range height).map fun i => framed edge edge edge (filled.map fun b => (b[i]?).getD [])

/-- The lines of a title in the middle of a width; of an odd remainder the larger part is on the
right. -/
def titleLines (width : Nat) (title : String) : List (List Char) :=
  (broken .fold width title.toList).map fun line =>
    let ink := truncate .fold width (Text.stripRight line)
    let room := width - textWidth ink
    List.replicate (room / 2) ' ' ++ ink ++ List.replicate (room - room / 2) ' '

/-- All lines of a grid, cut where they stand out of the page. -/
def lines (g : Grid) (page : Page) : List (List Char) :=
  let ws := g.widths page
  let all := (g.title.map (titleLines (totalWidth ws))).getD []
    ++ [rule '┏' '━' '┳' '┓' ws]
    ++ rowLines '┃' true g.columns ws (g.columns.map (·.header))
    ++ [rule '┡' '━' '╇' '┩' ws]
    ++ g.rows.flatMap (rowLines '│' false g.columns ws)
    ++ [rule '└' '─' '┴' '┘' ws]
  all.map (truncate .fold page.width)

end Grid

end QueryLint.Console
