import Pinpoint.Console.Wrap

/-!
# Tables

A table is drawn with a heavy head and a light body. Every column is as wide as its widest cell,
and a title stands centred above. A cell of several lines makes its row as high.
-/

namespace Pinpoint.Console

/-- A table of plain texts. -/
structure Table where
  title : Text
  header : List Text
  rows : List (List Text)

namespace Table

/-- A character that ends a line when a text is measured. -/
def isLineEnd (c : Char) : Bool :=
  [0x0A, 0x0B, 0x0C, 0x0D, 0x1C, 0x1D, 0x1E, 0x85, 0x2028, 0x2029].contains c.toNat

/-- The cells of the widest line of a text. -/
def measure (t : Text) : Nat :=
  ((Text.cut '\n' (t.map fun c => if isLineEnd c then '\n' else c)).map Text.cells).foldl max 0

/-- The widths of the columns, without the blank on either side. -/
def widths (t : Table) : List Nat :=
  t.rows.foldl (fun ws row => List.zipWith max ws (row.map measure)) (t.header.map measure)

/-- The width of a table with columns of some widths: strokes, and a blank on either side of what a
column holds. -/
def fullWidth (ws : List Nat) : Nat := ws.foldl (fun n w => n + w + 3) 1

/-- The widths of the columns of a table that has to fit into `width`: the widest one gives way. -/
def fit (width : Nat) (ws : List Nat) : List Nat :=
  let widest := ws.foldl max 0
  ws.map fun w => if w = widest then w - (fullWidth ws - width) else w

/-- The lines of a cell, each as wide as its column. A joiner at the end of a line merges the first
blank after it, which is why a line may take filling up twice. -/
def cellLines (width : Nat) (t : Text) : List Text :=
  (breakLines width false t).map fun line => fitLeft width (fitLeft width (shorten width line))

/-- The strokes of one line of a table: at its left end, within a column, between columns, and at
its right end. -/
structure Strokes where
  left : Char
  within : Char
  between : Char
  right : Char

/-- The line above the header. -/
def topStrokes : Strokes := ⟨'┏', '━', '┳', '┓'⟩

/-- The lines of the header. -/
def headStrokes : Strokes := ⟨'┃', ' ', '┃', '┃'⟩

/-- The line below the header. -/
def ruleStrokes : Strokes := ⟨'┡', '━', '╇', '┩'⟩

/-- The lines of the body. -/
def bodyStrokes : Strokes := ⟨'│', ' ', '│', '│'⟩

/-- The line below the body. -/
def bottomStrokes : Strokes := ⟨'└', '─', '┴', '┘'⟩

/-- Draws one line through pieces that are as wide as their columns. -/
def drawLine (s : Strokes) (pieces : List Text) : Text :=
  s.left :: (Text.join [s.between] (pieces.map fun p => s.within :: (p ++ [s.within])) ++ [s.right])

/-- Draws a line of strokes alone. -/
def drawRule (s : Strokes) (ws : List Nat) : Text := drawLine s (ws.map (List.replicate · s.within))

/-- Draws the lines of a row. -/
def drawRow (s : Strokes) (ws : List Nat) (row : List Text) : List Text :=
  let columns := List.zipWith cellLines ws row
  let height := (columns.map List.length).foldl max 0
  (List.range height).map fun i =>
    drawLine s (List.zipWith (fun w lines => lines.getD i (List.replicate w ' ')) ws columns)

/-- The lines of a table in a width. -/
def lines (width : Nat) (t : Table) : List Text :=
  let ws := fit width t.widths
  let total := fullWidth ws
  (wrap total t.title).map (fitCenter total) ++ [drawRule topStrokes ws] ++
    drawRow headStrokes ws t.header ++ [drawRule ruleStrokes ws] ++
    t.rows.flatMap (drawRow bodyStrokes ws) ++ [drawRule bottomStrokes ws]

end Table

end Pinpoint.Console
