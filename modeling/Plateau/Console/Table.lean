import Plateau.Console.Markup
import Plateau.Console.Screen
import Plateau.Number.Binary64

namespace Plateau.Console

open Text (cells)

structure Column where
  title : String
  style : Style := .plain
  justify : Justify := .left

structure Table where
  columns : List Column
  rows : List (List String)
  ruled : Bool := false

namespace Table

structure Rule where
  left : Char
  fill : Char
  divider : Char
  right : Char

def topRule : Rule := ⟨'┏', '━', '┳', '┓'⟩

def headRule : Rule := ⟨'┡', '━', '╇', '┩'⟩

def rowRule : Rule := ⟨'├', '─', '┼', '┤'⟩

def bottomRule : Rule := ⟨'└', '─', '┴', '┘'⟩

def headBar : Char := '┃'

def bodyBar : Char := '│'

def Rule.line (r : Rule) (widths : List Nat) : Line :=
  let parts := widths.map fun w => List.replicate w r.fill
  [⟨.plain, r.left :: [r.divider].intercalate parts ++ [r.right]⟩]

structure Padding where
  before : Nat
  after : Nat
  deriving DecidableEq, Repr

def padding (columns index : Nat) : Padding :=
  ⟨if index == 0 then 0 else 1, if index + 1 == columns then 0 else 1⟩

def Padding.total (p : Padding) : Nat := p.before + p.after

/-- The characters besides the line feed that end a line when a cell is measured. -/
def endsLine (c : Char) : Bool :=
  let n := c.toNat
  (10 ≤ n && n ≤ 13) || (28 ≤ n && n ≤ 30) || n == 0x85 || n == 0x2028 || n == 0x2029

def textWidth (s : List Char) : Nat :=
  ((Text.pieces endsLine s).map cells).foldl max 0

/-- The width that a cell asks for, up to `limit`. -/
def cellWidth (limit : Nat) (p : Padding) (t : Styled) : Nat :=
  if limit < p.total + 1 then limit
  else min limit (min limit (textWidth t.chars) + p.total)

def columnWidth (limit : Nat) (p : Padding) (column : List Styled) : Nat :=
  if limit < 1 then 0
  else min limit ((column.map (cellWidth limit p)).foldl max 0)

/-- The nearest whole number to a quotient; a half goes to the even neighbour. -/
def roundDiv (num den : Nat) : Nat :=
  Quotient.round ⟨num, den⟩

def sumOf (ns : List Nat) : Nat :=
  ns.foldl (· + ·) 0

/-- Takes `total` away from the values in proportion to their ratios, from none more than its
limit. -/
def reduce (total : Nat) (ratioSum : Nat) : List (Nat × Nat × Nat) → List Nat
  | [] => []
  | (ratio, limit, value) :: rest =>
    if ratio != 0 && limit != 0 && ratioSum != 0 then
      let share := min limit (roundDiv (ratio * total) ratioSum)
      (value - share) :: reduce (total - share) (ratioSum - ratio) rest
    else value :: reduce total ratioSum rest

def ratioReduce (total : Nat) (entries : List (Nat × Nat × Nat)) : List Nat :=
  reduce total (sumOf ((entries.filter fun e => e.2.1 != 0).map (·.1))) entries

/-- Narrows the widest columns to the next width until all fit; `rounds` bounds the steps. -/
def collapse (rounds : Nat) (limit : Nat) (widths : List Nat) : List Nat :=
  match rounds with
  | 0 => widths
  | rounds + 1 =>
    if sumOf widths ≤ limit then widths
    else
      let excess := sumOf widths - limit
      let widest := widths.foldl max 0
      let second := (widths.filter (· != widest)).foldl max 0
      let difference := widest - second
      if difference == 0 then widths
      else
        collapse rounds limit (ratioReduce excess
          (widths.map fun w => (if w == widest then 1 else 0, min excess difference, w)))

def fitWidths (limit : Nat) (columns : List (Padding × List Styled)) : List Nat :=
  let natural := columns.map fun (p, column) => max 1 (columnWidth limit p column)
  if sumOf natural ≤ limit then natural
  else
    let narrowed := collapse (sumOf natural + 1) limit natural
    let narrowed :=
      if sumOf narrowed ≤ limit then narrowed
      else ratioReduce (sumOf narrowed - limit) (narrowed.map fun w => (1, w, w))
    (narrowed.zip columns).map fun (w, p, column) => columnWidth w p column

def cellTexts (width : Nat) (p : Padding) (justify : Justify) (t : Styled) : List Styled :=
  if width < p.total + 1 then [] else t.wrap justify .ellipsis (width - p.total)

def cellLines (width : Nat) (p : Padding) (justify : Justify) (style : Style) (t : Styled) :
    List Line :=
  (cellTexts width p justify t).map fun line =>
    Line.blank style p.before ++ line.toLine.onto style ++ Line.blank style p.after

def fillCell (atTop : Bool) (height width : Nat) (style : Style) (lines : List Line) :
    List Line :=
  let blanks := List.replicate (height - lines.length) (Line.blank style width)
  if atTop then blanks ++ lines else lines ++ blanks

def rowLines (bar : Char) (height : Nat) (cells : List (List Line)) : List Line :=
  (List.range height).map fun n =>
    let parts := cells.map fun lines => (lines[n]?).getD []
    [⟨.plain, [bar]⟩] ++ [⟨.plain, [bar]⟩].intercalate parts ++ [⟨.plain, [bar]⟩]

/-- A cell in its column: the column's width, padding and justification, and a styled text. -/
structure Cell where
  width : Nat
  padding : Padding
  justify : Justify
  style : Style
  text : Styled

def rowFault? (cells : List Cell) : Option Color.Fault :=
  cells.findSome? fun c => Styled.fault? (cellTexts c.width c.padding c.justify c.text)

/-- The lines of a row.  If none of its cells has a line, a blank one without style takes their
place. -/
def renderRow (head : Bool) (cells : List Cell) : List Line :=
  let blocks := cells.map fun c => cellLines c.width c.padding c.justify c.style c.text
  let height := (blocks.map List.length).foldl max 0
  let filled := (cells.zip blocks).map fun (c, block) =>
    if height == 0 then [Line.blank .plain c.width] else fillCell head height c.width c.style block
  rowLines (if head then headBar else bodyBar) (max 1 height) filled

def renderBody (ruled : Bool) (rule : Line) : List (List Cell) → List Line
  | [] => []
  | [row] => renderRow false row
  | row :: rest =>
    renderRow false row ++ (if ruled then [rule] else []) ++ renderBody ruled rule rest

def layout (device : Device) (width : Nat) (t : Table) : Except MarkupError (List Line) := do
  let count := t.columns.length
  let titles := t.columns.map fun c => Styled.ofString .plain c.title
  let paddings := (List.range count).map (padding count)
  let limit := width - (count + 1)
  let rows ← readColumns device limit t paddings
  let columns := (List.range count).map fun i =>
    ((paddings[i]?).getD ⟨0, 0⟩, (titles :: rows).map fun row => (row[i]?).getD {})
  let widths := fitWidths limit columns
  let row (style : Column → Style) (texts : List Styled) : List Cell :=
    ((t.columns.zip texts).zip (widths.zip paddings)).map fun ((c, text), w, p) =>
      ⟨w, p, c.justify, style c, text⟩
  let body := rows.map (row (·.style))
  match body.findSome? rowFault? with
  | some fault => throw (.color fault)
  | none =>
    return [topRule.line widths] ++ renderRow true (row (fun _ => .bold) titles) ++
      [headRule.line widths] ++ renderBody t.ruled (rowRule.line widths) body ++
      [bottomRule.line widths]
where
  /-- Reads the markup of a table column by column, so that the first fault is the leftmost one.  A
  column that cannot have room for text is not read. -/
  readColumns (device : Device) (limit : Nat) (t : Table) (paddings : List Padding) :
      Except MarkupError (List (List Styled)) := do
    let columns ← paddings.zipIdx.mapM fun (p, i) =>
      t.rows.mapM fun row =>
        if limit < p.total + 1 then pure {} else Styled.ofMarkup device ((row[i]?).getD "").toList
    return (List.range t.rows.length).map fun r =>
      columns.map fun column => (column[r]?).getD {}

end Table

/-- A table on the console, or the first fault in its markup. -/
def Screen.printTable (s : Screen) (t : Table) : Except MarkupError (List Char) :=
  if s.width < 1 then .ok []
  else return s.write (← t.layout s.device s.width.toNat)

end Plateau.Console
