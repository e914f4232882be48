import SlotGrid.Markup.Node
import SlotGrid.Specification
import SlotGrid.Style.GridRules

/-!
# Laying out a grid

A specification is laid out as one rule of a style sheet and one row container
for every row. A container holds a cell for every track, and a cell holds an
insertion point: a `slot` element named by a number. Numbers start at one and
go on from row to row, so that a page can place content by number alone. An
insertion point that is not filled shows a placeholder that says how to fill
it.

## Main definitions

* `InsertionPoint` — a numbered cell with its row and column.
* `CellStyle` — what all cells and rows of a grid look like.
* `placeholder`, `cell`, `rowContainer`.
* `Grid` — rules, containers and insertion points of a grid.
* `layOutFrom` — the grid of rows, given the index of the first row and the
  number of the first cell; `layOut` and `compile` start at the beginning.
-/

namespace SlotGrid.Layout

open Markup (Element Node)
open Style (Stylesheet rowClass rowRule anyRowClass)

/-- A cell that content can be placed into. Numbers start at one, rows and
columns at zero. -/
structure InsertionPoint where
  id : Nat
  row : Nat
  column : Nat
  deriving DecidableEq, Repr

/-- The name of the slot of an insertion point. -/
def slotName (id : Nat) : String := toString id

/-- What the cells and rows of a grid look like. -/
structure CellStyle where
  cell : String
  row : String
  /-- Whether insertion points that are not filled stay empty. -/
  bare : Bool
  deriving DecidableEq, Repr

/-- The note in an insertion point that is not filled. -/
def placeholder (id : Nat) : Node :=
  .element "i" .empty
    [.text "replace me with: ",
     .element "br" .empty [],
     .element "code" .empty
       [.text ("<div slot=" ++ toString id ++ ">your content</div>")]]

/-- The insertion point with this number. -/
def slot (style : CellStyle) (id : Nat) : Node :=
  (((Element.new "slot").setAttribute "name" (slotName id)).append
    (if style.bare then [] else [placeholder id])).node

/-- The cell around an insertion point. -/
def cell (style : CellStyle) (id : Nat) : Node :=
  (((Element.new "div").setAttribute "style" style.cell).append [slot style id]).node

/-- The container of the row with this index. -/
def rowContainer (style : CellStyle) (index : Nat) (cells : List Node) : Node :=
  ((((Element.new "div").setAttribute "class" (anyRowClass ++ " " ++ rowClass index)).setAttribute
    "style" style.row).append cells).node

/-- What a specification is laid out as. -/
structure Grid where
  /-- One rule for every row. -/
  stylesheet : Stylesheet
  /-- One container for every row. -/
  rows : List Node
  /-- Every cell, row by row. -/
  points : List InsertionPoint
  deriving Repr

namespace Grid

/-- The grid without rows. -/
def empty : Grid := ⟨.empty, [], []⟩

/-- Whether there is nothing to show. -/
def isEmpty (grid : Grid) : Bool := grid.rows.isEmpty

end Grid

/-- The grid of one row: `first` is the number of its first cell. -/
def layOutRow (style : CellStyle) (index first : Nat) (row : Row) : Grid where
  stylesheet := ⟨[rowRule index row.templateColumns]⟩
  rows := [rowContainer style index
    ((List.range row.length).map fun column => cell style (first + column))]
  points := (List.range row.length).map fun column => ⟨first + column, index, column⟩

/-- The grid of rows of which the first has this index and starts with cell
number `first`. -/
def layOutFrom (style : CellStyle) (index first : Nat) : List Row → Grid
  | [] => .empty
  | row :: rest =>
    let here := layOutRow style index first row
    let below := layOutFrom style (index + 1) (first + row.length) rest
    ⟨here.stylesheet ++ below.stylesheet, here.rows ++ below.rows, here.points ++ below.points⟩

/-- The grid of a specification. -/
def layOut (style : CellStyle) (specification : Specification) : Grid :=
  layOutFrom style 0 1 specification.rows

/-- The grid of the specification that a text describes. -/
def compile (style : CellStyle) (source : String) : Grid :=
  layOut style (Specification.parse source)

end SlotGrid.Layout
