import SlotGrid.Layout
import SlotGrid.Slotting

/-!
# Numbers of cells

A grid says three times where its cells are: the insertion points name a row and
a column, the row containers hold the slots, and the style sheet lays out the
tracks. All three are filled in one pass over the rows, which carries the index
of the next row and the number of the next cell. This module gives each of the
three a closed form, in which the number of a cell is a sum of row lengths, and
concludes that they agree.

## Main definitions

* `cellsBefore` — the cells in the rows above one row.
* `Specification.positions` — the row and the column of every cell, row by row.
* `elements`, `slotElements` — the elements of a tree, and the slots among them,
  in document order.
* `containersFrom` — row containers whose cells are a function of their number.
* `Grid.Agrees` — what it means that the parts of a grid agree.

## Main results

* `rows_layOutFrom`, `points_layOutFrom`, `slotElements_layOutFrom` — the closed
  forms.
* `slotNames_layOut` — the slots of a grid are named `1`, `2`, ..., in order.
* `layOut_agrees` — the parts of the grid of a specification agree.
-/

namespace SlotGrid

open Markup (Attributes Element Node)

/-! ## Places of cells -/

/-- The number of cells in the rows above the one with this index. -/
def cellsBefore (rows : List Row) (index : Nat) : Nat := cellsIn (rows.take index)

@[simp] theorem cellsBefore_zero (rows : List Row) : cellsBefore rows 0 = 0 := by
  simp [cellsBefore]

@[simp] theorem cellsBefore_cons_succ (row : Row) (rest : List Row) (index : Nat) :
    cellsBefore (row :: rest) (index + 1) = row.length + cellsBefore rest index := by
  simp [cellsBefore]

/-- The row and the column of every cell, row by row; the first row has this
index. -/
def positionsFrom (index : Nat) (rows : List Row) : List (Nat × Nat) :=
  (rows.mapIdx fun offset row =>
    (List.range row.length).map fun column => (index + offset, column)).flatten

theorem positionsFrom_cons (index : Nat) (row : Row) (rest : List Row) :
    positionsFrom index (row :: rest) =
      ((List.range row.length).map fun column => (index, column)) ++
        positionsFrom (index + 1) rest := by
  simp [positionsFrom, List.mapIdx_cons, Nat.add_assoc, Nat.add_comm 1]

/-- The row and the column of every cell of a specification, row by row. -/
def Specification.positions (specification : Specification) : List (Nat × Nat) :=
  positionsFrom 0 specification.rows

/-! ## Elements in document order -/

namespace Markup

mutual

/-- The elements of a node, itself first, in document order. -/
def Node.elements : Node → List Element
  | .text _ => []
  | .element tag attributes children => ⟨tag, attributes, children⟩ :: elements children

/-- The elements of a list of nodes, in document order. -/
def elements : List Node → List Element
  | [] => []
  | node :: rest => node.elements ++ elements rest

end

/-- The children of a node; a text has none. -/
def Node.children : Node → List Node
  | .text _ => []
  | .element _ _ children => children

end Markup

namespace Slotting

/-- The slot elements of a list of nodes, in document order. -/
def slotElements (nodes : List Node) : List Element :=
  (Markup.elements nodes).filter fun element => element.tag == "slot"

theorem slotElements_cons (node : Node) (rest : List Node) :
    slotElements (node :: rest) = slotElements [node] ++ slotElements rest := by
  simp [slotElements, Markup.elements]

/-- An element that is no slot has the slots that are in its children. -/
theorem slotElements_element {tag : String} (hTag : tag ≠ "slot") (attributes : Attributes)
    (children : List Node) :
    slotElements [.element tag attributes children] = slotElements children := by
  simp [slotElements, Markup.elements, Markup.Node.elements, hTag]

theorem slotElements_slot (attributes : Attributes) (children : List Node) :
    slotElements [.element "slot" attributes children] =
      ⟨"slot", attributes, children⟩ :: slotElements children := by
  simp [slotElements, Markup.elements, Markup.Node.elements]

/-- The slots of a list of nodes are those of the nodes, one after the other. -/
theorem slotElements_eq_flatMap (nodes : List Node) :
    slotElements nodes = nodes.flatMap fun node => slotElements [node] := by
  induction nodes with
  | nil => rfl
  | cons node rest ih => rw [slotElements_cons, List.flatMap_cons, ← ih]

mutual

private theorem nodeSlotNames_eq_map (node : Node) :
    nodeSlotNames node =
      (node.elements.filter fun element => element.tag == "slot").map
        fun element => slotNameOf element.attributes := by
  cases node with
  | text content => rfl
  | element tag attributes children =>
      have hInner := slotNames_eq_map children
      by_cases hTag : tag = "slot"
      · simpa [nodeSlotNames, Markup.Node.elements, hTag, slotElements] using hInner
      · simpa [nodeSlotNames, Markup.Node.elements, hTag, slotElements] using hInner

/-- The names of the slots are those of the slot elements. -/
theorem slotNames_eq_map (nodes : List Node) :
    slotNames nodes =
      (slotElements nodes).map fun element => slotNameOf element.attributes := by
  cases nodes with
  | nil => rfl
  | cons node rest =>
      rw [slotNames, nodeSlotNames_eq_map node, slotNames_eq_map rest]
      simp [slotElements, Markup.elements]

end

end Slotting

namespace Layout

open Slotting (SlotName slotElements slotNameOf slotNames)
open Style (Rule Stylesheet rowClass rowRule anyRowClass)

/-! ## Closed forms -/

/-- One row container for every row; the cell with number `id` is `shown id`.
The first row has this index and starts with cell number `first`. -/
def containersFrom (style : CellStyle) (shown : Nat → Node) (index first : Nat)
    (rows : List Row) : List Node :=
  rows.mapIdx fun offset row => rowContainer style (index + offset)
    ((List.range row.length).map fun column => shown (first + cellsBefore rows offset + column))

theorem containersFrom_cons (style : CellStyle) (shown : Nat → Node) (index first : Nat)
    (row : Row) (rest : List Row) :
    containersFrom style shown index first (row :: rest) =
      rowContainer style index ((List.range' first row.length).map shown) ::
        containersFrom style shown (index + 1) (first + row.length) rest := by
  simp [containersFrom, List.mapIdx_cons, List.range'_eq_map_range, Function.comp_def,
    Nat.add_assoc, Nat.add_comm 1]

theorem rows_layOutFrom (style : CellStyle) (index first : Nat) (rows : List Row) :
    (layOutFrom style index first rows).rows =
      containersFrom style (cell style) index first rows := by
  induction rows generalizing index first with
  | nil => rfl
  | cons row rest ih =>
      rw [layOutFrom, containersFrom_cons, ← ih, List.range'_eq_map_range, List.map_map]
      rfl

theorem rules_layOutFrom (style : CellStyle) (index first : Nat) (rows : List Row) :
    (layOutFrom style index first rows).stylesheet.rules =
      rows.mapIdx fun offset row => rowRule (index + offset) row.templateColumns := by
  induction rows generalizing index first with
  | nil => rfl
  | cons row rest ih =>
      rw [layOutFrom, Stylesheet.rules_append, ih]
      simp [layOutRow, List.mapIdx_cons, Nat.add_assoc, Nat.add_comm 1]

theorem points_layOutFrom (style : CellStyle) (index first : Nat) (rows : List Row) :
    (layOutFrom style index first rows).points =
      (rows.mapIdx fun offset row => (List.range row.length).map fun column =>
        ⟨first + cellsBefore rows offset + column, index + offset, column⟩).flatten := by
  induction rows generalizing index first with
  | nil => rfl
  | cons row rest ih =>
      rw [layOutFrom, ih]
      simp [layOutRow, List.mapIdx_cons, Nat.add_assoc, Nat.add_comm 1]

/-- The numbers of the insertion points go on from row to row without a gap. -/
theorem ids_layOutFrom (style : CellStyle) (index first : Nat) (rows : List Row) :
    (layOutFrom style index first rows).points.map InsertionPoint.id =
      List.range' first (cellsIn rows) := by
  induction rows generalizing index first with
  | nil => rfl
  | cons row rest ih =>
      have hHere : (layOutRow style index first row).points.map InsertionPoint.id =
          List.range' first row.length := by
        rw [List.range'_eq_map_range]
        simp [layOutRow]
      rw [layOutFrom, List.map_append, hHere, ih, cellsIn_cons,
        List.range'_append_1]

/-- The insertion points stand where the cells are, row by row. -/
theorem positions_layOutFrom (style : CellStyle) (index first : Nat) (rows : List Row) :
    ((layOutFrom style index first rows).points.map fun point => (point.row, point.column)) =
      positionsFrom index rows := by
  induction rows generalizing index first with
  | nil => rfl
  | cons row rest ih =>
      rw [layOutFrom, List.map_append, ih, positionsFrom_cons]
      simp [layOutRow]

/-! ## Slots -/

/-- The slot of an insertion point as an element. -/
def slotElement (style : CellStyle) (id : Nat) : Element :=
  ((Element.new "slot").setAttribute "name" (slotName id)).append
    (if style.bare then [] else [placeholder id])

theorem slot_eq_node (style : CellStyle) (id : Nat) : slot style id = (slotElement style id).node :=
  rfl

theorem attribute?_slotElement (style : CellStyle) (id : Nat) :
    (slotElement style id).attribute? "name" = some (slotName id) := by
  simp [slotElement, Element.append, Element.setAttribute, Element.attribute?,
    Attributes.get?_set]

theorem slotElements_placeholder (id : Nat) : slotElements [placeholder id] = [] := by
  simp [placeholder, slotElements, Markup.elements, Node.elements]

theorem children_slotElement (style : CellStyle) (id : Nat) :
    (slotElement style id).children = if style.bare then [] else [placeholder id] := by
  simp [slotElement, Element.append, Element.setAttribute, Element.new]

/-- What a slot shows of its own holds no slots. -/
theorem slotElements_fallback (style : CellStyle) (id : Nat) :
    slotElements (slotElement style id).children = [] := by
  rw [children_slotElement]
  cases style.bare with
  | true => rfl
  | false => exact slotElements_placeholder id

theorem slotElements_cell (style : CellStyle) (id : Nat) :
    slotElements [cell style id] = [slotElement style id] := by
  calc slotElements [cell style id]
      = slotElements [slot style id] :=
        Slotting.slotElements_element (show "div" ≠ "slot" by decide) _ _
    _ = slotElement style id :: slotElements (slotElement style id).children :=
        Slotting.slotElements_slot _ _
    _ = [slotElement style id] := by rw [slotElements_fallback]

theorem slotElements_rowContainer (style : CellStyle) (index : Nat) (cells : List Node) :
    slotElements [rowContainer style index cells] = slotElements cells :=
  Slotting.slotElements_element (show "div" ≠ "slot" by decide) _ _

/-- The slots of the row containers are those of the cells, in the order of
their numbers. -/
theorem slotElements_layOutFrom (style : CellStyle) (index first : Nat) (rows : List Row) :
    slotElements (layOutFrom style index first rows).rows =
      (List.range' first (cellsIn rows)).map (slotElement style) := by
  rw [rows_layOutFrom]
  induction rows generalizing index first with
  | nil => rfl
  | cons row rest ih =>
      have hCells : slotElements ((List.range' first row.length).map (cell style)) =
          (List.range' first row.length).map (slotElement style) := by
        rw [Slotting.slotElements_eq_flatMap, List.flatMap_map]
        simp only [slotElements_cell]
        exact List.map_eq_flatMap.symm
      rw [containersFrom_cons, Slotting.slotElements_cons, slotElements_rowContainer, hCells, ih,
        ← List.map_append, cellsIn_cons, List.range'_append_1]

theorem slotElements_rows_layOut (style : CellStyle) (specification : Specification) :
    slotElements (layOut style specification).rows =
      (List.range' 1 specification.cellCount).map (slotElement style) :=
  slotElements_layOutFrom style 0 1 specification.rows

theorem slotNames_layOut (style : CellStyle) (specification : Specification) :
    slotNames (layOut style specification).rows =
      (List.range' 1 specification.cellCount).map fun id => some (slotName id) := by
  rw [Slotting.slotNames_eq_map, slotElements_rows_layOut, List.map_map]
  refine List.map_congr_left ?_
  intro id _
  exact attribute?_slotElement style id

/-! ## Names of slots and classes of rows -/

/-- Different numbers have different slot names. -/
theorem slotName_injective {id other : Nat} (h : slotName id = slotName other) : id = other := by
  have hDigits : Nat.toDigits 10 id = Nat.toDigits 10 other := by
    simpa [slotName] using congrArg String.toList h
  calc id = Nat.ofDigitChars 10 (Nat.toDigits 10 id) 0 := by simp
    _ = Nat.ofDigitChars 10 (Nat.toDigits 10 other) 0 := by rw [hDigits]
    _ = other := by simp

private theorem isBlank_of_isDigit {c : Char} (h : c.isDigit = true) : Text.isBlank c = false := by
  have hRange : 48 ≤ c.toNat ∧ c.toNat ≤ 57 := by
    simpa [Char.isDigit, Char.le_def, UInt32.le_iff_toNat_le] using h
  simp [Text.isBlank, Text.blankRanges]
  omega

theorem isWord_rowClass (index : Nat) : Text.IsWord (rowClass index) := by
  refine ⟨by simp [rowClass], ?_⟩
  intro c hc
  rw [rowClass, String.toList_append, List.mem_append] at hc
  rcases hc with hc | hc
  · have hLetters : Text.IsWord "grid-" := by decide
    exact hLetters.2 c hc
  · have hDigit : c ∈ Nat.toDigits 10 (index + 1) := by simpa using hc
    exact isBlank_of_isDigit (Nat.isDigit_of_mem_toDigits (by decide) (by decide) hDigit)

/-- The container of a row as an element. -/
def rowElement (style : CellStyle) (index : Nat) (cells : List Node) : Element :=
  (((Element.new "div").setAttribute "class" (anyRowClass ++ " " ++ rowClass index)).setAttribute
    "style" style.row).append cells

theorem rowContainer_eq_node (style : CellStyle) (index : Nat) (cells : List Node) :
    rowContainer style index cells = (rowElement style index cells).node :=
  rfl

/-- A row container has the class of all rows and the class of its own row, and
no other. -/
theorem hasClass_rowElement (style : CellStyle) (index : Nat) (cells : List Node)
    (name : String) :
    (rowElement style index cells).hasClass name = true ↔
      name = anyRowClass ∨ name = rowClass index := by
  have hValue : (rowElement style index cells).attribute? "class" =
      some (anyRowClass ++ " " ++ rowClass index) := by
    simp [rowElement, Element.append, Element.setAttribute, Element.attribute?,
      Attributes.get?_set]
  have hJoined : anyRowClass ++ " " ++ rowClass index =
      " ".intercalate [anyRowClass, rowClass index] := by
    rw [String.intercalate_cons_cons, String.intercalate_singleton]
  have hWords : Text.words (anyRowClass ++ " " ++ rowClass index) =
      [anyRowClass, rowClass index] := by
    rw [hJoined]
    refine Text.words_intercalate _ ?_
    intro word hWord
    rcases List.mem_cons.mp hWord with rfl | hWord
    · decide
    · rw [List.mem_singleton.mp hWord]
      exact isWord_rowClass index
  simp [Element.hasClass, hValue, hWords]

/-! ## The parts agree -/

/-- The children of the cell in this place of row containers, if there is one. -/
def contentAt (containers : List Node) (row column : Nat) : Option (List Node) :=
  (containers[row]?.bind fun container => container.children[column]?).map Node.children

/-- Insertion points, row containers and rules of a grid agree with each other
and with a specification. -/
structure Grid.Agrees (style : CellStyle) (specification : Specification) (grid : Grid) :
    Prop where
  /-- There is one insertion point for every cell. -/
  length_points : grid.points.length = specification.cellCount
  /-- The insertion points go through the cells row by row and are numbered from
  one. -/
  point : ∀ k : Nat, grid.points[k]? =
    specification.positions[k]?.map fun place => ⟨k + 1, place.1, place.2⟩
  /-- The number of a cell counts the cells above its row and those to its left. -/
  id : ∀ point ∈ grid.points,
    point.id = cellsBefore specification.rows point.row + point.column + 1
  /-- There is one slot for every cell. -/
  length_slots : (slotElements grid.rows).length = specification.cellCount
  /-- The slot of an insertion point is the one of the same place in document
  order. It is named by its number, and it is all that its cell holds. -/
  slot : ∀ (k : Nat) (point : InsertionPoint), grid.points[k]? = some point →
    ∃ element : Element, (slotElements grid.rows)[k]? = some element ∧
      element.attribute? "name" = some (toString (k + 1)) ∧
      element.children = (if style.bare then [] else [placeholder (k + 1)]) ∧
      contentAt grid.rows point.row point.column = some [element.node]
  /-- There is one rule and one container for every row. -/
  length_rules : grid.stylesheet.length = specification.rows.length
  length_rows : grid.rows.length = specification.rows.length
  /-- The rule and the container of a row have the same class, and the rule has
  one track for every cell of the row. -/
  row : ∀ (index : Nat) (row : Row), specification.rows[index]? = some row →
    ∃ (rule : Rule) (container : Element),
      grid.stylesheet.rules[index]? = some rule ∧
      grid.rows[index]? = some container.node ∧
      rule.selector = "." ++ ("grid-" ++ toString (index + 1)) ∧
      container.hasClass ("grid-" ++ toString (index + 1)) = true ∧
      (rule.value? "grid-template-columns").map Text.words =
        some (row.cells.map fun width => width.raw ++ "%")

theorem ids_layOut (style : CellStyle) (specification : Specification) :
    (layOut style specification).points.map InsertionPoint.id =
      List.range' 1 specification.cellCount :=
  ids_layOutFrom style 0 1 specification.rows

theorem length_points_layOut (style : CellStyle) (specification : Specification) :
    (layOut style specification).points.length = specification.cellCount := by
  rw [← List.length_map InsertionPoint.id, ids_layOut, List.length_range']

theorem length_rows_layOut (style : CellStyle) (specification : Specification) :
    (layOut style specification).rows.length = specification.rows.length := by
  rw [layOut, rows_layOutFrom, containersFrom, List.length_mapIdx]

theorem mem_points_layOut {style : CellStyle} {specification : Specification}
    {point : InsertionPoint} (h : point ∈ (layOut style specification).points) :
    ∃ row : Row, specification.rows[point.row]? = some row ∧ point.column < row.length ∧
      point.id = cellsBefore specification.rows point.row + point.column + 1 := by
  rw [layOut, points_layOutFrom] at h
  obtain ⟨list, hList, hPoint⟩ := List.mem_flatten.mp h
  obtain ⟨index, hIndex, rfl⟩ := List.mem_mapIdx.mp hList
  obtain ⟨column, hColumn, rfl⟩ := List.mem_map.mp hPoint
  refine ⟨specification.rows[index], ?_, List.mem_range.mp hColumn, ?_⟩
  · simp
  · simp only [Nat.zero_add]
    omega

/-- The insertion point in one place of the list has that place as its number,
counted from one. -/
theorem id_of_getElem?_points {style : CellStyle} {specification : Specification} {k : Nat}
    {point : InsertionPoint} (h : (layOut style specification).points[k]? = some point) :
    k < specification.cellCount ∧ point.id = k + 1 := by
  have hBound : k < specification.cellCount := by
    rw [← length_points_layOut style specification]
    exact (List.getElem?_eq_some_iff.mp h).1
  have hId : ((layOut style specification).points.map InsertionPoint.id)[k]? =
      some (1 + k) := by
    rw [ids_layOut, List.getElem?_range' hBound, Nat.one_mul]
  rw [List.getElem?_map, h] at hId
  have hNumber : point.id = 1 + k := by simpa using hId
  exact ⟨hBound, by omega⟩

theorem getElem?_points_layOut (style : CellStyle) (specification : Specification) (k : Nat) :
    (layOut style specification).points[k]? =
      specification.positions[k]?.map fun place => ⟨k + 1, place.1, place.2⟩ := by
  rw [Specification.positions, ← positions_layOutFrom style 0 1, ← layOut, List.getElem?_map,
    Option.map_map]
  cases hPoint : (layOut style specification).points[k]? with
  | none => rfl
  | some point =>
      obtain ⟨-, hId⟩ := id_of_getElem?_points hPoint
      simp [← hId]

/-- Cells stand in their places whatever they show. -/
theorem contentAt_containersFrom (style : CellStyle) (shown : Nat → Node)
    {specification : Specification} {point : InsertionPoint}
    (h : point ∈ (layOut style specification).points) :
    contentAt (containersFrom style shown 0 1 specification.rows) point.row point.column =
      some (shown point.id).children := by
  obtain ⟨row, hRow, hColumn, hId⟩ := mem_points_layOut h
  have hContainer : (containersFrom style shown 0 1 specification.rows)[point.row]? =
      some (rowContainer style point.row ((List.range row.length).map fun column =>
        shown (1 + cellsBefore specification.rows point.row + column))) := by
    rw [containersFrom, List.getElem?_mapIdx, hRow]
    simp
  have hCell : 1 + cellsBefore specification.rows point.row + point.column = point.id := by
    omega
  rw [contentAt, hContainer]
  simp [rowContainer, Element.append, Element.setAttribute, Element.new, Element.node,
    Node.children, hColumn, hCell]

/-- The insertion points, the containers and the rules that one pass over the rows
makes agree with each other. -/
theorem layOut_agrees (style : CellStyle) (specification : Specification) :
    (layOut style specification).Agrees style specification := by
  refine
    { length_points := length_points_layOut style specification
      point := getElem?_points_layOut style specification
      id := ?_
      length_slots := ?_
      slot := ?_
      length_rules := ?_
      length_rows := ?_
      row := ?_ }
  · intro point hPoint
    obtain ⟨_, _, _, hId⟩ := mem_points_layOut hPoint
    exact hId
  · rw [slotElements_rows_layOut, List.length_map, List.length_range']
  · intro k point hPoint
    obtain ⟨hBound, hId⟩ := id_of_getElem?_points hPoint
    refine ⟨slotElement style (k + 1), ?_, attribute?_slotElement style (k + 1), ?_, ?_⟩
    · rw [slotElements_rows_layOut, List.getElem?_map, List.getElem?_range' hBound]
      simp [Nat.add_comm 1]
    · exact children_slotElement style (k + 1)
    · rw [layOut, rows_layOutFrom,
        contentAt_containersFrom style (cell style) (List.mem_of_getElem? hPoint), hId]
      rfl
  · rw [Stylesheet.length, layOut, rules_layOutFrom, List.length_mapIdx]
  · rw [layOut, rows_layOutFrom, containersFrom, List.length_mapIdx]
  · intro index row hRow
    refine ⟨rowRule index row.templateColumns, rowElement style index
      ((List.range row.length).map fun column =>
        cell style (1 + cellsBefore specification.rows index + column)), ?_, ?_, rfl, ?_, ?_⟩
    · rw [layOut, rules_layOutFrom, List.getElem?_mapIdx, hRow]
      simp
    · rw [layOut, rows_layOutFrom, containersFrom, List.getElem?_mapIdx, hRow]
      simp [rowContainer_eq_node]
    · exact (hasClass_rowElement style index _ _).mpr (Or.inr rfl)
    · have hValue : (rowRule index row.templateColumns).value? "grid-template-columns" =
          some row.templateColumns := by
        simp [rowRule, Rule.value?]
      rw [hValue, Option.map_some, Row.words_templateColumns]
      rfl

end Layout

end SlotGrid
