import SlotGrid.Proofs.Numbering
import SlotGrid.Proofs.UniqueReading

/-!
# The markup text of a grid

The markup of a grid is made of three things: how many cells each row has, what rows
and cells look like, and whether cells have a placeholder. The tokens of a row are
not among them; they go to the style sheet. So two specifications whose rows have the
same lengths have the same markup text. There is no other way to get the same text:
the containers are a tree in normal form, whatever the styles are, so that the text
tells the tree, and the tree tells what it was made of. A style can be told only from
what it is a style of, so that of the cells is lost where there is no cell.

## Main results

* `allNormal_layOut` — the row containers of a grid are in normal form.
* `containersFrom_eq_iff` — when grids have the same row containers.
* `html_compile_eq_iff` — when grids have the same markup text.
-/

namespace SlotGrid

open Markup

/-! ## Row containers in normal form -/

namespace Markup

/-- Elements side by side are in normal form when each of them is. -/
theorem allNormal_of_forall {nodes : List Node}
    (h : ∀ node ∈ nodes, node.Normal ∧ node.tag? ≠ none) : AllNormal nodes := by
  induction nodes with
  | nil => trivial
  | cons node rest ih =>
      obtain ⟨⟨hNode, hElement⟩, hRest⟩ := List.forall_mem_cons.mp h
      exact ⟨hNode, fun hText => absurd hText hElement, ih hRest⟩

/-- An element that is neither void nor raw is in normal form when its names are plain
and its children are in normal form. -/
theorem normal_element (tag : String) {attributes : Attributes} {children : List Node}
    (hTag : IsPlainName tag) (hRaw : rawTextTags.contains tag = false)
    (hVoid : isVoid tag = false) (hNames : ∀ name ∈ attributes.names, IsPlainName name)
    (hChildren : AllNormal children) : (Node.element tag attributes children).Normal := by
  refine ⟨hTag, ?_, hRaw, ?_, hChildren⟩
  · intro entry hEntry
    exact hNames entry.1 (List.mem_map_of_mem hEntry)
  · intro hSame
    rw [hVoid] at hSame
    cases hSame

/-- An element tells the value that one of its attributes was given last. -/
theorem element_set_eq_iff (tag : String) (attributes : Attributes) (name value other : String)
    (children others : List Node) :
    Node.element tag (attributes.set name value) children =
        .element tag (attributes.set name other) others ↔
      value = other ∧ children = others := by
  constructor
  · intro h
    obtain ⟨-, hAttributes, hChildren⟩ := Node.element.inj h
    have hValue := congrArg (Attributes.get? · name) hAttributes
    simp only [Attributes.get?_set, if_true] at hValue
    exact ⟨Option.some.inj hValue, hChildren⟩
  · rintro ⟨rfl, rfl⟩
    rfl

end Markup

namespace Layout

theorem normal_placeholder (id : Nat) : (placeholder id).Normal := by
  obtain ⟨note, hNote, hNode⟩ : ∃ note : String, note ≠ "" ∧ placeholder id =
      .element "i" .empty [.text "replace me with: ", .element "br" .empty [],
        .element "code" .empty [.text note]] := ⟨_, by simp, rfl⟩
  have hHint : "replace me with: " ≠ "" := by decide
  have hBreak : (Node.element "br" .empty []).Normal :=
    ⟨by decide, nofun, by decide, fun _ => rfl, trivial⟩
  have hCode : (Node.element "code" .empty [.text note]).Normal :=
    normal_element "code" (by decide) (by decide) (by decide) Attributes.forall_names_empty
      ⟨hNote, fun _ => nofun, trivial⟩
  have hApart : (Node.text "replace me with: ").ApartFrom
      [.element "br" .empty [], .element "code" .empty [.text note]] := by
    simp [Node.ApartFrom, Node.tag?]
  rw [hNode]
  exact normal_element "i" (by decide) (by decide) (by decide) Attributes.forall_names_empty
    ⟨hHint, hApart, hBreak, nofun, hCode, nofun, trivial⟩

theorem normal_slot (style : CellStyle) (id : Nat) : (slot style id).Normal := by
  refine normal_element "slot" (by decide) (by decide) (by decide)
    (Attributes.forall_names_set _ Attributes.forall_names_empty (by decide)) ?_
  show AllNormal (slotElement style id).children
  rw [children_slotElement]
  cases style.bare with
  | true => trivial
  | false => exact ⟨normal_placeholder id, nofun, trivial⟩

theorem normal_cell (style : CellStyle) (id : Nat) : (cell style id).Normal :=
  normal_element "div" (by decide) (by decide) (by decide)
    (Attributes.forall_names_set _ Attributes.forall_names_empty (by decide))
    ⟨normal_slot style id, nofun, trivial⟩

theorem normal_rowContainer (style : CellStyle) (index : Nat) {cells : List Node}
    (h : AllNormal cells) : (rowContainer style index cells).Normal :=
  normal_element "div" (by decide) (by decide) (by decide)
    (Attributes.forall_names_set _
      (Attributes.forall_names_set _ Attributes.forall_names_empty (by decide)) (by decide)) h

/-- The row containers of a grid are in normal form, whatever its styles look like. -/
theorem allNormal_layOut (style : CellStyle) (specification : Specification) :
    AllNormal (layOut style specification).rows := by
  apply allNormal_of_forall
  intro container hContainer
  rw [layOut, rows_layOutFrom, containersFrom, List.mem_mapIdx] at hContainer
  obtain ⟨index, hIndex, rfl⟩ := hContainer
  refine ⟨normal_rowContainer style _ (allNormal_of_forall ?_), Option.some_ne_none _⟩
  intro node hNode
  obtain ⟨column, -, rfl⟩ := List.mem_map.mp hNode
  exact ⟨normal_cell style _, Option.some_ne_none _⟩

/-! ## What row containers are made of -/

theorem rowContainer_eq_iff (style other : CellStyle) (index : Nat) (cells others : List Node) :
    rowContainer style index cells = rowContainer other index others ↔
      style.row = other.row ∧ cells = others :=
  element_set_eq_iff "div" _ "style" style.row other.row cells others

theorem slot_eq_iff (style other : CellStyle) (id : Nat) :
    slot style id = slot other id ↔ style.bare = other.bare := by
  constructor
  · intro h
    have hInner : (slotElement style id).children = (slotElement other id).children :=
      congrArg Node.children h
    rw [children_slotElement, children_slotElement] at hInner
    cases hBare : style.bare with
    | true =>
        cases hOther : other.bare with
        | true => rfl
        | false => simp [hBare, hOther] at hInner
    | false =>
        cases hOther : other.bare with
        | true => simp [hBare, hOther] at hInner
        | false => rfl
  · intro h
    rw [slot, slot, h]

theorem cell_eq_iff (style other : CellStyle) (id : Nat) :
    cell style id = cell other id ↔ style.cell = other.cell ∧ style.bare = other.bare := by
  have hCell := element_set_eq_iff "div" .empty "style" style.cell other.cell [slot style id]
    [slot other id]
  rw [List.cons.injEq, slot_eq_iff, and_iff_left rfl] at hCell
  exact hCell

/-- Consecutive cells tell how many there are and, if there is one, what it looks
like. -/
theorem map_cell_eq_iff (style other : CellStyle) (first count total : Nat) :
    (List.range' first count).map (cell style) = (List.range' first total).map (cell other) ↔
      count = total ∧ (count ≠ 0 → style.cell = other.cell ∧ style.bare = other.bare) := by
  constructor
  · intro h
    obtain rfl : count = total := by simpa using congrArg List.length h
    refine ⟨rfl, ?_⟩
    intro hSome
    obtain ⟨more, rfl⟩ := Nat.exists_eq_succ_of_ne_zero hSome
    rw [List.range'_succ, List.map_cons, List.map_cons] at h
    exact (cell_eq_iff style other first).mp (List.cons.inj h).1
  · rintro ⟨rfl, hSame⟩
    apply List.map_congr_left
    intro id hId
    have hSome : count ≠ 0 := by
      rintro rfl
      simp at hId
    exact (cell_eq_iff style other id).mpr (hSame hSome)

/-- The row containers of a grid tell the lengths of the rows, and of the styles as
much as there is something to be seen of. -/
theorem containersFrom_eq_iff (style other : CellStyle) (index first : Nat)
    (rows others : List Row) :
    containersFrom style (cell style) index first rows =
        containersFrom other (cell other) index first others ↔
      rows.map Row.length = others.map Row.length ∧
        (rows ≠ [] → style.row = other.row) ∧
        (cellsIn rows ≠ 0 → style.cell = other.cell ∧ style.bare = other.bare) := by
  induction rows generalizing index first others with
  | nil =>
      cases others with
      | nil => simp [containersFrom]
      | cons next more => simp [containersFrom]
  | cons row rest ih =>
      cases others with
      | nil => simp [containersFrom]
      | cons next more =>
          rw [containersFrom_cons, containersFrom_cons, List.cons.injEq, rowContainer_eq_iff,
            map_cell_eq_iff]
          constructor
          · rintro ⟨⟨hRow, hLength, hCell⟩, hRest⟩
            rw [← hLength, ih] at hRest
            obtain ⟨hLengths, -, hCells⟩ := hRest
            refine ⟨?_, fun _ => hRow, ?_⟩
            · rw [List.map_cons, List.map_cons, hLength, hLengths]
            · -- the cell is in this row or in one below
              intro hSome
              by_cases hHere : row.length = 0
              · exact hCells (by rwa [cellsIn_cons, hHere, Nat.zero_add] at hSome)
              · exact hCell hHere
          · rintro ⟨hLengths, hRow, hCells⟩
            rw [List.map_cons, List.map_cons, List.cons.injEq] at hLengths
            obtain ⟨hLength, hLengths⟩ := hLengths
            have hHere : row.length ≠ 0 → style.cell = other.cell ∧ style.bare = other.bare := by
              intro hSome
              exact hCells (by rw [cellsIn_cons]; omega)
            have hBelow : cellsIn rest ≠ 0 → style.cell = other.cell ∧ style.bare = other.bare := by
              intro hSome
              exact hCells (by rw [cellsIn_cons]; omega)
            refine ⟨⟨hRow (List.cons_ne_nil _ _), hLength, hHere⟩, ?_⟩
            rw [← hLength, ih]
            exact ⟨hLengths, fun _ => hRow (List.cons_ne_nil _ _), hBelow⟩

/-! ## The markup text -/

/-- Two grids have the same markup text exactly if their rows have the same lengths and
they look the same as far as there is something to be seen: rows look the same if there
is a row, and cells if there is a cell. Of a token nothing is seen. -/
theorem html_compile_eq_iff (style otherStyle : CellStyle) (source other : String) :
    html (compile style source).rows = html (compile otherStyle other).rows ↔
      (Specification.parse source).rows.map Row.length =
          (Specification.parse other).rows.map Row.length ∧
        ((Specification.parse source).rows ≠ [] → style.row = otherStyle.row) ∧
        ((Specification.parse source).cellCount ≠ 0 →
          style.cell = otherStyle.cell ∧ style.bare = otherStyle.bare) := by
  have hTree (look : CellStyle) (text : String) : (compile look text).rows =
      containersFrom look (cell look) 0 1 (Specification.parse text).rows :=
    rows_layOutFrom look 0 1 _
  rw [Specification.cellCount, ← containersFrom_eq_iff style otherStyle 0 1, ← hTree, ← hTree]
  constructor
  · exact html_injective (allNormal_layOut style _) (allNormal_layOut otherStyle _)
  · intro h
    rw [h]

end Layout

end SlotGrid
