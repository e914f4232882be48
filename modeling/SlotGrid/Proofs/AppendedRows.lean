import SlotGrid.Proofs.Numbering
import SlotGrid.Proofs.Segments

/-!
# Rows that are appended

Rows can be put below the rows of a grid without changing what is there. What they
add is the grid that they make on their own, with other numbers in it: the indices
of its rows count on from the rows above, and so do the numbers of its cells. That
is shown of the finished grids, in which a number is part of a text: of a class, a
selector, the name of a slot or a placeholder. Two texts that describe rows can be
joined by a semicolon in the same way, unless one of them reads differently when it
stands alone.

## Main definitions

* `Text.addToNumber` — a text with something added to the number in it.
* `Text.DigitFree` — texts that stay as they are.
* `Offset`, `Node.renumber`, `Grid.renumber` — the same with other indices and numbers.
* `Grid.append` — the rows of one grid below those of another.

## Main results

* `layOutFrom_append` — rows are laid out one after the other.
* `renumber_layOutFrom` — other numbers are those of another start.
* `Specification.rows_parse_append` — joined texts describe the rows of both.
* `compile_append` — appended rows are added with other numbers.
-/

namespace SlotGrid

/-! ## Numbers in texts -/

namespace Text

/-- Adds to the first number in a text. A text without a number stays as it is. -/
def addToNumber (count : Nat) (text : String) : String :=
  let before := text.toList.takeWhile fun c => !c.isDigit
  let behind := text.toList.dropWhile fun c => !c.isDigit
  let digits := behind.takeWhile Char.isDigit
  if digits.isEmpty then text
  else
    String.ofList (before ++ Nat.toDigits 10 (Nat.ofDigitChars 10 digits 0 + count) ++
      behind.dropWhile Char.isDigit)

/-- Whether no character of a text is a digit. -/
def DigitFree (text : String) : Prop := (text.toList.all fun c => !c.isDigit) = true

instance (text : String) : Decidable (DigitFree text) := inferInstanceAs (Decidable (_ = true))

theorem DigitFree.append {text other : String} (h : DigitFree text) (hOther : DigitFree other) :
    DigitFree (text ++ other) := by
  rw [DigitFree, String.toList_append, List.all_append, Bool.and_eq_true]
  exact ⟨h, hOther⟩

theorem addToNumber_of_digitFree {text : String} (h : DigitFree text) (count : Nat) :
    addToNumber count text = text := by
  have hBehind : (text.toList.dropWhile fun c => !c.isDigit) = [] :=
    List.dropWhile_eq_nil_iff.mpr (List.all_eq_true.mp h)
  unfold addToNumber
  rw [hBehind]
  rfl

theorem addToNumber_between {before behind : String} (hBefore : DigitFree before)
    (hBehind : StopsAt Char.isDigit behind.toList) (count number : Nat) :
    addToNumber count (before ++ toString number ++ behind) =
      before ++ toString (number + count) ++ behind := by
  have hChars (n : Nat) : (before ++ toString n ++ behind).toList =
      before.toList ++ (Nat.toDigits 10 n ++ behind.toList) := by simp
  have hDigits : ∀ c ∈ Nat.toDigits 10 number, c.isDigit = true := fun _ hc =>
    Nat.isDigit_of_mem_toDigits (by decide) (by decide) hc
  have hFree : ∀ c ∈ before.toList, (!c.isDigit) = true := List.all_eq_true.mp hBefore
  have hStop : StopsAt (fun c => !c.isDigit) (Nat.toDigits 10 number ++ behind.toList) := by
    cases hNumber : Nat.toDigits 10 number with
    | nil => exact absurd hNumber Nat.toDigits_ne_nil
    | cons d more =>
        have hd : d.isDigit = true := hDigits d (hNumber ▸ List.mem_cons_self)
        exact stopsAt_cons (by rw [hd]; rfl) _
  have hSome : (Nat.toDigits 10 number).isEmpty = false :=
    List.isEmpty_eq_false_iff.mpr Nat.toDigits_ne_nil
  have hRead : Nat.ofDigitChars 10 (Nat.toDigits 10 number) 0 = number := by simp
  rw [← String.toList_inj, hChars]
  simp only [addToNumber, hChars, takeWhile_of_stop hFree hStop, dropWhile_of_stop hFree hStop,
    takeWhile_of_stop hDigits hBehind, dropWhile_of_stop hDigits hBehind, hSome, hRead,
    Bool.false_eq_true, if_false, String.toList_ofList, List.append_assoc]

theorem addToNumber_append {before : String} (hBefore : DigitFree before) (count number : Nat) :
    addToNumber count (before ++ toString number) = before ++ toString (number + count) := by
  have hNone : StopsAt Char.isDigit "".toList := nofun
  have hNumber := addToNumber_between hBefore hNone count number
  rw [String.append_empty, String.append_empty] at hNumber
  exact hNumber

example : addToNumber 5 "<div slot=9>your content</div>" = "<div slot=14>your content</div>" := by
  decide

end Text

/-! ## Grids with other numbers -/

/-- What is added to the indices of rows and to the numbers of cells. -/
structure Offset where
  rows : Nat
  cells : Nat

/-- The value of an attribute with another number: a class holds the index of a row,
and a name is the number of a cell. -/
def Offset.value (offset : Offset) (name value : String) : String :=
  if name = "class" then Text.addToNumber offset.rows value
  else if name = "name" then Text.addToNumber offset.cells value
  else value

namespace Markup

/-- The same names with other values. -/
def Attributes.mapValues (change : String → String → String) (attributes : Attributes) :
    Attributes where
  entries := attributes.entries.map fun entry => (entry.1, change entry.1 entry.2)
  names_nodup := by
    rw [List.map_map]
    exact attributes.names_nodup

private theorem map_assign (change : String → String → String) (name value : String)
    (entries : List (String × String)) :
    ((assign name value entries).map fun entry => (entry.1, change entry.1 entry.2)) =
      assign name (change name value)
        (entries.map fun entry => (entry.1, change entry.1 entry.2)) := by
  induction entries with
  | nil => rfl
  | cons entry rest ih =>
      obtain ⟨other, old⟩ := entry
      rw [List.map_cons, assign, assign]
      by_cases hName : other = name
      · rw [if_pos hName, if_pos hName, List.map_cons, hName]
      · rw [if_neg hName, if_neg hName, List.map_cons, ih]

theorem Attributes.mapValues_set (change : String → String → String) (attributes : Attributes)
    (name value : String) :
    (attributes.set name value).mapValues change =
      (attributes.mapValues change).set name (change name value) := by
  simp only [mapValues, set, map_assign]

theorem Attributes.mapValues_empty (change : String → String → String) :
    empty.mapValues change = empty := rfl

mutual

/-- A node of a grid with other numbers. Texts of a grid hold numbers of cells. -/
def Node.renumber (offset : Offset) : Node → Node
  | .text content => .text (Text.addToNumber offset.cells content)
  | .element tag attributes children =>
    .element tag (attributes.mapValues offset.value) (renumberAll offset children)

/-- Nodes of a grid with other numbers. -/
def renumberAll (offset : Offset) : List Node → List Node
  | [] => []
  | node :: rest => node.renumber offset :: renumberAll offset rest

end

theorem renumberAll_eq_map (offset : Offset) (nodes : List Node) :
    renumberAll offset nodes = nodes.map (Node.renumber offset) := by
  induction nodes with
  | nil => rfl
  | cons node rest ih => rw [renumberAll, ih, List.map_cons]

namespace Element

/-- An element of a grid with other numbers. -/
def renumber (offset : Offset) (element : Element) : Element where
  tag := element.tag
  attributes := element.attributes.mapValues offset.value
  children := renumberAll offset element.children

@[simp] theorem renumber_node (offset : Offset) (element : Element) :
    element.node.renumber offset = (element.renumber offset).node := by
  rw [node, Node.renumber]
  rfl

@[simp] theorem renumber_new (offset : Offset) (tag : String) :
    (new tag).renumber offset = new tag := rfl

@[simp] theorem renumber_setAttribute (offset : Offset) (element : Element) (name value : String) :
    (element.setAttribute name value).renumber offset =
      (element.renumber offset).setAttribute name (offset.value name value) := by
  simp only [renumber, setAttribute, Attributes.mapValues_set]

@[simp] theorem renumber_append (offset : Offset) (element : Element) (children : List Node) :
    (element.append children).renumber offset =
      (element.renumber offset).append (renumberAll offset children) := by
  simp only [renumber, append, renumberAll_eq_map, List.map_append]

end Element

end Markup

/-- A rule with another row in its selector. -/
def Style.Rule.renumber (offset : Offset) (rule : Style.Rule) : Style.Rule :=
  { rule with selector := Text.addToNumber offset.rows rule.selector }

namespace Layout

open Markup (Attributes Element Node renumberAll renumberAll_eq_map)
open Style (Rule rowClass rowRule anyRowClass)

/-- An insertion point with another number, in another row. -/
def InsertionPoint.renumber (offset : Offset) (point : InsertionPoint) : InsertionPoint where
  id := point.id + offset.cells
  row := point.row + offset.rows
  column := point.column

namespace Grid

/-- A grid with other indices of rows and other numbers of cells. -/
def renumber (offset : Offset) (grid : Grid) : Grid where
  stylesheet := ⟨grid.stylesheet.rules.map (Rule.renumber offset)⟩
  rows := renumberAll offset grid.rows
  points := grid.points.map (InsertionPoint.renumber offset)

/-- The rows of one grid below those of another. -/
def append (grid other : Grid) : Grid where
  stylesheet := grid.stylesheet ++ other.stylesheet
  rows := grid.rows ++ other.rows
  points := grid.points ++ other.points

instance : Append Grid := ⟨append⟩

theorem renumber_append (offset : Offset) (grid other : Grid) :
    (grid ++ other).renumber offset = grid.renumber offset ++ other.renumber offset := by
  show renumber offset (append grid other) = append (renumber offset grid) (renumber offset other)
  simp only [renumber, append, renumberAll_eq_map, List.map_append, Style.Stylesheet.rules_append]
  rfl

theorem append_assoc (grid other last : Grid) :
    grid ++ other ++ last = grid ++ (other ++ last) := by
  show (⟨⟨grid.stylesheet.rules ++ other.stylesheet.rules ++ last.stylesheet.rules⟩,
      grid.rows ++ other.rows ++ last.rows, grid.points ++ other.points ++ last.points⟩ : Grid) =
    ⟨⟨grid.stylesheet.rules ++ (other.stylesheet.rules ++ last.stylesheet.rules)⟩,
      grid.rows ++ (other.rows ++ last.rows), grid.points ++ (other.points ++ last.points)⟩
  simp only [List.append_assoc]

end Grid

/-! ## Rows with other numbers -/

theorem renumber_placeholder (offset : Offset) (id : Nat) :
    (placeholder id).renumber offset = placeholder (id + offset.cells) := by
  have hText : Text.addToNumber offset.cells
      ("<div slot=" ++ toString id ++ ">your content</div>") =
      "<div slot=" ++ toString (id + offset.cells) ++ ">your content</div>" :=
    Text.addToNumber_between (by decide) (Text.stopsAt_cons (by decide) _) offset.cells id
  have hHint : Text.addToNumber offset.cells "replace me with: " = "replace me with: " :=
    Text.addToNumber_of_digitFree (by decide) offset.cells
  simp only [placeholder, Node.renumber, renumberAll, Attributes.mapValues_empty, hText, hHint]

theorem addToNumber_slotName (count id : Nat) :
    Text.addToNumber count (slotName id) = slotName (id + count) := by
  have hName := @Text.addToNumber_append "" (by decide) count id
  rw [String.empty_append, String.empty_append] at hName
  exact hName

theorem addToNumber_rowClass {before : String} (hBefore : Text.DigitFree before)
    (count index : Nat) :
    Text.addToNumber count (before ++ rowClass index) = before ++ rowClass (index + count) := by
  have hLetters : Text.DigitFree (before ++ "grid-") := hBefore.append (by decide)
  have hClass := Text.addToNumber_append hLetters count (index + 1)
  rw [String.append_assoc, String.append_assoc, show index + 1 + count = index + count + 1 by omega]
    at hClass
  exact hClass

theorem renumber_slot (offset : Offset) (style : CellStyle) (id : Nat) :
    (slot style id).renumber offset = slot style (id + offset.cells) := by
  have hName : offset.value "name" (slotName id) = slotName (id + offset.cells) :=
    addToNumber_slotName offset.cells id
  have hInner : renumberAll offset (if style.bare then [] else [placeholder id]) =
      if style.bare then [] else [placeholder (id + offset.cells)] := by
    cases style.bare with
    | true => rfl
    | false => exact congrArg (fun node => [node]) (renumber_placeholder offset id)
  simp [slot, hName, hInner]

theorem renumber_cell (offset : Offset) (style : CellStyle) (id : Nat) :
    (cell style id).renumber offset = cell style (id + offset.cells) := by
  have hStyle : offset.value "style" style.cell = style.cell := rfl
  simp [cell, hStyle, renumberAll, renumber_slot]

theorem renumber_rowContainer (offset : Offset) (style : CellStyle) (index : Nat)
    (cells : List Node) :
    (rowContainer style index cells).renumber offset =
      rowContainer style (index + offset.rows) (renumberAll offset cells) := by
  have hStyle : offset.value "style" style.row = style.row := rfl
  have hClass : offset.value "class" (anyRowClass ++ " " ++ rowClass index) =
      anyRowClass ++ " " ++ rowClass (index + offset.rows) :=
    addToNumber_rowClass (by decide) offset.rows index
  simp [rowContainer, hClass, hStyle]

theorem renumber_rowRule (offset : Offset) (index : Nat) (templateColumns : String) :
    (rowRule index templateColumns).renumber offset =
      rowRule (index + offset.rows) templateColumns := by
  have hSelector : Text.addToNumber offset.rows ("." ++ rowClass index) =
      "." ++ rowClass (index + offset.rows) :=
    addToNumber_rowClass (by decide) offset.rows index
  simp only [Rule.renumber, rowRule, hSelector]

theorem renumber_layOutRow (offset : Offset) (style : CellStyle) (index first : Nat) (row : Row) :
    (layOutRow style index first row).renumber offset =
      layOutRow style (index + offset.rows) (first + offset.cells) row := by
  have hNumber (column : Nat) :
      first + column + offset.cells = first + offset.cells + column := by omega
  simp only [layOutRow, Grid.renumber, renumberAll_eq_map, List.map_cons, List.map_nil,
    renumber_rowRule, renumber_rowContainer, List.map_map, Function.comp_def,
    renumber_cell, InsertionPoint.renumber, hNumber]

theorem layOutFrom_cons (style : CellStyle) (index first : Nat) (row : Row) (rest : List Row) :
    layOutFrom style index first (row :: rest) =
      layOutRow style index first row ++ layOutFrom style (index + 1) (first + row.length) rest :=
  rfl

/-- A grid with other numbers is the grid of the same rows from another start. -/
theorem renumber_layOutFrom (offset : Offset) (style : CellStyle) (index first : Nat)
    (rows : List Row) :
    (layOutFrom style index first rows).renumber offset =
      layOutFrom style (index + offset.rows) (first + offset.cells) rows := by
  induction rows generalizing index first with
  | nil => rfl
  | cons row rest ih =>
      rw [layOutFrom_cons, Grid.renumber_append, renumber_layOutRow, ih, layOutFrom_cons,
        show index + 1 + offset.rows = index + offset.rows + 1 by omega,
        show first + row.length + offset.cells = first + offset.cells + row.length by omega]

/-- Rows are laid out one after the other. -/
theorem layOutFrom_append (style : CellStyle) (index first : Nat) (rows others : List Row) :
    layOutFrom style index first (rows ++ others) =
      layOutFrom style index first rows ++
        layOutFrom style (index + rows.length) (first + cellsIn rows) others := by
  induction rows generalizing index first with
  | nil => rfl
  | cons row rest ih =>
      rw [List.cons_append, layOutFrom_cons, ih, layOutFrom_cons, Grid.append_assoc,
        List.length_cons, cellsIn_cons,
        show index + 1 + rest.length = index + (rest.length + 1) by omega,
        show first + row.length + cellsIn rest = first + (row.length + cellsIn rest) by omega]

theorem layOut_append (style : CellStyle) (rows others : List Row) :
    layOut style ⟨rows ++ others⟩ =
      layOut style ⟨rows⟩ ++ (layOut style ⟨others⟩).renumber ⟨rows.length, cellsIn rows⟩ := by
  have hFirst := layOutFrom_append style 0 1 rows others
  have hOther := renumber_layOutFrom ⟨rows.length, cellsIn rows⟩ style 0 1 others
  rw [layOut, layOut, layOut, hFirst, hOther]

end Layout

/-! ## Joined specifications -/

namespace Specification

/-- The rows of a text that does not describe a single cell are those of its pieces. -/
theorem rows_parse_of_not_isSingleCell {source : String} (hLone : source ≠ ";")
    (h : isSingleCell (segments source) = false) :
    (parse source).rows = (Text.pieces ';' source).map Row.ofText := by
  have hPieces : Text.pieces ';' source ≠ [""] := fun hSame =>
    hLone ((Text.pieces_eq_lone_iff ';' source).mp hSame)
  have hSegments : segments source = Text.pieces ';' source := if_neg hPieces
  apply rows_parse_of_not_collapses
  intro hCollapses
  cases hCollapses with
  | inl hSame => exact hPieces hSame
  | inr hToken =>
      rw [hSegments, (isSingleCell_iff _).mpr hToken] at h
      cases h

/-- Two texts that are joined by a semicolon describe the rows of both. -/
theorem rows_parse_append {source other : String} (hNonempty : source ≠ "")
    (hOpen : source.toList.getLast? ≠ some ';') (hOther : other ≠ "") (hLone : other ≠ ";")
    (hSource : isSingleCell (segments source) = false)
    (hCells : isSingleCell (segments other) = false) :
    (parse (source ++ ";" ++ other)).rows = (parse source).rows ++ (parse other).rows := by
  have hNotLone : source ≠ ";" := by
    intro hSame
    exact hOpen (by rw [hSame]; rfl)
  have hPieces : Text.pieces ';' (source ++ ";" ++ other) =
      Text.pieces ';' source ++ Text.pieces ';' other :=
    Text.pieces_append_mark hNonempty hOpen other
  have hStays : ¬ Collapses (Text.pieces ';' (source ++ ";" ++ other)) := by
    intro hCollapses
    have hOne := hCollapses.length_eq_one
    have hLeft : (Text.pieces ';' source).length ≠ 0 := fun hNone =>
      hNonempty ((Text.pieces_eq_nil_iff ';' source).mp (List.length_eq_zero_iff.mp hNone))
    have hRight : (Text.pieces ';' other).length ≠ 0 := fun hNone =>
      hOther ((Text.pieces_eq_nil_iff ';' other).mp (List.length_eq_zero_iff.mp hNone))
    rw [hPieces, List.length_append] at hOne
    omega
  rw [rows_parse_of_not_collapses hStays, hPieces, List.map_append,
    rows_parse_of_not_isSingleCell hNotLone hSource, rows_parse_of_not_isSingleCell hLone hCells]

end Specification

namespace Layout

/-- Appended rows are added to a grid with other numbers, and nothing changes above
them. So it is when the rows are described by two texts with a semicolon between
them, unless the first text is empty or ends with a semicolon, the second one has no
rows at all, or one of the two is a single cell. -/
theorem compile_append :
    (∀ (style : CellStyle) (rows others : List Row),
      layOut style ⟨rows ++ others⟩ =
        layOut style ⟨rows⟩ ++ (layOut style ⟨others⟩).renumber ⟨rows.length, cellsIn rows⟩) ∧
    ∀ source other : String, source ≠ "" → source.toList.getLast? ≠ some ';' →
      other ≠ "" → other ≠ ";" → isSingleCell (segments source) = false →
      isSingleCell (segments other) = false →
      (Specification.parse (source ++ ";" ++ other)).rows =
          (Specification.parse source).rows ++ (Specification.parse other).rows ∧
        ∀ style : CellStyle, compile style (source ++ ";" ++ other) =
          compile style source ++ (compile style other).renumber
            ⟨(Specification.parse source).rows.length, (Specification.parse source).cellCount⟩ := by
  refine ⟨layOut_append, ?_⟩
  intro source other hNonempty hOpen hOther hLone hSource hCells
  have hRows := Specification.rows_parse_append hNonempty hOpen hOther hLone hSource hCells
  refine ⟨hRows, ?_⟩
  intro style
  have hParse : Specification.parse (source ++ ";" ++ other) =
      ⟨(Specification.parse source).rows ++ (Specification.parse other).rows⟩ := by
    rw [← hRows]
  rw [compile, hParse, layOut_append]
  rfl

theorem compile_append_sample :
    "50 50".toList.getLast? ≠ some ';' ∧ isSingleCell (segments "50 50") = false ∧
      isSingleCell (segments "30;70 30;") = false ∧
      (Specification.parse ("50 50" ++ ";" ++ "30;70 30;")).rows =
        (Specification.parse "50 50").rows ++ (Specification.parse "30;70 30;").rows ∧
      ∀ style : CellStyle, compile style ("50 50" ++ ";" ++ "30;70 30;") =
        compile style "50 50" ++ (compile style "30;70 30;").renumber ⟨1, 2⟩ := by
  have hOpen : "50 50".toList.getLast? ≠ some ';' := by decide
  have hSource : isSingleCell (segments "50 50") = false := by decide
  have hCells : isSingleCell (segments "30;70 30;") = false := by decide
  obtain ⟨hRows, hGrids⟩ := compile_append.2 "50 50" "30;70 30;" (by decide) hOpen (by decide)
    (by decide) hSource hCells
  exact ⟨hOpen, hSource, hCells, hRows, hGrids⟩

end Layout

end SlotGrid
