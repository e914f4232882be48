import Mathlib.Data.List.Basic
import Mathlib.Logic.ExistsUnique
import SlotGrid.Component
import SlotGrid.Proofs.Numbering

/-!
# Content in the cells of a grid

Composing a component walks its tree once and keeps a list of the slot names
that are filled. In a grid the walk meets the slots in the order of their
numbers, so a name is never filled before its own slot is met; that is the
invariant `OpenFrom`, and with it every cell takes all content of its number.
The content that no cell takes is found by a second walk, which only collects
names. The two walks agree: no content is lost or shown twice.

## Main definitions

* `placedIn`, `shownIn` — the content of a cell, and what the cell shows.
* `cellAround`, `rowAround` — the boxes of a cell and of a row, written out.
* `OpenFrom` — no slot from a number on is filled yet.
* `Config.filledRows` — the rows of a configured grid with their cells filled.
* `Component.Places` — what it means that content is shown in its own cell, once,
  or is left over.

## Main results

* `composeAll_of_slotNames_eq_nil` — a tree without slots composes to itself.
* `composeAll_containersFrom` — composing the row containers of a grid.
* `Config.containersFrom_filledCell` — what comes of it, in the words of the
  configuration.
* `perm_of_names` — content is divided among names that differ.
* `compose_new` — a component that renders its configuration places content.
-/

namespace SlotGrid

open Layout
open Markup (Attributes Element Node)
open Style (Spacing)

namespace Slotting

/-! ## Trees without slots -/

mutual

theorem composeNode_of_nodeSlotNames_eq_nil (children : List SlottedContent)
    (filled : List SlotName) (node : Node) (h : nodeSlotNames node = []) :
    composeNode children filled node = ⟨[node], filled⟩ := by
  cases node with
  | text content => rfl
  | element tag attributes inner =>
      by_cases hTag : tag = "slot"
      · simp [nodeSlotNames, hTag] at h
      · rw [nodeSlotNames, if_neg hTag] at h
        rw [composeNode, if_neg hTag,
          composeAll_of_slotNames_eq_nil children filled inner h]

/-- Composing finds nothing to do in a tree without slots. -/
theorem composeAll_of_slotNames_eq_nil (children : List SlottedContent)
    (filled : List SlotName) (nodes : List Node) (h : slotNames nodes = []) :
    composeAll children filled nodes = ⟨nodes, filled⟩ := by
  cases nodes with
  | nil => rfl
  | cons node rest =>
      rw [slotNames, List.append_eq_nil_iff] at h
      rw [composeAll, composeNode_of_nodeSlotNames_eq_nil children filled node h.1,
        composeAll_of_slotNames_eq_nil children filled rest h.2]
      rfl

end

/-- An element that is no slot stays around its composed children. -/
theorem composeNode_element {tag : String} (hTag : tag ≠ "slot") (children : List SlottedContent)
    (filled : List SlotName) (attributes : Attributes) (inner : List Node) :
    composeNode children filled (.element tag attributes inner) =
      ⟨[.element tag attributes (composeAll children filled inner).nodes],
        (composeAll children filled inner).filled⟩ := by
  rw [composeNode, if_neg hTag]

/-! ## Cells -/

/-- The content meant for the cell with this number, in order. -/
def placedIn (children : List SlottedContent) (id : Nat) : List SlottedContent :=
  children.filter fun child => child.slot == some (slotName id)

/-- What a cell shows: the content meant for it or, when there is none, its
placeholder, unless the grid has no placeholders. -/
def shownIn (noFillers : Bool) (children : List SlottedContent) (id : Nat) : List Node :=
  if (placedIn children id).isEmpty then (if noFillers then [] else [placeholder id])
  else (placedIn children id).map SlottedContent.content

/-- The box of a cell with this style around nodes. -/
def cellAround (style : String) (inner : List Node) : Node :=
  .element "div" ⟨[("style", style)], by simp⟩ inner

/-- The box of the row at this index with this style around cells. Classes count
rows from one. -/
def rowAround (style : String) (index : Nat) (cells : List Node) : Node :=
  .element "div" ⟨[("class", "gridrow grid-" ++ toString (index + 1)), ("style", style)], by simp⟩
    cells

theorem cell_eq_cellAround (style : CellStyle) (id : Nat) :
    cell style id = cellAround style.cell [slot style id] :=
  rfl

theorem rowContainer_eq_rowAround (style : CellStyle) (index : Nat) (cells : List Node) :
    rowContainer style index cells = rowAround style.row index cells := by
  have hClass : Style.anyRowClass ++ " " ++ Style.rowClass index =
      "gridrow grid-" ++ toString (index + 1) := by
    rw [Style.anyRowClass, Style.rowClass, ← String.append_assoc]
    rfl
  rw [rowContainer, hClass]
  rfl

/-- The cell with this number, with what it shows in place of its slot. -/
def filledCell (style : CellStyle) (children : List SlottedContent) (id : Nat) : Node :=
  cellAround style.cell (shownIn style.bare children id)

theorem composeNode_cellAround (style : String) (children : List SlottedContent)
    (filled : List SlotName) (inner : List Node) :
    composeNode children filled (cellAround style inner) =
      ⟨[cellAround style (composeAll children filled inner).nodes],
        (composeAll children filled inner).filled⟩ :=
  composeNode_element (show "div" ≠ "slot" by decide) children filled _ inner

theorem composeNode_rowContainer (style : CellStyle) (index : Nat)
    (children : List SlottedContent) (filled : List SlotName) (cells : List Node) :
    composeNode children filled (rowContainer style index cells) =
      ⟨[rowContainer style index (composeAll children filled cells).nodes],
        (composeAll children filled cells).filled⟩ :=
  composeNode_element (show "div" ≠ "slot" by decide) children filled _ cells

/-- No slot with this number or a greater one is filled. -/
def OpenFrom (filled : List SlotName) (first : Nat) : Prop :=
  ∀ id : Nat, first ≤ id → some (slotName id) ∉ filled

theorem OpenFrom.mono {filled : List SlotName} {first next : Nat} (h : OpenFrom filled first)
    (hNext : first ≤ next) : OpenFrom filled next := by
  intro id hId
  exact h id (by omega)

/-- Filling a slot leaves those behind it open, since their names differ. -/
theorem OpenFrom.fill {filled : List SlotName} {id : Nat} (h : OpenFrom filled id) :
    OpenFrom (some (slotName id) :: filled) (id + 1) := by
  intro other hOther hMem
  rcases List.mem_cons.mp hMem with hName | hMem
  · have hSame : other = id := slotName_injective (Option.some.inj hName)
    omega
  · exact h other (by omega) hMem

/-- A slot that is open shows what its cell shows, and the slots behind it stay
open. -/
theorem composeNode_slot (style : CellStyle) (children : List SlottedContent)
    {filled : List SlotName} {id : Nat} (h : OpenFrom filled id) :
    (composeNode children filled (slot style id)).nodes = shownIn style.bare children id ∧
      OpenFrom (composeNode children filled (slot style id)).filled (id + 1) := by
  have hTag : (slotElement style id).tag = "slot" := rfl
  have hName : slotNameOf (slotElement style id).attributes = some (slotName id) :=
    attribute?_slotElement style id
  have hOpen : filled.contains (some (slotName id)) = false := by
    simpa using h id (Nat.le_refl id)
  have hFallback : composeAll children filled (slotElement style id).children =
      ⟨(slotElement style id).children, filled⟩ := by
    refine composeAll_of_slotNames_eq_nil children filled _ ?_
    rw [slotNames_eq_map, slotElements_fallback, List.map_nil]
  have hNode : composeNode children filled (slot style id) =
      if (placedIn children id).isEmpty then ⟨(slotElement style id).children, filled⟩
      else ⟨(placedIn children id).map SlottedContent.content, some (slotName id) :: filled⟩ := by
    rw [slot_eq_node, Element.node, composeNode, if_pos hTag, hName, hFallback]
    simp only [hOpen, assigned, placedIn, List.isEmpty_map, Bool.false_eq_true, if_false]
    rfl
  rw [hNode, shownIn]
  by_cases hEmpty : (placedIn children id).isEmpty = true
  · rw [if_pos hEmpty, if_pos hEmpty]
    exact ⟨children_slotElement style id, h.mono (by omega)⟩
  · rw [if_neg hEmpty, if_neg hEmpty]
    exact ⟨rfl, h.fill⟩

theorem composeNode_cell (style : CellStyle) (children : List SlottedContent)
    {filled : List SlotName} {id : Nat} (h : OpenFrom filled id) :
    (composeNode children filled (cell style id)).nodes = [filledCell style children id] ∧
      OpenFrom (composeNode children filled (cell style id)).filled (id + 1) := by
  obtain ⟨hNodes, hFilled⟩ := composeNode_slot style children h
  have hNode : composeNode children filled (cell style id) =
      ⟨[filledCell style children id], (composeNode children filled (slot style id)).filled⟩ := by
    rw [cell_eq_cellAround, composeNode_cellAround, filledCell, ← hNodes]
    simp [composeAll]
  rw [hNode]
  exact ⟨rfl, hFilled⟩

/-- Cells with consecutive numbers are filled one after the other. -/
theorem composeAll_cells (style : CellStyle) (children : List SlottedContent) (count : Nat)
    {filled : List SlotName} {first : Nat} (h : OpenFrom filled first) :
    let composed := composeAll children filled ((List.range' first count).map (cell style))
    composed.nodes = (List.range' first count).map (filledCell style children) ∧
      OpenFrom composed.filled (first + count) := by
  induction count generalizing filled first with
  | zero => exact ⟨rfl, h⟩
  | succ count ih =>
      obtain ⟨hCell, hNext⟩ := composeNode_cell style children h
      obtain ⟨hNodes, hFilled⟩ := ih hNext
      simp only [List.range'_succ, List.map_cons, composeAll]
      refine ⟨?_, ?_⟩
      · rw [hCell, hNodes, List.singleton_append]
      · have hSum : first + (count + 1) = first + 1 + count := by omega
        rw [hSum]
        exact hFilled

/-- Composing row containers fills their cells and leaves the containers as they
are. -/
theorem composeAll_containersFrom (style : CellStyle) (children : List SlottedContent)
    (index : Nat) (rows : List Row) {filled : List SlotName} {first : Nat}
    (h : OpenFrom filled first) :
    (composeAll children filled (containersFrom style (cell style) index first rows)).nodes =
      containersFrom style (filledCell style children) index first rows := by
  induction rows generalizing index first filled with
  | nil => rfl
  | cons row rest ih =>
      obtain ⟨hCells, hNext⟩ := composeAll_cells style children row.length h
      rw [containersFrom_cons, containersFrom_cons, composeAll, composeNode_rowContainer]
      simp only [hCells, ih (index + 1) hNext, List.singleton_append]

/-! ## Dividing content among names -/

/-- The content of each of several names and the content of none of them are all
content, as long as no name is listed twice. -/
theorem perm_of_names (names : List SlotName) (hNames : names.Nodup)
    (children : List SlottedContent) :
    ((names.flatMap fun name => children.filter fun child => child.slot == name) ++
      children.filter fun child => !names.contains child.slot).Perm children := by
  induction names generalizing children with
  | nil =>
      have hAll : (children.filter fun child => !([] : List SlotName).contains child.slot) =
          children := List.filter_eq_self.mpr (by simp)
      rw [List.flatMap_nil, List.nil_append, hAll]
  | cons name rest ih =>
      obtain ⟨hName, hRest⟩ := List.nodup_cons.mp hNames
      let others := children.filter fun child => !(child.slot == name)
      -- content of another name is not touched when the content of `name` is taken out
      have hPlaced : (rest.flatMap fun other => others.filter fun child => child.slot == other) =
          rest.flatMap fun other => children.filter fun child => child.slot == other := by
        refine List.flatMap_congr ?_
        intro other hOther
        rw [List.filter_filter]
        refine List.filter_congr ?_
        intro child _
        by_cases hChild : child.slot = other
        · have hDiffer : other ≠ name := fun hSame => hName (hSame ▸ hOther)
          simp [hChild, hDiffer]
        · simp [hChild]
      have hLeft : (others.filter fun child => !rest.contains child.slot) =
          children.filter fun child => !(name :: rest).contains child.slot := by
        rw [List.filter_filter]
        refine List.filter_congr ?_
        intro child _
        rw [List.contains_cons, Bool.not_or, Bool.and_comm]
      have hOthers := ih hRest others
      rw [hPlaced, hLeft] at hOthers
      rw [List.flatMap_cons, List.append_assoc]
      exact (hOthers.append_left _).trans
        (List.filter_append_perm (fun child => child.slot == name) children)

/-- The names of the slots of a grid with this many cells. -/
def cellNames (count : Nat) : List SlotName :=
  (List.range' 1 count).map fun id => some (slotName id)

theorem notMem_cellNames {count : Nat} {name : SlotName} :
    name ∉ cellNames count ↔ ∀ id ∈ List.range' 1 count, name ≠ some (slotName id) := by
  simp [cellNames, eq_comm]

theorem nodup_cellNames (count : Nat) : (cellNames count).Nodup := by
  refine List.pairwise_map.mpr (List.Pairwise.imp ?_ (List.nodup_range' 1))
  intro id other hDiffer hSame
  exact hDiffer (slotName_injective (Option.some.inj hSame))

end Slotting

/-! ## Components -/

open Slotting

/-- No cells are described where no specification is given. -/
theorem parse_of_not_hasDim {config : Config} (h : ¬ config.hasDim = true) :
    Specification.parse config.dim = ⟨[]⟩ := by
  have hDim : config.dim = "" := Config.not_hasDim_iff.mp h
  rw [hDim]
  decide

theorem slotNames_styleElement (spacing : Spacing) (rendered : Rendered) :
    nodeSlotNames (styleElement spacing rendered) = [] := by
  simp [styleElement, slotNames, nodeSlotNames]

/-- A style element holds no slot, so it stays in front of the composed rest. -/
theorem compose_styleElement (spacing : Spacing) (rendered : Rendered) (nodes : List Node)
    (children : List SlottedContent) :
    compose (styleElement spacing rendered :: nodes) children =
      styleElement spacing rendered :: compose nodes children := by
  rw [compose, composeAll, composeNode_of_nodeSlotNames_eq_nil children []
    (styleElement spacing rendered) (slotNames_styleElement spacing rendered)]
  rfl

theorem slotNames_warning : slotNames [warning] = [] := by
  simp [warning, slotNames, nodeSlotNames]

/-- The numbers of the cells of a configured grid; a grid without a
specification has none. -/
def Config.cellNumbers (config : Config) : List Nat :=
  List.range' 1 (Specification.parse config.dim).cellCount

/-- The rows of a configured grid with their cells filled. The first row has this
index and starts with cell number `first`. -/
def Config.filledRows (config : Config) (children : List SlottedContent) (index first : Nat) :
    List Row → List Node
  | [] => []
  | row :: rest =>
    rowAround config.rowStyle index ((List.range' first row.length).map fun id =>
        cellAround config.effectiveCellStyle (shownIn config.noFillers children id)) ::
      config.filledRows children (index + 1) (first + row.length) rest

/-- The look of a configuration is its styles and whether it has placeholders. -/
theorem Config.containersFrom_filledCell (config : Config) (children : List SlottedContent)
    (index first : Nat) (rows : List Row) :
    containersFrom config.look (filledCell config.look children) index first rows =
      config.filledRows children index first rows := by
  induction rows generalizing index first with
  | nil => rfl
  | cons row rest ih =>
      rw [containersFrom_cons, ih, rowContainer_eq_rowAround]
      rfl

/-- Every piece of content is shown once, in the cell of its number, or it is
left over. -/
structure Component.Places (component : Component) (children : List SlottedContent) : Prop where
  /-- In a grid the style element stays in front, and there is one container for
  every row, with its cells filled. -/
  compose_grid : ∀ grid : Layout.Grid, component.rendered = .grid grid →
    component.compose children =
      styleElement component.config.spacing component.rendered ::
        component.config.filledRows children 0 1 (Specification.parse component.config.dim).rows
  /-- The cell of an insertion point shows the content of its number, or else the
  placeholder. -/
  content : ∀ point ∈ component.rendered.points,
    contentAt (component.compose children).tail point.row point.column =
      some (shownIn component.config.noFillers children point.id)
  /-- Left over is the content whose tag is not the number of a cell. -/
  unplaced_eq : unplaced component.shadowTree children =
    children.filter fun child => ∀ id ∈ component.config.cellNumbers,
      child.slot ≠ some (toString id)
  /-- What the cells show and what is left over is all content. -/
  perm : (component.config.cellNumbers.flatMap (placedIn children) ++
    unplaced component.shadowTree children).Perm children
  /-- No content is shown in two cells, or shown and left over. -/
  once : ∀ child ∈ children,
    (child ∉ unplaced component.shadowTree children ∧
      ∃! id : Nat, id ∈ component.config.cellNumbers ∧ child ∈ placedIn children id) ∨
    (child ∈ unplaced component.shadowTree children ∧
      ∀ id ∈ component.config.cellNumbers, child ∉ placedIn children id)
  /-- Without a row there is no place for content. -/
  nothing : (∀ grid : Layout.Grid, component.rendered = .grid grid → grid.rows = []) →
    component.compose children = component.shadowTree ∧
      unplaced component.shadowTree children = children

/-- The slots of a component are those of the cells that it is configured with. -/
theorem slotNames_shadowTree (config : Config) :
    slotNames (Component.new config).shadowTree =
      cellNames (Specification.parse config.dim).cellCount := by
  by_cases hDim : config.hasDim = true
  · rw [Component.shadowTree_new_of_hasDim hDim, slotNames, slotNames_styleElement,
      List.nil_append]
    exact slotNames_layOut config.look (Specification.parse config.dim)
  · rw [Component.shadowTree_new_of_not_hasDim hDim, slotNames, slotNames_styleElement,
      List.nil_append, parse_of_not_hasDim hDim]
    exact slotNames_warning

/-- Composing the row containers of a component fills their cells. -/
theorem compose_new_of_hasDim {config : Config} (h : config.hasDim = true)
    (children : List SlottedContent) :
    (Component.new config).compose children =
      styleElement config.spacing (render config) ::
        containersFrom config.look (filledCell config.look children) 0 1
          (Specification.parse config.dim).rows := by
  have hOpen : OpenFrom [] 1 := by
    intro id _ hMem
    cases hMem
  rw [Component.compose, Component.shadowTree_new_of_hasDim h, compose_styleElement, layOut,
    rows_layOutFrom, compose, composeAll_containersFrom config.look children 0 _ hOpen]

theorem unplaced_new (config : Config) (children : List SlottedContent) :
    unplaced (Component.new config).shadowTree children =
      children.filter fun child =>
        !(cellNames (Specification.parse config.dim).cellCount).contains child.slot := by
  simp only [unplaced, hasPlace, slotNames_shadowTree]

theorem mem_unplaced_new {config : Config} {children : List SlottedContent}
    {child : SlottedContent} :
    child ∈ unplaced (Component.new config).shadowTree children ↔
      child ∈ children ∧ ∀ id ∈ config.cellNumbers, child.slot ≠ some (slotName id) := by
  rw [unplaced_new, List.mem_filter, Config.cellNumbers, ← notMem_cellNames]
  simp

theorem mem_placedIn {children : List SlottedContent} {child : SlottedContent} {id : Nat} :
    child ∈ placedIn children id ↔ child ∈ children ∧ child.slot = some (slotName id) := by
  simp [placedIn]

/-- No tag is the number of two cells. -/
theorem placed_once {config : Config} {children : List SlottedContent} {child : SlottedContent}
    (hChild : child ∈ children) :
    (child ∉ unplaced (Component.new config).shadowTree children ∧
      ∃! id : Nat, id ∈ config.cellNumbers ∧ child ∈ placedIn children id) ∨
    (child ∈ unplaced (Component.new config).shadowTree children ∧
      ∀ id ∈ config.cellNumbers, child ∉ placedIn children id) := by
  by_cases hPlace : ∃ id ∈ config.cellNumbers, child.slot = some (slotName id)
  · obtain ⟨id, hId, hName⟩ := hPlace
    refine Or.inl ⟨?_, id, ⟨hId, mem_placedIn.mpr ⟨hChild, hName⟩⟩, ?_⟩
    · intro hLeft
      exact (mem_unplaced_new.mp hLeft).2 id hId hName
    · rintro other ⟨-, hOther⟩
      have hSame : some (slotName other) = some (slotName id) :=
        (mem_placedIn.mp hOther).2.symm.trans hName
      exact slotName_injective (Option.some.inj hSame)
  · have hNone : ∀ id ∈ config.cellNumbers, child.slot ≠ some (slotName id) := by
      intro id hId hName
      exact hPlace ⟨id, hId, hName⟩
    refine Or.inr ⟨mem_unplaced_new.mpr ⟨hChild, hNone⟩, ?_⟩
    intro id hId hPlaced
    exact hNone id hId (mem_placedIn.mp hPlaced).2

/-- A component without cells shows its own tree and takes no content. -/
theorem compose_new_of_cellCount_eq_zero {config : Config}
    (h : (Specification.parse config.dim).cellCount = 0) (children : List SlottedContent) :
    (Component.new config).compose children = (Component.new config).shadowTree ∧
      unplaced (Component.new config).shadowTree children = children := by
  have hNames : slotNames (Component.new config).shadowTree = [] := by
    rw [slotNames_shadowTree, h]
    rfl
  refine ⟨?_, ?_⟩
  · rw [Component.compose, compose, composeAll_of_slotNames_eq_nil children [] _ hNames]
  · rw [unplaced_new, h]
    exact List.filter_eq_self.mpr (by simp [cellNames])

/-- However content is tagged, each piece of it is shown in its own cell, once, or
is left over. -/
theorem compose_new (config : Config) (children : List SlottedContent) :
    (Component.new config).Places children := by
  refine
    { compose_grid := ?_
      content := ?_
      unplaced_eq := ?_
      perm := ?_
      once := fun _ hChild => placed_once hChild
      nothing := ?_ }
  · intro grid hGrid
    by_cases hDim : config.hasDim = true
    · exact (compose_new_of_hasDim hDim children).trans
        (congrArg _ (config.containersFrom_filledCell children 0 1 _))
    · rw [Component.new, render_of_not_hasDim hDim] at hGrid
      cases hGrid
  · intro point hPoint
    by_cases hDim : config.hasDim = true
    · rw [Component.new, render_of_hasDim hDim] at hPoint
      rw [compose_new_of_hasDim hDim, List.tail_cons, contentAt_containersFrom _ _ hPoint]
      rfl
    · rw [Component.new, render_of_not_hasDim hDim] at hPoint
      cases hPoint
  · rw [unplaced_new]
    refine List.filter_congr ?_
    intro child _
    have hContains : (!(cellNames (Specification.parse config.dim).cellCount).contains child.slot) =
        decide (child.slot ∉ cellNames (Specification.parse config.dim).cellCount) := by simp
    rw [hContains]
    exact decide_eq_decide.mpr notMem_cellNames
  · have hPlaced : config.cellNumbers.flatMap (placedIn children) =
        (cellNames (Specification.parse config.dim).cellCount).flatMap fun name =>
          children.filter fun child => child.slot == name := by
      rw [cellNames, List.flatMap_map]
      rfl
    rw [unplaced_new]
    exact hPlaced ▸ perm_of_names _ (nodup_cellNames _) children
  · intro hNothing
    refine compose_new_of_cellCount_eq_zero ?_ children
    by_cases hDim : config.hasDim = true
    · have hEmpty := hNothing _ (render_of_hasDim hDim)
      rw [layOut, rows_layOutFrom, containersFrom, List.mapIdx_eq_nil_iff] at hEmpty
      simp [Specification.cellCount, hEmpty]
    · rw [parse_of_not_hasDim hDim]
      rfl

end SlotGrid
