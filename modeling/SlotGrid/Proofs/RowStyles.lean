import Mathlib.Data.List.Nodup
import SlotGrid.Proofs.Changes
import SlotGrid.Proofs.Numbering
import SlotGrid.Proofs.TextParts

/-!
# Rules and the rows that they are for

The style element of a component holds two rules for every grid and one for each of its
rows. A row is told from the others by a class alone, and the rules find it by that
class, so the classes of different rows must not be mixed up: neither the row `grid-1`
with `grid-10`, nor a row with the class of all rows. This module shows that no two
rules of a component have the same selector, that the rules for a row are the one for
all rows and its own, and that looking up the selector of a row finds its own tracks.

## Main definitions

* `isClassSelectorOf` — selectors of a class that an element has.
* `Stylesheet.classRules` — the rules with such a selector.
* `classes`, `sheetOf` — the classes that the rules of a grid are for, and all rules of a
  component.
* `ruleText` — the text of a rule, written out.
* `Component.StylesRows` — what it means that each row has a rule of its own.

## Main results

* `Stylesheet.rule?_of_nodup` — where selectors differ, every rule is found.
* `rowClass_injective`, `rowClass_ne_anyRowClass` — classes of rows differ.
* `nodup_selectors`, `filter_selectors` — the selectors of a component.
* `rule?_sheetOf` — the rule that is found for a row.
* `Component.stylesRows_applyAll` — each row of a component has a rule of its own,
  whatever changes the component went through.
-/

namespace SlotGrid

open Layout
open Markup (Element Node)
open Style (Rule Spacing Stylesheet anyRowClass hostRules rowClass rowRule)

/-! ## Rules with different selectors -/

namespace Style

/-- Whether a selector is that of a class which an element has. -/
def isClassSelectorOf (element : Element) (selector : String) : Bool :=
  (Text.after? "." selector).any element.hasClass

theorem isClassSelectorOf_class (element : Element) (name : String) :
    isClassSelectorOf element ("." ++ name) = element.hasClass name := by
  rw [isClassSelectorOf, Text.after?_eq_some_iff.mpr rfl, Option.any_some]

namespace Stylesheet

/-- The selectors of a sheet, in order. -/
def selectors (sheet : Stylesheet) : List String := sheet.rules.map Rule.selector

/-- The rules for a class that an element has. -/
def classRules (sheet : Stylesheet) (element : Element) : List Rule :=
  sheet.rules.filter fun rule => isClassSelectorOf element rule.selector

theorem map_selector_classRules (sheet : Stylesheet) (element : Element) :
    (sheet.classRules element).map Rule.selector =
      sheet.selectors.filter (isClassSelectorOf element) := by
  rw [selectors, List.filter_map]
  rfl

/-- Where no two rules have the same selector, every rule is found by its own. -/
theorem rule?_of_nodup {sheet : Stylesheet} {rule : Rule} (hNodup : sheet.selectors.Nodup)
    (hRule : rule ∈ sheet.rules) : sheet.rule? rule.selector = some rule := by
  obtain ⟨before, after, hRules⟩ := List.append_of_mem hRule
  rw [rule?, List.find?_eq_some_iff_append]
  refine ⟨beq_self_eq_true _, before, after, hRules, ?_⟩
  intro other hOther
  rw [selectors, hRules, List.map_append, List.map_cons, List.nodup_append] at hNodup
  have hNe : other.selector ≠ rule.selector :=
    hNodup.2.2 _ (List.mem_map_of_mem hOther) _ List.mem_cons_self
  simpa using hNe

end Stylesheet

end Style

namespace Layout

/-! ## Selectors of a grid -/

theorem rowClass_injective : Function.Injective rowClass := by
  intro index other h
  have hChars : (slotName (index + 1)).toList = (slotName (other + 1)).toList := by
    simpa [rowClass, slotName] using congrArg String.toList h
  have hNumber : index + 1 = other + 1 := slotName_injective (String.toList_inj.mp hChars)
  omega

/-- The class of a row has a hyphen, and that of all rows has none. -/
theorem rowClass_ne_anyRowClass (index : Nat) : rowClass index ≠ anyRowClass := by
  intro h
  have hHyphen : '-' ∈ (rowClass index).toList := by simp [rowClass]
  rw [h] at hHyphen
  exact absurd hHyphen (by decide)

/-- The classes that the rules of a grid with so many rows are for. -/
def classes (count : Nat) : List String := anyRowClass :: (List.range count).map rowClass

theorem nodup_classes (count : Nat) : (classes count).Nodup := by
  rw [classes, List.nodup_cons]
  refine ⟨?_, List.Nodup.map rowClass_injective List.nodup_range⟩
  intro hMem
  obtain ⟨index, -, hClass⟩ := List.mem_map.mp hMem
  exact rowClass_ne_anyRowClass index hClass

/-- Of these classes a row has two, its own and that of all rows. -/
theorem filter_classes (style : CellStyle) {index count : Nat} (h : index < count)
    (cells : List Node) :
    (classes count).filter (rowElement style index cells).hasClass =
      [anyRowClass, rowClass index] := by
  have hAny : (rowElement style index cells).hasClass anyRowClass = true :=
    (hasClass_rowElement style index cells _).mpr (Or.inl rfl)
  have hOwn : (rowElement style index cells).hasClass ∘ rowClass = (· == index) := by
    funext other
    rw [Bool.eq_iff_iff, Function.comp_apply, hasClass_rowElement, beq_iff_eq,
      rowClass_injective.eq_iff]
    exact or_iff_right (rowClass_ne_anyRowClass other)
  have hOnce : (List.range count).count index = 1 :=
    List.count_eq_one_of_mem List.nodup_range (List.mem_range.mpr h)
  rw [classes, List.filter_cons_of_pos hAny, List.filter_map, hOwn, List.filter_beq, hOnce]
  rfl

/-- The rules for every grid and those of the rows. -/
def sheetOf (spacing : Spacing) (grid : Grid) : Stylesheet := hostRules spacing ++ grid.stylesheet

theorem selectors_sheetOf (spacing : Spacing) (style : CellStyle) (specification : Specification) :
    (sheetOf spacing (layOut style specification)).selectors =
      ":host" :: (classes specification.rows.length).map ("." ++ ·) := by
  have hRows : (layOut style specification).stylesheet.rules.map Rule.selector =
      ((List.range specification.rows.length).map rowClass).map ("." ++ ·) := by
    rw [layOut, rules_layOutFrom]
    apply List.ext_getElem?
    intro index
    by_cases hIndex : index < specification.rows.length
    · simp [hIndex, rowRule]
    · simp [hIndex]
  rw [Stylesheet.selectors, sheetOf, Stylesheet.rules_append, List.map_append, hRows]
  rfl

theorem nodup_selectors (spacing : Spacing) (style : CellStyle) (specification : Specification) :
    (sheetOf spacing (layOut style specification)).selectors.Nodup := by
  have hDot : Function.Injective ("." ++ · : String → String) := by
    intro name other h
    have hChars : name.toList = other.toList := by simpa using congrArg String.toList h
    exact String.toList_inj.mp hChars
  rw [selectors_sheetOf, List.nodup_cons]
  refine ⟨?_, (nodup_classes _).map hDot⟩
  intro hMem
  obtain ⟨name, -, hHost⟩ := List.mem_map.mp hMem
  simpa using congrArg String.toList hHost

/-- The selectors for the classes of a row. -/
theorem filter_selectors (spacing : Spacing) (style : CellStyle) (specification : Specification)
    {index : Nat} (h : index < specification.rows.length) (cells : List Node) :
    (sheetOf spacing (layOut style specification)).selectors.filter
        (Style.isClassSelectorOf (rowElement style index cells)) =
      ["." ++ anyRowClass, "." ++ rowClass index] := by
  have hClass : Style.isClassSelectorOf (rowElement style index cells) ∘ ("." ++ ·) =
      (rowElement style index cells).hasClass :=
    funext (Style.isClassSelectorOf_class (rowElement style index cells))
  have hHost : ¬ Style.isClassSelectorOf (rowElement style index cells) ":host" = true := by
    have hNone : Text.after? "." ":host" = none := by decide
    rw [Style.isClassSelectorOf, hNone]
    exact Bool.false_ne_true
  rw [selectors_sheetOf, List.filter_cons_of_neg hHost, List.filter_map, hClass,
    filter_classes style h]
  rfl

theorem rule?_sheetOf (spacing : Spacing) (style : CellStyle) {specification : Specification}
    {index : Nat} {row : Row} (h : specification.rows[index]? = some row) :
    (sheetOf spacing (layOut style specification)).rule? ("." ++ rowClass index) =
      some (rowRule index row.templateColumns) := by
  have hMem : rowRule index row.templateColumns ∈
      (sheetOf spacing (layOut style specification)).rules := by
    rw [sheetOf, Stylesheet.rules_append, layOut, rules_layOutFrom]
    refine List.mem_append_right _ (List.mem_iff_getElem?.mpr ⟨index, ?_⟩)
    simp [h]
  exact Stylesheet.rule?_of_nodup (nodup_selectors spacing style specification) hMem

theorem value?_rowRule (index : Nat) (templateColumns : String) :
    (rowRule index templateColumns).value? "grid-template-columns" = some templateColumns := by
  simp [rowRule, Rule.value?]

end Layout

/-! ## Rows of a component -/

/-- The text of a rule: its declarations stand in braces behind the selector, each on a
line of its own. -/
def ruleText (rule : Rule) : String :=
  rule.selector ++ " \x7b\n" ++
    String.join (rule.declarations.map fun declaration =>
      "    " ++ declaration.property ++ ": " ++ declaration.value ++ ";\n") ++ "\x7d\n"

namespace Component

/-- What it means that each row of a component has a rule of its own: among the rules in
the style element, which come before the row containers in the tree. -/
structure StylesRows (component : Component) (grid : Grid) : Prop where
  /-- The style element holds the text of the rules for every grid and of those of the
  rows, one after the other. -/
  shadowTree_eq : component.shadowTree =
    .element "style" .empty
      [.text (String.join ((sheetOf component.config.spacing grid).rules.map ruleText))] ::
      grid.rows
  /-- No two of these rules have the same selector. -/
  selectors_nodup : (sheetOf component.config.spacing grid).selectors.Nodup
  /-- There is one container for every row that is specified. -/
  length_rows : grid.rows.length = (Specification.parse component.config.dim).rows.length
  /-- The rules for the classes of a container are the one for all rows and its own, and
  its own has the tracks of the row. -/
  row : ∀ (index : Nat) (node : Node), grid.rows[index]? = some node →
    ∃ (container : Element) (row : Row) (rule : Rule), node = container.node ∧
      (Specification.parse component.config.dim).rows[index]? = some row ∧
      ((sheetOf component.config.spacing grid).classRules container).map Rule.selector =
        [".gridrow", ".grid-" ++ toString (index + 1)] ∧
      (sheetOf component.config.spacing grid).rule? ("." ++ rowClass index) = some rule ∧
      rule.value? "grid-template-columns" = some row.templateColumns

/-- A component whose render is that of its configuration has a rule for each row. -/
theorem stylesRows_of_rendered {component : Component} {grid : Grid}
    (hRendered : component.rendered = render component.config)
    (hGrid : component.rendered = .grid grid) : component.StylesRows grid := by
  have hDim : component.config.hasDim = true := by
    by_contra hNone
    rw [hRendered, render_of_not_hasDim hNone] at hGrid
    cases hGrid
  have hLaidOut := hGrid
  rw [hRendered, render_of_hasDim hDim] at hLaidOut
  obtain rfl := Rendered.grid.inj hLaidOut
  refine
    { shadowTree_eq := ?_
      selectors_nodup := nodup_selectors _ _ _
      length_rows := length_rows_layOut _ _
      row := ?_ }
  · simp only [shadowTree, styleElement, hGrid]
    rfl
  · intro index node hNode
    rw [layOut, rows_layOutFrom, containersFrom, List.getElem?_mapIdx, Option.map_eq_some_iff]
      at hNode
    obtain ⟨row, hRow, rfl⟩ := hNode
    have hIndex := (List.getElem?_eq_some_iff.mp hRow).1
    rw [Nat.zero_add]
    refine ⟨_, row, _, rowContainer_eq_node _ _ _, hRow, ?_, rule?_sheetOf _ _ hRow,
      value?_rowRule _ _⟩
    rw [Stylesheet.map_selector_classRules, filter_selectors _ _ _ hIndex]
    simp [anyRowClass, rowClass, ← String.append_assoc]

/-- Each row of a component has a rule of its own, whatever changes the component went
through. -/
theorem stylesRows_applyAll (origin : Origin) (changes : List Change) {grid : Grid}
    (h : (origin.component.applyAll changes).rendered = .grid grid) :
    (origin.component.applyAll changes).StylesRows grid :=
  stylesRows_of_rendered (rendered_applyAll changes (rendered_component origin)) h

/-- The first and the tenth of ten rows, of which the others have no cells. -/
theorem stylesRows_tenRows :
    ∃ grid : Grid,
      ((Origin.attributes [("dim", "100")]).component.applyAll
        [.setAttribute "DIM" "60 40;;;;;;;;;50 50"]).rendered = .grid grid ∧
      grid.rows.length = 10 ∧
      ((Origin.attributes [("dim", "100")]).component.applyAll
        [.setAttribute "DIM" "60 40;;;;;;;;;50 50"]).StylesRows grid := by
  have hDim : ((Origin.attributes [("dim", "100")]).component.applyAll
      [.setAttribute "DIM" "60 40;;;;;;;;;50 50"]).config.hasDim = true := by decide
  have hRendered := (rendered_applyAll [.setAttribute "DIM" "60 40;;;;;;;;;50 50"]
    (rendered_component (.attributes [("dim", "100")]))).trans (render_of_hasDim hDim)
  refine ⟨_, hRendered, ?_, stylesRows_applyAll _ _ hRendered⟩
  rw [length_rows_layOut]
  decide

end Component

end SlotGrid
