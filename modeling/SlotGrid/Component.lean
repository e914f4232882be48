import SlotGrid.Config.Basic
import SlotGrid.Layout
import SlotGrid.Markup.Html
import SlotGrid.Slotting

/-!
# The grid component

A component holds a configuration and what it renders as: a grid, or a warning
when no specification is given. Every change of the configuration renders it
anew and counts as a generation.

## Main definitions

* `Rendered`, `render` — a grid or the warning; `Config.look`, the style of its
  cells and rows.
* `Component` — a configuration, its render and the number of renders;
  `Component.new`, `Component.default` and `Component.ofAttributes` make one.
* `Component.setAttribute`, `Component.removeAttribute`, `Component.setConfig` —
  the changes.
* `Component.shadowTree` — what the component shows, a style element first.
* `Component.compose` — the same with content in its insertion points.
-/

namespace SlotGrid

open Layout (CellStyle Grid InsertionPoint)
open Markup (Node)
open Slotting (SlottedContent)
open Style (Spacing hostRules)

/-- What a configuration renders as. -/
inductive Rendered where
  | warning
  | grid (grid : Grid)
  deriving Repr

/-- What the cells and rows of a configured grid look like. -/
def Config.look (config : Config) : CellStyle :=
  ⟨config.effectiveCellStyle, config.rowStyle, config.noFillers⟩

/-- Renders a configuration. -/
def render (config : Config) : Rendered :=
  if config.hasDim then .grid (Layout.compile config.look config.dim) else .warning

theorem render_of_hasDim {config : Config} (h : config.hasDim = true) :
    render config = .grid (Layout.layOut config.look (Specification.parse config.dim)) := by
  rw [render, if_pos h]
  rfl

theorem render_of_not_hasDim {config : Config} (h : ¬ config.hasDim = true) :
    render config = .warning := by
  rw [render, if_neg h]

theorem render_eq_warning_iff (config : Config) : render config = .warning ↔ config.dim = "" := by
  by_cases hDim : config.hasDim = true
  · simp [render_of_hasDim hDim, Config.hasDim_iff.mp hDim]
  · have hEmpty : config.dim = "" := Config.not_hasDim_iff.mp hDim
    simp [render_of_not_hasDim hDim, hEmpty]

/-- The message in place of a grid without a specification. -/
def warning : Node :=
  .element "i" .empty
    [.element "p" .empty
      [.text "[WARN] no grid dimensions specified. Make sure to include a ",
       .element "b" .empty [.text "non-empty"],
       .text " ",
       .element "code" .empty [.text "dim"],
       .text " attribute."]]

namespace Rendered

/-- Whether the warning is shown. -/
def isWarning : Rendered → Bool
  | .warning => true
  | .grid _ => false

/-- The grid, if there is one. -/
def grid? : Rendered → Option Grid
  | .warning => none
  | .grid shown => some shown

/-- The insertion points; the warning has none. -/
def points (rendered : Rendered) : List InsertionPoint :=
  (rendered.grid?.map Grid.points).getD []

end Rendered

/-- The element with all rules of a component. -/
def styleElement (spacing : Spacing) (rendered : Rendered) : Node :=
  let sheet := match rendered with
    | .warning => hostRules spacing
    | .grid grid => hostRules spacing ++ grid.stylesheet
  .element "style" .empty [.text sheet.css]

/-- A configuration, what it renders as, and a counter of its renders, which
goes back to zero after the last number of 64 bits. -/
structure Component where
  config : Config
  rendered : Rendered
  counter : UInt64
  deriving Repr

namespace Component

/-- A component that is rendered for the first time. -/
def new (config : Config) : Component := ⟨config, render config, 1⟩

/-- The component of a grid without attributes. -/
def default : Component := new .default

/-- The component of a grid with these attributes. -/
def ofAttributes (attributes : List (String × String)) : Component :=
  new (.ofAttributes attributes)

/-- The number of the present render. -/
def generation (component : Component) : Nat := component.counter.toNat

/-- Replaces the configuration and renders it. -/
def setConfig (component : Component) (config : Config) : Component :=
  ⟨config, render config, component.counter + 1⟩

/-- Gives an attribute a value; a name that means none changes nothing. -/
def setAttribute (component : Component) (name value : String) : Component :=
  match component.config.setNamed? name value with
  | some config => component.setConfig config
  | none => component

/-- Takes an attribute away; a name that means none changes nothing. -/
def removeAttribute (component : Component) (name : String) : Component :=
  match component.config.resetNamed? name with
  | some config => component.setConfig config
  | none => component

/-- What the component shows: its style element, then rows or the warning. -/
def shadowTree (component : Component) : List Node :=
  styleElement component.config.spacing component.rendered ::
    match component.rendered with
    | .warning => [warning]
    | .grid grid => grid.rows

theorem shadowTree_new_of_hasDim {config : Config} (h : config.hasDim = true) :
    (new config).shadowTree = styleElement config.spacing (render config) ::
      (Layout.layOut config.look (Specification.parse config.dim)).rows := by
  simp only [shadowTree, new, render_of_hasDim h]

theorem shadowTree_new_of_not_hasDim {config : Config} (h : ¬ config.hasDim = true) :
    (new config).shadowTree = [styleElement config.spacing (render config), warning] := by
  simp only [shadowTree, new, render_of_not_hasDim h]

/-- The HTML text of what the component shows. -/
def shadowHtml (component : Component) : String := Markup.html component.shadowTree

/-- What the component shows with content in its insertion points. -/
def compose (component : Component) (children : List SlottedContent) : List Node :=
  Slotting.compose component.shadowTree children

end Component

end SlotGrid
