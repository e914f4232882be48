import SlotGrid.Style.GridRules
import SlotGrid.Text.Blank

/-!
# Configuration of a grid

A grid is configured by attributes of the element that stands for it. Names of
attributes are matched without regard to the case of ASCII letters, and a later
attribute replaces the value of an earlier one.

## Main definitions

* `Config` — everything that a grid can be configured with.
* `Config.Attribute` — the attributes that configure it, and
  `Config.Attribute.ofName?`, the one that a name means.
* `Config.set`, `Config.reset` — giving an attribute a value and taking it away.
* `Config.ofAttributes` — the configuration that pairs of names and values make.
* `Config.effectiveCellStyle` — the style of every cell.
-/

namespace SlotGrid

open Style (Spacing)

/-- What a grid is configured with. -/
structure Config where
  /-- The specification of the grid. -/
  dim : String
  /-- One of two styles of every cell. -/
  slotStyle : String
  /-- The other style of every cell. -/
  cellStyle : String
  /-- The style of every row. -/
  rowStyle : String
  /-- Whether cells without content stay empty. -/
  noFillers : Bool
  /-- The space between cells. -/
  spacing : Spacing
  deriving DecidableEq, Repr

/-- An attribute that configures a grid. -/
inductive Config.Attribute where
  | dim
  | slotStyle
  | cellStyle
  | rowStyle
  | noFillers
  | rowSpacing
  | columnSpacing
  deriving DecidableEq, Repr

namespace Config

namespace Attribute

/-- Every attribute. -/
def all : List Attribute :=
  [.dim, .slotStyle, .cellStyle, .rowStyle, .noFillers, .rowSpacing, .columnSpacing]

/-- The name of an attribute in lower case. -/
def name : Attribute → String
  | .dim => "dim"
  | .slotStyle => "slot-style"
  | .cellStyle => "cell-style"
  | .rowStyle => "row-style"
  | .noFillers => "no-fillers"
  | .rowSpacing => "--dd-gridspace-row"
  | .columnSpacing => "--dd-gridspace-col"

/-- A name with its ASCII letters in lower case. -/
def fold (name : String) : String := String.ofList (name.toList.map Char.toLower)

/-- The attribute that a name means. -/
def ofName? (name : String) : Option Attribute :=
  all.find? fun part => part.name == fold name

example : ofName? "Row-STYLE" = some .rowStyle := by decide

example : ofName? "title" = none := by decide

end Attribute

/-- The configuration of a grid without attributes. -/
def default : Config := ⟨"", "", "", "", false, .default⟩

/-- Gives an attribute a value. The presence of `no-fillers` counts, whatever
its value; spacing is taken without the blank characters around it. -/
def set (config : Config) (part : Attribute) (value : String) : Config :=
  match part with
  | .dim => { config with dim := value }
  | .slotStyle => { config with slotStyle := value }
  | .cellStyle => { config with cellStyle := value }
  | .rowStyle => { config with rowStyle := value }
  | .noFillers => { config with noFillers := true }
  | .rowSpacing => { config with spacing := { config.spacing with row := Text.trim value } }
  | .columnSpacing => { config with spacing := { config.spacing with column := Text.trim value } }

/-- Takes an attribute away, so that its part of the configuration is the one
of a grid without attributes. -/
def reset (config : Config) (part : Attribute) : Config :=
  match part with
  | .dim => { config with dim := default.dim }
  | .slotStyle => { config with slotStyle := default.slotStyle }
  | .cellStyle => { config with cellStyle := default.cellStyle }
  | .rowStyle => { config with rowStyle := default.rowStyle }
  | .noFillers => { config with noFillers := default.noFillers }
  | .rowSpacing => { config with spacing := { config.spacing with row := default.spacing.row } }
  | .columnSpacing =>
    { config with spacing := { config.spacing with column := default.spacing.column } }

/-- Gives the attribute of this name a value, when the name means one. -/
def setNamed? (config : Config) (name value : String) : Option Config :=
  (Attribute.ofName? name).map fun part => config.set part value

/-- Takes the attribute of this name away, when the name means one. -/
def resetNamed? (config : Config) (name : String) : Option Config :=
  (Attribute.ofName? name).map config.reset

/-- Gives attributes their values in order; names that mean none change
nothing. -/
def setAll (config : Config) (attributes : List (String × String)) : Config :=
  attributes.foldl (fun config pair => (config.setNamed? pair.1 pair.2).getD config) config

/-- The configuration of a grid with these attributes. -/
def ofAttributes (attributes : List (String × String)) : Config := default.setAll attributes

/-- Whether a specification is given. -/
def hasDim (config : Config) : Bool := config.dim != ""

theorem hasDim_iff {config : Config} : config.hasDim = true ↔ config.dim ≠ "" := by
  simp [hasDim]

theorem not_hasDim_iff {config : Config} : ¬ config.hasDim = true ↔ config.dim = "" := by
  simp [hasDim]

/-- The style of every cell: both styles, or the one that is not empty. -/
def effectiveCellStyle (config : Config) : String :=
  " ".intercalate ([config.slotStyle, config.cellStyle].filter (· != ""))

end Config

end SlotGrid
