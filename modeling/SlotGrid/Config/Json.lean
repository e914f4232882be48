import SlotGrid.Config.Basic
import SlotGrid.Json.Record
import SlotGrid.Json.Value

/-!
# Configurations in JSON

A configuration is written as an object with one member for every part of it,
spacing being an object inside. It is read from an object, in which the parts
of the element's attributes may also be named in camel case, or from an array
of the parts in order; parts that are missing keep their defaults.

## Main definitions

* `Config.toJson` — the JSON value of a configuration.
* `spacingShape`, `configShape` — the fields that are read.
* `Config.ofJson` — the configuration that a text holds.
* `Config.faultMessage` — what is said about a text that holds none.
-/

namespace SlotGrid

open Style (Spacing)
open Json (Fault Field Shape Value)

/-- The JSON value of spacing. -/
def spacingJson (spacing : Spacing) : Value :=
  .object [("row", .string spacing.row), ("col", .string spacing.column)]

/-- The JSON value of a configuration. -/
def Config.toJson (config : Config) : Value :=
  .object
    [("dim", .string config.dim),
     ("slot-style", .string config.slotStyle),
     ("cell-style", .string config.cellStyle),
     ("row-style", .string config.rowStyle),
     ("no-fillers", .boolean config.noFillers),
     ("spacing", spacingJson config.spacing)]

/-- The fields of spacing. -/
def spacingShape : Shape Spacing where
  name := "GridSpacing"
  blank := .default
  fields :=
    [.string "row" [] fun spacing value => { spacing with row := value },
     .string "col" [] fun spacing value => { spacing with column := value }]

/-- The fields of a configuration. -/
def configShape : Shape Config where
  name := "GridConfig"
  blank := .default
  fields :=
    [.string "dim" [] fun config value => { config with dim := value },
     .string "slot-style" ["slotStyle"] fun config value => { config with slotStyle := value },
     .string "cell-style" ["cellStyle"] fun config value => { config with cellStyle := value },
     .string "row-style" ["rowStyle"] fun config value => { config with rowStyle := value },
     .boolean "no-fillers" ["noFillers"] fun config value => { config with noFillers := value },
     .record "spacing" [] spacingShape fun config value => { config with spacing := value }]

/-- The configuration that a text holds. -/
def Config.ofJson (text : String) : Except Fault Config := configShape.parse text.toList

/-- What is said about a text that holds no configuration. -/
def Config.faultMessage (text : String) (fault : Fault) : String :=
  "invalid grid config JSON: " ++ fault.report text.toList

end SlotGrid
