import SlotGrid.Style.Stylesheet

/-!
# Rules of a grid

Every row of a grid has a class of its own and a rule that lays out its tracks.
Two further rules hold for every grid: the host carries the spacing in two
custom properties, and each row is padded by one of them. Spacing given to the
component is a fallback; a property that the page sets on the host wins.

## Main definitions

* `Spacing` — the space below rows and between columns.
* `rowClass`, `rowRule` — the class and the rule of a row, rows counted from
  zero.
* `hostRules` — the rules that hold for every grid.
-/

namespace SlotGrid.Style

/-- The space that a page leaves below each row and between columns, unless it
sets its own. -/
structure Spacing where
  row : String
  column : String
  deriving DecidableEq, Repr

/-- The space of a grid that says nothing about it. -/
def Spacing.default : Spacing := ⟨"10px", "10px"⟩

/-- The class of all rows. -/
def anyRowClass : String := "gridrow"

/-- A reference to a custom property. -/
def reference (property : String) : String := "var(" ++ property ++ ")"

/-- A reference to a custom property with a fallback. -/
def referenceOr (property fallback : String) : String :=
  "var(" ++ property ++ ", " ++ fallback ++ ")"

/-- The class of the row with this index; classes count rows from one. -/
def rowClass (index : Nat) : String := "grid-" ++ toString (index + 1)

/-- The rule of the row with this index. -/
def rowRule (index : Nat) (templateColumns : String) : Rule :=
  ⟨"." ++ rowClass index,
    [⟨"display", "grid"⟩,
     ⟨"grid-template-columns", templateColumns⟩,
     ⟨"grid-gap", reference "--gridspace-col"⟩]⟩

/-- The rules that hold for every grid. -/
def hostRules (spacing : Spacing) : Stylesheet :=
  ⟨[⟨":host",
      [⟨"--gridspace-row", referenceOr "--dd-gridspace-row" spacing.row⟩,
       ⟨"--gridspace-col", referenceOr "--dd-gridspace-col" spacing.column⟩]⟩,
    ⟨"." ++ anyRowClass, [⟨"padding-bottom", reference "--gridspace-row"⟩]⟩]⟩

end SlotGrid.Style
