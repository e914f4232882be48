import SlotGrid.Text.Blank
import SlotGrid.Text.Cut

/-!
# Grid specifications

A specification describes the rows of a grid: rows are separated by semicolons,
and a row is a list of width tokens separated by blank characters, as in
`70 30; 50 50;`. A token is never checked; it becomes the width of a column
track with a percent sign behind it.

Two texts that could describe a row describe none. A semicolon at the very end
opens no further row, and a grid of one row with one token needs no layout, so
it has no rows at all.

## Main definitions

* `TrackWidth`, `Row`, `Specification`; the widths in a row are words.
* `cellsIn` — the number of cells in rows.
* `segments` — the texts of the rows.
* `isSingleCell` — whether the segments hold one token in all.
* `Specification.parse` — the specification that a text describes.

## Main results

* `Row.words_templateColumns` — the list of track widths, read as words, has one
  width for every cell.
-/

namespace SlotGrid

/-- The width of one column track, as it was written. -/
structure TrackWidth where
  raw : String
  deriving DecidableEq, Repr

/-- The width as a percentage. -/
def TrackWidth.css (width : TrackWidth) : String := width.raw ++ "%"

/-- The tracks of one row, from left to right. A row is read from a text, so
every width in it is a word. -/
structure Row where
  cells : List TrackWidth
  isWord_raw : ∀ width ∈ cells, Text.IsWord width.raw
  deriving DecidableEq, Repr

namespace Row

/-- The row that a text describes: one track for every word. -/
def ofText (text : String) : Row where
  cells := (Text.words text).map TrackWidth.mk
  isWord_raw := by
    intro width hWidth
    obtain ⟨word, hWord, rfl⟩ := List.mem_map.mp hWidth
    exact Text.isWord_of_mem_words hWord

/-- The number of tracks. -/
def length (row : Row) : Nat := row.cells.length

/-- The list of track widths, separated by single spaces. -/
def templateColumns (row : Row) : String :=
  " ".intercalate (row.cells.map TrackWidth.css)

theorem isWord_css (row : Row) {width : TrackWidth} (h : width ∈ row.cells) :
    Text.IsWord width.css := by
  obtain ⟨-, hBlank⟩ := row.isWord_raw width h
  refine ⟨by simp [TrackWidth.css], ?_⟩
  intro c hc
  rw [TrackWidth.css, String.toList_append, List.mem_append] at hc
  rcases hc with hc | hc
  · exact hBlank c hc
  · have hPercent : c = '%' := by simpa using hc
    subst hPercent
    decide

/-- No width is lost, split or joined with another in the list of widths. -/
theorem words_templateColumns (row : Row) :
    Text.words row.templateColumns = row.cells.map TrackWidth.css := by
  refine Text.words_intercalate _ ?_
  intro word hWord
  obtain ⟨width, hWidth, rfl⟩ := List.mem_map.mp hWord
  exact row.isWord_css hWidth

end Row

/-- The number of cells in all rows together. -/
def cellsIn : List Row → Nat
  | [] => 0
  | row :: rest => row.length + cellsIn rest

@[simp] theorem cellsIn_nil : cellsIn [] = 0 := rfl

@[simp] theorem cellsIn_cons (row : Row) (rest : List Row) :
    cellsIn (row :: rest) = row.length + cellsIn rest := rfl

/-- The rows of a grid, in order. -/
structure Specification where
  rows : List Row
  deriving DecidableEq, Repr

/-- The texts of the rows of a specification. A semicolon ends each of them, and
a text that is empty but for a semicolon has none. -/
def segments (source : String) : List String :=
  let pieces := Text.pieces ';' source
  if pieces = [""] then [] else pieces

/-- Whether there is exactly one segment and exactly one word in it. -/
def isSingleCell : List String → Bool
  | [segment] => (Text.words segment).length == 1
  | _ => false

namespace Specification

/-- The specification that a text describes. -/
def parse (source : String) : Specification :=
  let segments := segments source
  if isSingleCell segments then ⟨[]⟩ else ⟨segments.map Row.ofText⟩

/-- The number of cells in all rows, which is also the greatest number of a
cell. -/
def cellCount (specification : Specification) : Nat := cellsIn specification.rows

end Specification

example : segments "50 50;30 30 40;" = ["50 50", "30 30 40"] := by decide

example : segments "50 50;;" = ["50 50", ""] := by decide

example : segments ";" = [] := by decide

example : (Specification.parse "100;").rows = [] := by decide

example : ((Specification.parse "70 30; 1fr").rows.map Row.templateColumns) =
    ["70% 30%", "1fr%"] := by decide

end SlotGrid
