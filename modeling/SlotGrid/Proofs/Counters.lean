import Mathlib.Algebra.BigOperators.Group.List.Basic
import SlotGrid.Proofs.BlankMargins

/-!
# Counters of 64 bits

Rows and cells are numbered by counting, and a counter holds a number of 64 bits. Here
the cells of a grid are counted and numbered with such counters. What becomes of a sum
that is too great is left open: it may go on from zero, or end the count. Neither ever
happens, because a text is never long enough. A row takes a character at least, and two
cells take one each and a blank character or a semicolon between them, so that at most
every other character begins a cell.

## Main definitions

* `Counting` — how counters are added, whatever becomes of a sum that does not fit;
  `Counting.wrapping` and `Counting.checked`.
* `Counting.cellCount`, `Counting.layOutCells`, `Counting.layOutRows`,
  `Counting.compile` — the count of the cells, and the layout with counters.

## Main results

* `Text.two_mul_length_words_le` — at most every other character of a text begins a word.
* `Specification.length_rows_parse_le_length`, `Specification.cellCount_parse_le` — how
  many rows and cells a text can have.
* `Counting.exists_layOutCells_eq`, `Counting.layOutRows_eq` — where the numbers fit, cells
  and rows are numbered as without a limit.
* `compile_counting_eq` — counters never reach their limit.
-/

namespace SlotGrid

/-! ## How many words a text can have -/

namespace Text

/-- A list is split into one part more than there are places to split it at. -/
theorem length_splitOnP (separates : Char → Bool) (chars : List Char) :
    (chars.splitOnP separates).length = chars.countP separates + 1 := by
  induction chars with
  | nil => rfl
  | cons c rest ih =>
      rw [List.splitOnP_cons_eq_if_modifyHead]
      by_cases hc : separates c = true
      · rw [if_pos hc, List.length_cons, ih, List.countP_cons_of_pos hc]
      · rw [if_neg hc, List.length_modifyHead, ih, List.countP_cons_of_neg hc]

/-- Every word has a character that is not blank. -/
theorem length_wordsOf_le_countP (chars : List Char) :
    (wordsOf chars).length ≤ chars.countP fun c => !isBlank c := by
  have hPositive : ∀ size ∈ (wordsOf chars).map List.length, 1 ≤ size := by
    intro size hSize
    obtain ⟨word, hWord, rfl⟩ := List.mem_map.mp hSize
    exact List.length_pos_iff.mpr (ne_nil_of_mem_wordsOf hWord)
  calc (wordsOf chars).length
      = ((wordsOf chars).map List.length).length := (List.length_map _).symm
    _ ≤ ((wordsOf chars).map List.length).sum := List.length_le_sum_of_one_le _ hPositive
    _ = (wordsOf chars).flatten.length := List.length_flatten.symm
    _ = chars.countP fun c => !isBlank c := by
        rw [flatten_wordsOf, List.countP_eq_length_filter]

/-- Between two words there is a blank character. -/
theorem length_wordsOf_le_countP_isBlank (chars : List Char) :
    (wordsOf chars).length ≤ chars.countP isBlank + 1 := by
  rw [← length_splitOnP]
  exact List.length_filter_le _ _

theorem two_mul_length_words_le (text : String) : 2 * (words text).length ≤ text.length + 1 := by
  have hCells := length_wordsOf_le_countP text.toList
  have hGaps := length_wordsOf_le_countP_isBlank text.toList
  have hAll : text.length =
      text.toList.countP isBlank + text.toList.countP fun c => !isBlank c := by
    rw [← String.length_toList, List.length_eq_countP_add_countP isBlank]
    simp
  rw [words, List.length_map]
  omega

/-! ## How many pieces a text can have -/

theorem length_endAll_cons (mark : Char) (text : String) (rest : List String) :
    (endAll mark (text :: rest)).length = text.length + 1 + (endAll mark rest).length := by
  rw [endAll, String.length_append, String.length_append, String.length_singleton]

/-- Texts with a mark behind each are as long as there are marks, at least. -/
theorem length_le_length_endAll (mark : Char) (texts : List String) :
    texts.length ≤ (endAll mark texts).length := by
  induction texts with
  | nil => exact Nat.zero_le _
  | cons text rest ih =>
      rw [length_endAll_cons, List.length_cons]
      omega

theorem IsCut.length_eq {mark : Char} {source last : String} {texts : List String}
    (h : IsCut mark source texts last) :
    source.length = (endAll mark texts).length + last.length := by
  rw [h.source_eq, String.length_append]

theorem length_pieces_le (mark : Char) (source : String) :
    (pieces mark source).length ≤ source.length := by
  obtain ⟨texts, last, h⟩ := exists_isCut mark source
  have hSource := h.length_eq
  have hTexts := length_le_length_endAll mark texts
  rw [h.pieces_eq]
  by_cases hLast : last = ""
  · rw [if_pos hLast]
    omega
  · -- the last piece has no mark behind it, but it is not empty
    have hPositive : 0 < last.toList.length := by
      rw [List.length_pos_iff]
      exact fun hNone => hLast (String.toList_eq_nil_iff.mp hNone)
    rw [String.length_toList] at hPositive
    rw [if_neg hLast, List.length_append, List.length_singleton]
    omega

/-- Only the last piece can lack the mark behind it. -/
theorem length_endAll_pieces_le (mark : Char) (source : String) :
    (endAll mark (pieces mark source)).length ≤ source.length + 1 := by
  obtain ⟨texts, last, h⟩ := exists_isCut mark source
  have hSource := h.length_eq
  rw [h.pieces_eq]
  by_cases hLast : last = ""
  · rw [if_pos hLast]
    omega
  · have hMore : (endAll mark [last]).length = last.length + 1 := length_endAll_cons mark last []
    rw [if_neg hLast, endAll_append, String.length_append, hMore]
    omega

theorem length_le_utf8ByteSize (text : String) : text.length ≤ text.utf8ByteSize := by
  induction text using String.push_induction with
  | empty => exact Nat.zero_le _
  | push text c ih =>
      have hByte := c.utf8Size_pos
      rw [String.length_push, String.utf8ByteSize_push]
      omega

end Text

/-! ## How many rows and cells a text can have -/

/-- The semicolon behind a row stands for the blank character that its last word lacks. -/
theorem two_mul_cellsIn_ofText_le (texts : List String) :
    2 * cellsIn (texts.map Row.ofText) ≤ (Text.endAll ';' texts).length := by
  induction texts with
  | nil => exact Nat.zero_le _
  | cons text rest ih =>
      have hWords := Text.two_mul_length_words_le text
      have hRow : (Row.ofText text).length = (Text.words text).length := List.length_map _
      rw [List.map_cons, cellsIn_cons, hRow, Text.length_endAll_cons]
      omega

namespace Specification

theorem length_rows_parse_le_length (source : String) :
    (parse source).rows.length ≤ source.length :=
  Nat.le_trans (length_rows_parse_le source) (Text.length_pieces_le ';' source)

theorem cellCount_parse_le (source : String) :
    (parse source).cellCount ≤ (source.length + 1) / 2 := by
  rw [cellCount]
  by_cases hRows : (parse source).rows = []
  · rw [hRows]
    exact Nat.zero_le _
  · have hCells := two_mul_cellsIn_ofText_le (Text.pieces ';' source)
    have hLength := Text.length_endAll_pieces_le ';' source
    rw [rows_parse_of_ne_nil hRows]
    omega

/-- A character takes a byte or more, so 64 bits are enough for the numbers of the rows and
the cells of a text of fewer than `2 ^ 63` bytes. -/
theorem fits_parse {source : String} (h : source.utf8ByteSize < 2 ^ 63) :
    (parse source).rows.length < 2 ^ 64 ∧ cellsIn (parse source).rows < 2 ^ 64 := by
  have hLength := Text.length_le_utf8ByteSize source
  have hRows := length_rows_parse_le_length source
  have hCells := cellCount_parse_le source
  rw [cellCount] at hCells
  constructor
  · omega
  · omega

end Specification

namespace Layout

open Markup (Element Node)
open Style (rowRule anyRowClass)

/-! ## Counting with 64 bits -/

/-- How counters are added. The sum is exact where it fits in 64 bits; what becomes of
any other is left to the monad. -/
structure Counting (m : Type → Type) [Monad m] where
  add : UInt64 → UInt64 → m UInt64
  add_of_fits : ∀ a b : UInt64, a.toNat + b.toNat < 2 ^ 64 → add a b = pure (a + b)

namespace Counting

/-- Behind the last number, counters go on from zero. -/
def wrapping : Counting Id where
  add a b := a + b
  add_of_fits _ _ _ := rfl

/-- Behind the last number, nothing is counted any more. -/
def checked : Counting Option where
  add a b := if a.toNat + b.toNat < 2 ^ 64 then some (a + b) else none
  add_of_fits _ _ hFits := if_pos hFits

/-- Behind the last number of 64 bits there is none, or zero. -/
example : checked.add 18446744073709551615 1 = none ∧
    (wrapping.add 18446744073709551615 1).run = 0 := by decide

variable {m : Type → Type} [Monad m] (counting : Counting m)

/-- The number of cells in rows, row by row. -/
def cellCount (rows : List Row) : m UInt64 :=
  rows.foldlM (fun sum row => counting.add sum (UInt64.ofNat row.length)) 0

/-- The cells of a row that is laid out, and the number of the last cell so far. -/
structure NumberedCells where
  cells : List Node
  points : List InsertionPoint
  counter : UInt64

/-- Lays out the rest of the cells of a row: the column of the next cell and the number of
the last one are given. -/
def layOutCells (style : CellStyle) (index column counter : UInt64) :
    List TrackWidth → m NumberedCells
  | [] => pure ⟨[], [], counter⟩
  | _ :: rest => do
    let id ← counting.add counter 1
    let next ← counting.add column 1
    let after ← layOutCells style index next id rest
    pure ⟨cell style id.toNat :: after.cells,
      ⟨id.toNat, index.toNat, column.toNat⟩ :: after.points, after.counter⟩

/-- The class of the row with this number. -/
def numberedClass (number : UInt64) : String := "grid-" ++ toString number.toNat

/-- The grid of one row. Its number is in its class, and so in the selector of its rule. -/
def numberedRow (style : CellStyle) (index number : UInt64) (row : Row)
    (numbered : NumberedCells) : Grid where
  stylesheet :=
    ⟨[{ rowRule index.toNat row.templateColumns with selector := "." ++ numberedClass number }]⟩
  rows :=
    [((((Element.new "div").setAttribute "class"
        (anyRowClass ++ " " ++ numberedClass number)).setAttribute
          "style" style.row).append numbered.cells).node]
  points := numbered.points

/-- Lays out the rest of the rows: the index of the next row and the number of the last
cell are given. -/
def layOutRows (style : CellStyle) (index counter : UInt64) : List Row → m Grid
  | [] => pure .empty
  | row :: rest => do
    let numbered ← counting.layOutCells style index 0 counter row.cells
    -- the number of a row, in its class and in the log, is also the index of the next one
    let number ← counting.add index 1
    let here := numberedRow style index number row numbered
    let below ← layOutRows style number numbered.counter rest
    pure ⟨here.stylesheet ++ below.stylesheet, here.rows ++ below.rows,
      here.points ++ below.points⟩

/-- The grid of the specification that a text describes. Room is made for its insertion
points first, so its cells are counted. -/
def compile (style : CellStyle) (source : String) : m Grid := do
  let rows := (Specification.parse source).rows
  let _ ← counting.cellCount rows
  counting.layOutRows style 0 0 rows

/-! ## Where the numbers fit -/

theorem toNat_add_of_fits {a b : UInt64} (h : a.toNat + b.toNat < 2 ^ 64) :
    (a + b).toNat = a.toNat + b.toNat := by
  rw [UInt64.toNat_add, Nat.mod_eq_of_lt h]

/-- A counter that can go on does so. -/
theorem exists_add_one_eq {counter : UInt64} (h : counter.toNat + 1 < 2 ^ 64) :
    ∃ next : UInt64, counting.add counter 1 = pure next ∧ next.toNat = counter.toNat + 1 :=
  ⟨counter + 1, counting.add_of_fits counter 1 h, toNat_add_of_fits h⟩

variable [LawfulMonad m]

/-- The count of the cells goes on from any number of them. -/
theorem exists_foldlM_add_eq {sum : UInt64} {rows : List Row}
    (h : sum.toNat + cellsIn rows < 2 ^ 64) :
    ∃ total : UInt64,
      rows.foldlM (fun sum row => counting.add sum (UInt64.ofNat row.length)) sum = pure total ∧
        total.toNat = sum.toNat + cellsIn rows := by
  induction rows generalizing sum with
  | nil => exact ⟨sum, rfl, rfl⟩
  | cons row rest ih =>
      rw [cellsIn_cons] at h
      have hRow : (UInt64.ofNat row.length).toNat = row.length :=
        UInt64.toNat_ofNat_of_lt' (show row.length < 2 ^ 64 by omega)
      have hFits : sum.toNat + (UInt64.ofNat row.length).toNat < 2 ^ 64 := by omega
      have hSum := toNat_add_of_fits hFits
      obtain ⟨total, hTotal, hCells⟩ := ih (show
        (sum + UInt64.ofNat row.length).toNat + cellsIn rest < 2 ^ 64 by omega)
      refine ⟨total, ?_, ?_⟩
      · rw [List.foldlM_cons, counting.add_of_fits _ _ hFits, pure_bind, hTotal]
      · rw [cellsIn_cons]
        omega

theorem exists_cellCount_eq {rows : List Row} (h : cellsIn rows < 2 ^ 64) :
    ∃ total : UInt64, counting.cellCount rows = pure total ∧ total.toNat = cellsIn rows := by
  have hFits : (0 : UInt64).toNat + cellsIn rows < 2 ^ 64 := by
    rwa [UInt64.toNat_zero, Nat.zero_add]
  obtain ⟨total, hTotal, hCells⟩ := counting.exists_foldlM_add_eq hFits
  rw [UInt64.toNat_zero, Nat.zero_add] at hCells
  exact ⟨total, hTotal, hCells⟩

/-- The cells of a row get the numbers behind that of the last cell, and their columns. -/
theorem exists_layOutCells_eq (style : CellStyle) (index : UInt64) {column counter : UInt64}
    {widths : List TrackWidth} (hColumn : column.toNat + widths.length < 2 ^ 64)
    (hCounter : counter.toNat + widths.length < 2 ^ 64) :
    ∃ last : UInt64, last.toNat = counter.toNat + widths.length ∧
      counting.layOutCells style index column counter widths = pure
        ⟨(List.range widths.length).map fun offset => cell style (counter.toNat + 1 + offset),
          (List.range widths.length).map fun offset =>
            ⟨counter.toNat + 1 + offset, index.toNat, column.toNat + offset⟩, last⟩ := by
  induction widths generalizing column counter with
  | nil => exact ⟨counter, rfl, rfl⟩
  | cons width rest ih =>
      rw [List.length_cons] at hColumn hCounter
      obtain ⟨id, hAdd, hId⟩ :=
        counting.exists_add_one_eq (show counter.toNat + 1 < 2 ^ 64 by omega)
      obtain ⟨next, hAddColumn, hNext⟩ :=
        counting.exists_add_one_eq (show column.toNat + 1 < 2 ^ 64 by omega)
      obtain ⟨last, hLast, hRest⟩ := ih (show next.toNat + rest.length < 2 ^ 64 by omega)
        (show id.toNat + rest.length < 2 ^ 64 by omega)
      refine ⟨last, ?_, ?_⟩
      · rw [List.length_cons]
        omega
      · rw [layOutCells, hAdd, pure_bind, hAddColumn, pure_bind, hRest, pure_bind, hId, hNext,
          List.length_cons, List.range_succ_eq_map]
        simp [Function.comp_def, Nat.add_assoc, Nat.add_comm 1, Nat.add_comm 2]

/-- A row with its number is the row with its index. -/
theorem numberedRow_eq (style : CellStyle) {index number : UInt64} (row : Row)
    (numbered : NumberedCells) (h : number.toNat = index.toNat + 1) :
    numberedRow style index number row numbered =
      ⟨⟨[rowRule index.toNat row.templateColumns]⟩,
        [rowContainer style index.toNat numbered.cells], numbered.points⟩ := by
  rw [numberedRow, numberedClass, h]
  rfl

/-- Where the numbers of the rows and cells fit, rows are laid out as without a limit. -/
theorem layOutRows_eq (style : CellStyle) {index counter : UInt64} {rows : List Row}
    (hRows : index.toNat + rows.length < 2 ^ 64)
    (hCells : counter.toNat + cellsIn rows < 2 ^ 64) :
    counting.layOutRows style index counter rows =
      pure (layOutFrom style index.toNat (counter.toNat + 1) rows) := by
  induction rows generalizing index counter with
  | nil => rfl
  | cons row rest ih =>
      rw [List.length_cons] at hRows
      rw [cellsIn_cons, Row.length] at hCells
      have hFirst : (0 : UInt64).toNat = 0 := rfl
      obtain ⟨last, hLast, hRow⟩ := counting.exists_layOutCells_eq style index
        (show (0 : UInt64).toNat + row.cells.length < 2 ^ 64 by omega)
        (show counter.toNat + row.cells.length < 2 ^ 64 by omega)
      obtain ⟨number, hAdd, hNumber⟩ :=
        counting.exists_add_one_eq (show index.toNat + 1 < 2 ^ 64 by omega)
      have hBelow := ih (show number.toNat + rest.length < 2 ^ 64 by omega)
        (show last.toNat + cellsIn rest < 2 ^ 64 by omega)
      have hNext : last.toNat + 1 = counter.toNat + 1 + row.length := by
        rw [Row.length]
        omega
      rw [layOutRows, hRow, pure_bind, hAdd, pure_bind, hBelow, pure_bind, hNumber, hNext,
        numberedRow_eq style row _ hNumber, layOutFrom]
      simp [layOutRow, Row.length, hFirst]

/-- A text with fewer than `2 ^ 63` bytes is laid out as without a limit. -/
theorem compile_eq (style : CellStyle) {source : String} (h : source.utf8ByteSize < 2 ^ 63) :
    counting.compile style source = pure (Layout.compile style source) := by
  obtain ⟨hRows, hCells⟩ := Specification.fits_parse h
  obtain ⟨total, hTotal, -⟩ := counting.exists_cellCount_eq hCells
  have hIndex : (0 : UInt64).toNat + (Specification.parse source).rows.length < 2 ^ 64 := by
    rwa [UInt64.toNat_zero, Nat.zero_add]
  have hCounter : (0 : UInt64).toNat + cellsIn (Specification.parse source).rows < 2 ^ 64 := by
    rwa [UInt64.toNat_zero, Nat.zero_add]
  rw [compile, hTotal, pure_bind, counting.layOutRows_eq style hIndex hCounter]
  rfl

end Counting

/-- A text of `n` characters has at most `n` rows and half of `n + 1` cells, so counters of
64 bits are enough for any text of fewer than `2 ^ 63` bytes. Nothing changes if a sum that
does not fit would end the layout, or if it would go on from zero, because there is none. -/
theorem compile_counting_eq (style : CellStyle) (source : String) :
    (Specification.parse source).rows.length ≤ source.length ∧
    (Specification.parse source).cellCount ≤ (source.length + 1) / 2 ∧
    (source.utf8ByteSize < 2 ^ 63 →
      (Counting.checked.cellCount (Specification.parse source).rows).map UInt64.toNat =
        some (Specification.parse source).cellCount ∧
      Counting.checked.compile style source = some (compile style source) ∧
      (Counting.wrapping.compile style source).run = compile style source) := by
  refine ⟨Specification.length_rows_parse_le_length source,
    Specification.cellCount_parse_le source, ?_⟩
  intro hBytes
  obtain ⟨-, hCells⟩ := Specification.fits_parse hBytes
  obtain ⟨total, hTotal, hCount⟩ := Counting.checked.exists_cellCount_eq hCells
  refine ⟨?_, Counting.checked.compile_eq style hBytes, ?_⟩
  · rw [hTotal, Specification.cellCount, ← hCount]
    rfl
  · rw [Counting.wrapping.compile_eq style hBytes]
    rfl

/-- A text with more bytes than characters, and a row without cells. -/
theorem compile_counting_eq_wide :
    "70\u300030;;1fr".utf8ByteSize < 2 ^ 63 ∧
      Counting.checked.compile ⟨"", "", true⟩ "70\u300030;;1fr" =
        some (compile ⟨"", "", true⟩ "70\u300030;;1fr") ∧
      (Counting.wrapping.compile ⟨"", "", true⟩ "70\u300030;;1fr").run.points =
        [⟨1, 0, 0⟩, ⟨2, 0, 1⟩, ⟨3, 2, 0⟩] := by
  have hBytes : "70\u300030;;1fr".utf8ByteSize < 2 ^ 63 := by decide
  obtain ⟨-, -, hCounted⟩ := compile_counting_eq ⟨"", "", true⟩ "70\u300030;;1fr"
  obtain ⟨-, hChecked, hWrapping⟩ := hCounted hBytes
  refine ⟨hBytes, hChecked, ?_⟩
  rw [hWrapping]
  decide

end Layout

end SlotGrid
