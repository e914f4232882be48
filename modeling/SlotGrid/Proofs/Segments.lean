import SlotGrid.Proofs.TextParts
import SlotGrid.Specification

/-!
# Segments of a specification

A specification describes a row for every piece of its text that a semicolon
ends, and one for what follows the last semicolon unless that is empty. In two
cases it describes none although there are pieces: when its text is a lone
semicolon, and when there is one token in all.

## Main definitions

* `Row.texts` — the tokens of a row.
* `Collapses` — pieces that describe no rows.

## Main results

* `Text.flatten_wordsOf` — words lose nothing but the blank characters.
* `Specification.rows_parse_of_collapses`,
  `Specification.rows_parse_of_not_collapses` — the rows in terms of the pieces.
* `Specification.rows_parse_eq_nil_iff` — when there are no rows.
-/

namespace SlotGrid

/-! ## Words of a piece -/

namespace Text

/-- Words lose nothing but the blank characters. -/
theorem flatten_wordsOf (chars : List Char) :
    (wordsOf chars).flatten = chars.filter fun c => !isBlank c := by
  rw [wordsOf, List.flatten_filter_not_isEmpty]
  induction chars with
  | nil => rfl
  | cons c rest ih =>
      rw [List.splitOnP_cons_eq_if_modifyHead]
      by_cases hBlank : isBlank c = true
      · rw [if_pos hBlank, List.flatten_cons, ih]
        simp [hBlank]
      · obtain ⟨first, more, hSplit⟩ :=
          List.exists_cons_of_ne_nil (List.splitOnP_ne_nil isBlank rest)
        rw [if_neg hBlank, hSplit, List.modifyHead_cons, List.flatten_cons, List.cons_append,
          ← List.flatten_cons, ← hSplit, ih]
        simp [hBlank]

theorem mem_of_mem_words {text word : String} (h : word ∈ words text) {c : Char}
    (hc : c ∈ word.toList) : c ∈ text.toList := by
  obtain ⟨chars, hChars, rfl⟩ := List.mem_map.mp h
  rw [String.toList_ofList] at hc
  have hFlat : c ∈ (wordsOf text.toList).flatten := List.mem_flatten_of_mem hChars hc
  rw [flatten_wordsOf] at hFlat
  exact (List.mem_filter.mp hFlat).1

end Text

/-! ## Rows of the pieces -/

namespace Row

/-- The tokens of a row as they were written. -/
def texts (row : Row) : List String := row.cells.map TrackWidth.raw

@[simp] theorem length_texts (row : Row) : row.texts.length = row.length := List.length_map _

theorem texts_ofText (text : String) : (Row.ofText text).texts = Text.words text := by
  simp [texts, ofText, Function.comp_def]

theorem map_texts_ofText (texts : List String) :
    (texts.map Row.ofText).map Row.texts = texts.map Text.words := by
  rw [List.map_map]
  exact List.map_congr_left fun text _ => texts_ofText text

theorem texts_injective : Function.Injective texts := by
  intro row other h
  have hRaw : ∀ width otherWidth : TrackWidth, width.raw = otherWidth.raw → width = otherWidth := by
    intro width otherWidth hSame
    cases width
    cases otherWidth
    rwa [TrackWidth.mk.injEq]
  have hCells : row.cells = other.cells := (List.map_inj_right hRaw).mp h
  cases row
  cases other
  rwa [Row.mk.injEq]

end Row

theorem isSingleCell_iff (pieces : List String) :
    isSingleCell pieces = true ↔ ∃ token, pieces.map Text.words = [[token]] := by
  match pieces with
  | [] => simp [isSingleCell]
  | [piece] => simp [isSingleCell, List.length_eq_one_iff]
  | first :: second :: rest => simp [isSingleCell]

/-- Whether pieces of a text describe no rows although there are pieces: one of a
lone semicolon, or one with one token. -/
def Collapses (pieces : List String) : Prop :=
  pieces = [""] ∨ ∃ token, pieces.map Text.words = [[token]]

/-- Where there are two pieces or more, there are rows. -/
theorem Collapses.length_eq_one {pieces : List String} (h : Collapses pieces) :
    pieces.length = 1 := by
  rcases h with hLone | ⟨token, hToken⟩
  · rw [hLone]
    rfl
  · rw [← List.length_map Text.words, hToken]
    rfl

namespace Specification

theorem rows_parse_of_collapses {source : String} (h : Collapses (Text.pieces ';' source)) :
    (parse source).rows = [] := by
  rcases h with hLone | hToken
  · have hSegments : segments source = [] := if_pos hLone
    rw [parse, hSegments]
    rfl
  · have hSegments : segments source = Text.pieces ';' source := by
      refine if_neg ?_
      intro hLone
      rw [hLone] at hToken
      simp at hToken
    rw [parse, hSegments, if_pos ((isSingleCell_iff _).mpr hToken)]

/-- Unless they collapse, a specification has a row for every piece. -/
theorem rows_parse_of_not_collapses {source : String}
    (h : ¬ Collapses (Text.pieces ';' source)) :
    (parse source).rows = (Text.pieces ';' source).map Row.ofText := by
  have hSegments : segments source = Text.pieces ';' source := if_neg fun hLone => h (Or.inl hLone)
  have hSingle : ¬ isSingleCell (Text.pieces ';' source) = true := fun hTrue =>
    h (Or.inr ((isSingleCell_iff _).mp hTrue))
  rw [parse, hSegments, if_neg hSingle]

theorem rows_parse_eq_nil_iff (source : String) :
    (parse source).rows = [] ↔
      Text.pieces ';' source = [] ∨ Collapses (Text.pieces ';' source) := by
  by_cases hCollapses : Collapses (Text.pieces ';' source)
  · simp [rows_parse_of_collapses hCollapses, hCollapses]
  · simp [rows_parse_of_not_collapses hCollapses, hCollapses]

theorem rows_parse_of_ne_nil {source : String} (h : (parse source).rows ≠ []) :
    (parse source).rows = (Text.pieces ';' source).map Row.ofText :=
  rows_parse_of_not_collapses fun hCollapses => h (rows_parse_of_collapses hCollapses)

end Specification

end SlotGrid
