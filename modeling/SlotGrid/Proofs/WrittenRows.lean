import SlotGrid.Proofs.Segments

/-!
# Rows that are written and read back

There are many ways to write the rows of a grid: blank characters may stand at
both ends of a row, any number of them between two tokens, and the last semicolon
may be missing. All of them are read alike. One way has single spaces and a
semicolon behind every row; every specification can be written like that.

## Main definitions

* `IsToken` — what a token can be.
* `WrittenRow` — a row as it is written, token by token, with its blank characters.
* `IsGrid` — rows that a specification can describe.
* `Specification.print` — the rows with single spaces, and with a semicolon behind
  each.

## Main results

* `WrittenRow.words_text` — the words of a row that is written are its tokens.
* `isGrid_iff` — what rows cannot be those of a specification.
* `Specification.parse_of_words` — rows are read back from pieces with their words.
* `Specification.parse_written` — rows are read back however they are written, and
  so are those of a specification that is printed.
-/

namespace SlotGrid

/-! ## Blank texts -/

namespace Text

/-- Whether a text holds nothing but blank characters. -/
def IsBlankText (text : String) : Prop := ∀ c ∈ text.toList, isBlank c = true

-- The characters of the text are tried, not all characters there are.
instance (text : String) : Decidable (IsBlankText text) := List.decidableBAll _ _

/-- Blank characters in front hold no words. -/
theorem wordsOf_blank_append {blanks : List Char} (h : ∀ c ∈ blanks, isBlank c = true)
    (rest : List Char) : wordsOf (blanks ++ rest) = wordsOf rest := by
  induction blanks with
  | nil => rfl
  | cons c blanks ih =>
      obtain ⟨hFirst, hMore⟩ := List.forall_mem_cons.mp h
      calc wordsOf (c :: (blanks ++ rest))
          = wordsOf [] ++ wordsOf (blanks ++ rest) := wordsOf_append_blank hFirst [] _
        _ = wordsOf (blanks ++ rest) := rfl
        _ = wordsOf rest := ih hMore

/-- A word ends at blank characters. -/
theorem wordsOf_word_append {word gap : String} (hWord : IsWord word) (hGap : IsBlankText gap)
    (hNonempty : gap ≠ "") (rest : List Char) :
    wordsOf (word.toList ++ (gap.toList ++ rest)) = word.toList :: wordsOf rest := by
  rw [IsBlankText] at hGap
  cases hChars : gap.toList with
  | nil => exact absurd (String.toList_eq_nil_iff.mp hChars) hNonempty
  | cons c more =>
      rw [hChars] at hGap
      obtain ⟨hFirst, hMore⟩ := List.forall_mem_cons.mp hGap
      rw [List.cons_append, wordsOf_append_blank hFirst, wordsOf_toList_of_isWord hWord,
        wordsOf_blank_append hMore]
      rfl

theorem IsBlankText.notMem {text : String} (h : IsBlankText text) {c : Char}
    (hc : isBlank c = false) : c ∉ text.toList := by
  intro hMem
  rw [h c hMem] at hc
  cases hc

end Text

/-! ## Rows as they are written -/

/-- Whether a text can stand as a token: it is a word without a semicolon. -/
def IsToken (text : String) : Prop := Text.IsWord text ∧ ';' ∉ text.toList

instance (text : String) : Decidable (IsToken text) :=
  @instDecidableAnd _ _ inferInstance inferInstance

/-- A token as it is written, with the blank characters behind it. -/
structure WrittenToken where
  token : String
  gap : String
  isToken_token : IsToken token
  isBlankText_gap : Text.IsBlankText gap

/-- A row as it is written: blank characters, and then the tokens with the blank
characters behind each. Only the last token can have none behind it. -/
structure WrittenRow where
  padding : String
  items : List WrittenToken
  isBlankText_padding : Text.IsBlankText padding
  gap_ne_empty : ∀ item ∈ items.dropLast, item.gap ≠ ""

/-- The text of tokens that are written one behind the other. -/
def textOfItems : List WrittenToken → String
  | [] => ""
  | item :: rest => item.token ++ item.gap ++ textOfItems rest

private theorem toList_textOfItems_cons (item : WrittenToken) (rest : List WrittenToken) :
    (textOfItems (item :: rest)).toList =
      item.token.toList ++ (item.gap.toList ++ (textOfItems rest).toList) := by
  simp [textOfItems]

private theorem wordsOf_textOfItems {items : List WrittenToken}
    (hGaps : ∀ item ∈ items.dropLast, item.gap ≠ "") :
    Text.wordsOf (textOfItems items).toList = items.map fun item => item.token.toList := by
  induction items with
  | nil => rfl
  | cons item rest ih =>
      have hWord : Text.IsWord item.token := item.isToken_token.1
      rw [toList_textOfItems_cons]
      by_cases hGap : item.gap = ""
      · -- Only the last token has no blank characters behind it.
        cases rest with
        | nil => simpa [hGap, textOfItems] using Text.wordsOf_toList_of_isWord hWord
        | cons next rest => exact absurd hGap (hGaps item (by simp))
      · have hRest : ∀ other ∈ rest.dropLast, other.gap ≠ "" := by
          intro other hOther
          refine hGaps other ?_
          cases rest with
          | nil => cases hOther
          | cons next rest => exact List.mem_cons_of_mem item hOther
        rw [Text.wordsOf_word_append hWord item.isBlankText_gap hGap, ih hRest]
        rfl

private theorem semicolon_notMem_textOfItems (items : List WrittenToken) :
    ';' ∉ (textOfItems items).toList := by
  induction items with
  | nil => simp [textOfItems]
  | cons item rest ih =>
      have hGap : ';' ∉ item.gap.toList := item.isBlankText_gap.notMem (by decide)
      rw [toList_textOfItems_cons, List.mem_append, List.mem_append, not_or, not_or]
      exact ⟨item.isToken_token.2, hGap, ih⟩

namespace WrittenRow

/-- The text of a row. -/
def text (written : WrittenRow) : String := written.padding ++ textOfItems written.items

/-- The row without its blank characters. -/
def row (written : WrittenRow) : Row where
  cells := written.items.map fun item => ⟨item.token⟩
  isWord_raw := by
    intro width hWidth
    obtain ⟨item, -, rfl⟩ := List.mem_map.mp hWidth
    exact item.isToken_token.1

/-- The words of a row that is written are its tokens. -/
theorem words_text (written : WrittenRow) : Text.words written.text = written.row.texts := by
  rw [Text.words, text, String.toList_append,
    Text.wordsOf_blank_append written.isBlankText_padding,
    wordsOf_textOfItems written.gap_ne_empty]
  simp [row, Row.texts, Function.comp_def]

theorem semicolon_notMem_text (written : WrittenRow) : ';' ∉ written.text.toList := by
  have hPadding : ';' ∉ written.padding.toList := written.isBlankText_padding.notMem (by decide)
  rw [text, String.toList_append, List.mem_append, not_or]
  exact ⟨hPadding, semicolon_notMem_textOfItems written.items⟩

end WrittenRow

/-! ## Rows in the canonical way -/

namespace Row

/-- The tokens of a row with single spaces between them. -/
def print (row : Row) : String := " ".intercalate row.texts

theorem isWord_of_mem_texts {row : Row} {text : String} (h : text ∈ row.texts) :
    Text.IsWord text := by
  obtain ⟨width, hWidth, rfl⟩ := List.mem_map.mp h
  exact row.isWord_raw width hWidth

theorem words_print (row : Row) : Text.words row.print = row.texts :=
  Text.words_intercalate row.texts fun _ hText => isWord_of_mem_texts hText

theorem semicolon_notMem_intercalate {texts : List String}
    (h : ∀ text ∈ texts, ';' ∉ text.toList) : ';' ∉ (" ".intercalate texts).toList := by
  induction texts with
  | nil => simp
  | cons text rest ih =>
      obtain ⟨hText, hRest⟩ := List.forall_mem_cons.mp h
      cases rest with
      | nil => rwa [String.intercalate_singleton]
      | cons next rest =>
          rw [String.intercalate_cons_cons, String.toList_append, String.toList_append,
            List.mem_append, List.mem_append, not_or, not_or]
          exact ⟨⟨hText, by decide⟩, ih hRest⟩

/-- The tokens of a piece hold no semicolon. -/
theorem semicolon_notMem_texts_ofText {piece : String} (h : ';' ∉ piece.toList) :
    ∀ text ∈ (Row.ofText piece).texts, ';' ∉ text.toList := by
  intro text hText hMem
  rw [texts_ofText] at hText
  exact h (Text.mem_of_mem_words hText hMem)

/-- No space is a semicolon either. -/
theorem semicolon_notMem_print_ofText {piece : String} (h : ';' ∉ piece.toList) :
    ';' ∉ (Row.ofText piece).print.toList :=
  semicolon_notMem_intercalate (semicolon_notMem_texts_ofText h)

end Row

/-! ## Reading rows back -/

/-- Whether rows can be those of a specification: there are two or more, or there
is one with two or more cells. -/
def IsGrid (rows : List Row) : Prop := 2 ≤ rows.length ∨ ∃ row, rows = [row] ∧ 2 ≤ row.length

/-- Rows are those of a grid unless there are none, or one with one cell or none. -/
theorem isGrid_iff (rows : List Row) :
    IsGrid rows ↔ rows ≠ [] ∧ rows.map Row.texts ≠ [[]] ∧
      ∀ token, rows.map Row.texts ≠ [[token]] := by
  match rows with
  | [] => simp [IsGrid]
  | [row] =>
      have hSingle : IsGrid [row] ↔ 2 ≤ row.texts.length := by simp [IsGrid]
      rw [hSingle]
      match hTexts : row.texts with
      | [] => simp [hTexts]
      | [token] => simp [hTexts]
      | first :: second :: more => simp [hTexts]
  | first :: second :: rest => simp [IsGrid]

namespace Specification

/-- Rows are read back from pieces with their words. -/
theorem parse_of_words {source : String} {rows : List Row}
    (hWords : (Text.pieces ';' source).map Text.words = rows.map Row.texts)
    (hGrid : IsGrid rows) : parse source = ⟨rows⟩ := by
  obtain ⟨-, hCells, hTokens⟩ := (isGrid_iff rows).mp hGrid
  have hStays : ¬ Collapses (Text.pieces ';' source) := by
    rintro (hLone | ⟨token, hToken⟩)
    · rw [hLone] at hWords
      exact hCells hWords.symm
    · exact hTokens token (hWords.symm.trans hToken)
  have hTexts : ((Text.pieces ';' source).map Row.ofText).map Row.texts = rows.map Row.texts := by
    rw [Row.map_texts_ofText, hWords]
  have hRows : (parse source).rows = rows := by
    rw [rows_parse_of_not_collapses hStays]
    exact (List.map_inj_right fun _ _ hSame => Row.texts_injective hSame).mp hTexts
  rw [← hRows]

private theorem map_words_text (rows : List WrittenRow) :
    (rows.map WrittenRow.text).map Text.words = (rows.map WrittenRow.row).map Row.texts := by
  rw [List.map_map, List.map_map]
  exact List.map_congr_left fun written _ => written.words_text

private theorem semicolon_notMem_texts (rows : List WrittenRow) :
    ∀ text ∈ rows.map WrittenRow.text, ';' ∉ text.toList := by
  intro text hText
  obtain ⟨written, -, rfl⟩ := List.mem_map.mp hText
  exact written.semicolon_notMem_text

/-- Rows are read back when a semicolon ends each. -/
theorem parse_endAll {rows : List WrittenRow} (hGrid : IsGrid (rows.map WrittenRow.row)) :
    parse (Text.endAll ';' (rows.map WrittenRow.text)) = ⟨rows.map WrittenRow.row⟩ := by
  refine parse_of_words ?_ hGrid
  rw [Text.pieces_endAll (semicolon_notMem_texts rows), map_words_text]

/-- Rows are read back when a semicolon ends each but the last, which is not
empty. -/
theorem parse_endAll_append {init : List WrittenRow} {last : WrittenRow}
    (hGrid : IsGrid ((init ++ [last]).map WrittenRow.row)) (hNonempty : last.text ≠ "") :
    parse (Text.endAll ';' (init.map WrittenRow.text) ++ last.text) =
      ⟨(init ++ [last]).map WrittenRow.row⟩ := by
  have hTexts : init.map WrittenRow.text ++ [last.text] = (init ++ [last]).map WrittenRow.text := by
    simp
  refine parse_of_words ?_ hGrid
  rw [Text.pieces_endAll_append (semicolon_notMem_texts init) last.semicolon_notMem_text hNonempty,
    hTexts, map_words_text]

/-- The rows of a specification, with single spaces and a semicolon behind each. -/
def print (specification : Specification) : String :=
  Text.endAll ';' (specification.rows.map Row.print)

/-- The rows of a specification are those of a grid, unless there is one only and
it has no cells. -/
theorem isGrid_rows_parse {source : String} (hRows : (parse source).rows ≠ [])
    (hCells : (parse source).rows.map Row.texts ≠ [[]]) : IsGrid (parse source).rows := by
  refine (isGrid_iff _).mpr ⟨hRows, hCells, ?_⟩
  intro token hToken
  rw [rows_parse_of_ne_nil hRows, Row.map_texts_ofText] at hToken
  exact hRows (rows_parse_of_collapses (Or.inr ⟨token, hToken⟩))

private theorem map_words_print (rows : List Row) :
    (rows.map Row.print).map Text.words = rows.map Row.texts := by
  rw [List.map_map]
  exact List.map_congr_left fun row _ => row.words_print

/-- The tokens of a specification hold no semicolons, so printed rows hold none. -/
theorem semicolon_notMem_print_rows (source : String) :
    ∀ text ∈ (parse source).rows.map Row.print, ';' ∉ text.toList := by
  by_cases hRows : (parse source).rows = []
  · simp [hRows]
  · rw [rows_parse_of_ne_nil hRows, List.map_map]
    intro text hText
    obtain ⟨piece, hPiece, rfl⟩ := List.mem_map.mp hText
    exact Row.semicolon_notMem_print_ofText (Text.notMem_of_mem_pieces hPiece)

theorem parse_print {source : String} (hCells : (parse source).rows.map Row.texts ≠ [[]]) :
    parse (parse source).print = parse source := by
  by_cases hRows : (parse source).rows = []
  · have hNone : parse source = ⟨[]⟩ := by rw [← hRows]
    rw [hNone]
    rfl
  · have hWords : (Text.pieces ';' (parse source).print).map Text.words =
        (parse source).rows.map Row.texts := by
      rw [print, Text.pieces_endAll (semicolon_notMem_print_rows source), map_words_print]
    calc parse (parse source).print
        = ⟨(parse source).rows⟩ := parse_of_words hWords (isGrid_rows_parse hRows hCells)
      _ = parse source := rfl

/-- A single row without cells is printed as a lone semicolon, which describes no
rows. -/
theorem parse_print_of_no_cells {specification : Specification}
    (h : specification.rows.map Row.texts = [[]]) : parse specification.print = ⟨[]⟩ := by
  obtain ⟨row, hRow, hTexts⟩ := List.map_eq_singleton_iff.mp h
  have hPrint : specification.print = ";" := by
    rw [print, hRow, List.map_singleton, Row.print, hTexts]
    rfl
  rw [hPrint]
  rfl

/-- Rows are read back however they are written: whatever blank characters stand
at the ends of a row and between its tokens, and also without the last semicolon
unless the last row is empty. A specification is read back when it is printed,
unless it is a single row without cells. -/
theorem parse_written :
    (∀ rows : List WrittenRow, IsGrid (rows.map WrittenRow.row) →
      parse (Text.endAll ';' (rows.map WrittenRow.text)) = ⟨rows.map WrittenRow.row⟩) ∧
    (∀ (init : List WrittenRow) (last : WrittenRow),
      IsGrid ((init ++ [last]).map WrittenRow.row) → last.text ≠ "" →
      parse (Text.endAll ';' (init.map WrittenRow.text) ++ last.text) =
        ⟨(init ++ [last]).map WrittenRow.row⟩) ∧
    ∀ source : String, parse (parse source).print = parse source ↔
      (parse source).rows.map Row.texts ≠ [[]] := by
  refine ⟨fun rows hGrid => parse_endAll hGrid,
    fun init last hGrid hNonempty => parse_endAll_append hGrid hNonempty, ?_⟩
  intro source
  constructor
  · intro hSame hNoCells
    rw [parse_print_of_no_cells hNoCells] at hSame
    rw [← hSame] at hNoCells
    cases hNoCells
  · exact parse_print

/-- A row with blank characters of several kinds, and one with nothing else. -/
def sampleRows : List WrittenRow :=
  [⟨" ", [⟨"70", "\t ", by decide, by decide⟩, ⟨"30", "", by decide, by decide⟩], by decide,
      by decide⟩,
    ⟨"\u3000", [], by decide, by decide⟩]

theorem parse_written_sample :
    parse " 70\t 30;\u3000;" = ⟨[Row.ofText "70 30", Row.ofText ""]⟩ ∧
      parse " 70\t 30;\u3000" = ⟨[Row.ofText "70 30", Row.ofText ""]⟩ ∧
      parse (parse "70  30;;\t1fr").print = parse "70  30;;\t1fr" := by
  obtain ⟨hEnded, hOpen, hPrinted⟩ := parse_written
  have hGrid : IsGrid (sampleRows.map WrittenRow.row) := Or.inl (by decide)
  exact ⟨hEnded sampleRows hGrid,
    hOpen [sampleRows[0]] sampleRows[1] hGrid (by decide),
    (hPrinted "70  30;;\t1fr").mpr (by decide)⟩

example : (parse "70  30;;\t1fr").print = "70 30;;1fr;" := by decide

/-- The exception: a single row of blank characters only. -/
example : (parse " ").rows.map Row.texts = [[]] ∧ parse (parse " ").print = ⟨[]⟩ := by decide

end Specification

end SlotGrid
