import SlotGrid.Layout
import SlotGrid.Proofs.WrittenRows

/-!
# The text of a style sheet

The rules of a grid are written one behind the other, and the tokens of a row are
written into its rule as they are, whatever they look like. Still the text tells the
rows: a token holds neither a semicolon nor a blank character, so the tracks of a
rule end at the first semicolon behind them, and a track ends at a space. A token
with braces or colons in it, or with a whole rule, is read as part of a track.

## Main definitions

* `rulesText` — the text of the rules of rows.
* `tracksFront`, `tracksBack` — what stands in a rule around its tracks.

## Main results

* `css_rowRule_append_inj` — a rule with a rest tells its tracks and the rest.
* `Row.templateColumns_injective` — the tracks of a row tell its tokens.
* `rulesText_inj` — the text of the rules tells the rows.
* `css_compile_eq_iff` — style sheets have the same text exactly if they belong to the
  same specification.
-/

namespace SlotGrid

/-! ## Tracks -/

theorem TrackWidth.css_injective : Function.Injective TrackWidth.css := by
  intro width other h
  have hChars : width.raw.toList ++ ['%'] = other.raw.toList ++ ['%'] := by
    simpa [TrackWidth.css] using congrArg String.toList h
  have hRaw : width.raw = other.raw := String.toList_inj.mp (List.append_cancel_right hChars)
  cases width
  cases other
  rwa [TrackWidth.mk.injEq]

namespace Row

/-- The tracks of a row are read back as words, so they tell its tokens. -/
theorem templateColumns_injective : Function.Injective templateColumns := by
  intro row other h
  have hWords : row.cells.map TrackWidth.css = other.cells.map TrackWidth.css := by
    rw [← words_templateColumns, ← words_templateColumns, h]
  have hCells : row.cells = other.cells := TrackWidth.css_injective.list_map hWords
  cases row
  cases other
  rwa [Row.mk.injEq]

/-- Whether the tracks of a row hold no semicolon. -/
def Unbroken (row : Row) : Prop := ';' ∉ row.templateColumns.toList

/-- A row is unbroken when its tokens hold no semicolon. -/
theorem unbroken_of_texts {row : Row} (h : ∀ text ∈ row.texts, ';' ∉ text.toList) :
    row.Unbroken := by
  apply semicolon_notMem_intercalate
  intro text hText
  obtain ⟨width, hWidth, rfl⟩ := List.mem_map.mp hText
  rw [TrackWidth.css, String.toList_append, List.mem_append, not_or]
  exact ⟨h width.raw (List.mem_map_of_mem hWidth), by decide⟩

end Row

/-- The pieces of a text hold no semicolon, so the rows that it describes hold none. -/
theorem Specification.unbroken_of_mem_rows {source : String} {row : Row}
    (h : row ∈ (parse source).rows) : row.Unbroken := by
  have hRows : (parse source).rows ≠ [] := List.ne_nil_of_mem h
  rw [rows_parse_of_ne_nil hRows] at h
  obtain ⟨piece, hPiece, rfl⟩ := List.mem_map.mp h
  exact Row.unbroken_of_texts
    (Row.semicolon_notMem_texts_ofText (Text.notMem_of_mem_pieces hPiece))

/-! ## Rules -/

namespace Layout

open Style (Declaration Rule Stylesheet reference rowClass rowRule)

/-- What stands in the rule of a row before its tracks. -/
def tracksFront (index : Nat) : String :=
  "." ++ rowClass index ++ " \x7b\n" ++ Declaration.css ⟨"display", "grid"⟩ ++
    "    grid-template-columns: "

/-- What stands in the rule of a row behind its tracks and their semicolon. -/
def tracksBack : String :=
  "\n" ++ Declaration.css ⟨"grid-gap", reference "--gridspace-col"⟩ ++ "\x7d\n"

theorem css_rowRule (index : Nat) (columns : String) :
    (rowRule index columns).css = tracksFront index ++ columns ++ (";" ++ tracksBack) := by
  have hColumns : Declaration.css ⟨"grid-template-columns", columns⟩ =
      "    grid-template-columns: " ++ columns ++ (";" ++ "\n") := rfl
  rw [Rule.css, rowRule, tracksFront, tracksBack]
  simp only [List.map_cons, List.map_nil, String.join_cons, String.join_nil, hColumns,
    String.append_assoc, String.append_empty]

/-- The tracks of a rule end at their semicolon. -/
theorem css_rowRule_append_inj {index : Nat} {columns other rest last : String}
    (hColumns : ';' ∉ columns.toList) (hOther : ';' ∉ other.toList)
    (h : (rowRule index columns).css ++ rest = (rowRule index other).css ++ last) :
    columns = other ∧ rest = last := by
  have hSplit (columns rest : String) : ((rowRule index columns).css ++ rest).toList =
      (tracksFront index).toList ++ (columns.toList ++ ';' :: (tracksBack ++ rest).toList) := by
    rw [css_rowRule]
    simp only [String.toList_append, List.append_assoc]
    rfl
  have hChars := congrArg String.toList h
  rw [hSplit, hSplit] at hChars
  obtain ⟨hTracks, hRest⟩ :=
    Text.eq_of_append_mark hColumns hOther (List.append_cancel_left hChars)
  have hBack : tracksBack ++ rest = tracksBack ++ last :=
    String.toList_inj.mp hRest
  exact ⟨String.toList_inj.mp hTracks, by simpa using hBack⟩

/-- The text of the rules of rows; the first row has this index. -/
def rulesText (index : Nat) : List Row → String
  | [] => ""
  | row :: rest => (rowRule index row.templateColumns).css ++ rulesText (index + 1) rest

/-- Neither the numbers of cells nor their style come to the style sheet. -/
theorem css_layOutFrom (style : CellStyle) (index first : Nat) (rows : List Row) :
    (layOutFrom style index first rows).stylesheet.css = rulesText index rows := by
  induction rows generalizing index first with
  | nil => rfl
  | cons row rest ih =>
      rw [rulesText, ← ih (index + 1) (first + row.length)]
      simp [layOutFrom, layOutRow, Stylesheet.css]

theorem rulesText_cons_ne_empty (index : Nat) (row : Row) (rest : List Row) :
    rulesText index (row :: rest) ≠ "" := by
  have hSemicolon : ';' ∈ (rulesText index (row :: rest)).toList := by
    rw [rulesText, css_rowRule]
    simp only [String.toList_append, List.mem_append]
    exact Or.inl (Or.inr (Or.inl (by decide)))
  intro hEmpty
  rw [hEmpty] at hSemicolon
  simp at hSemicolon

/-- The text of the rules tells the rows. -/
theorem rulesText_inj {index : Nat} {rows others : List Row}
    (hRows : ∀ row ∈ rows, row.Unbroken) (hOthers : ∀ row ∈ others, row.Unbroken)
    (h : rulesText index rows = rulesText index others) : rows = others := by
  induction rows generalizing index others with
  | nil =>
      cases others with
      | nil => rfl
      | cons other more => exact absurd h.symm (rulesText_cons_ne_empty index other more)
  | cons row rest ih =>
      cases others with
      | nil => exact absurd h (rulesText_cons_ne_empty index row rest)
      | cons other more =>
          obtain ⟨hRow, hRest⟩ := List.forall_mem_cons.mp hRows
          obtain ⟨hOther, hMore⟩ := List.forall_mem_cons.mp hOthers
          obtain ⟨hColumns, hText⟩ := css_rowRule_append_inj hRow hOther h
          rw [Row.templateColumns_injective hColumns, ih hRest hMore hText]

/-- Two style sheets have the same text exactly if they belong to the same
specification: no token can be mistaken for anything else. -/
theorem css_compile_eq_iff (style otherStyle : CellStyle) (source other : String) :
    (compile style source).stylesheet.css = (compile otherStyle other).stylesheet.css ↔
      Specification.parse source = Specification.parse other := by
  rw [compile, compile, layOut, layOut, css_layOutFrom, css_layOutFrom]
  constructor
  · intro h
    have hRows : (Specification.parse source).rows = (Specification.parse other).rows :=
      rulesText_inj (fun _ hRow => Specification.unbroken_of_mem_rows hRow)
        (fun _ hRow => Specification.unbroken_of_mem_rows hRow) h
    exact congrArg Specification.mk hRows
  · intro h
    rw [h]

end Layout

end SlotGrid
