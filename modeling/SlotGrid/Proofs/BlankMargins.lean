import SlotGrid.Proofs.Numbering
import SlotGrid.Proofs.WrittenRows

/-!
# Blank characters around a specification

Blank characters in front of a row and behind it do not belong to its words, so a
specification can be padded at both ends. There is one exception: what stands behind
the last semicolon is a row unless it is empty, and blank characters alone are not
empty. A text that is closed by a semicolon, as one over several lines may be, has a
further row without cells when the line ends behind the semicolon. So has the empty
text when it is padded, and a lone semicolon has one when it is padded in front,
because it is no longer alone.

## Main definitions

* `Text.IsClosed` — texts with nothing behind their last mark.

## Main results

* `Text.pieces_append_of_isClosed`, `Text.map_words_pieces_append_of_not_isClosed` — what
  stands behind a text is a piece of its own, or goes to the last piece.
* `Specification.parse_congr` — the words of the pieces tell the specification, but for
  a lone semicolon.
* `Specification.rows_parse_append_of_isClosed` — the further row.
* `Specification.parse_pad`, `Specification.pad_eq_empty_of_length_eq` — where padding adds
  no row.
* `Layout.compile_pad` — when padding changes a grid.
-/

namespace SlotGrid

namespace Text

/-! ## Padded words -/

theorem words_blank_append {blanks : String} (h : IsBlankText blanks) (text : String) :
    words (blanks ++ text) = words text := by
  rw [words, words, String.toList_append, wordsOf_blank_append h]

theorem words_of_isBlankText {blanks : String} (h : IsBlankText blanks) : words blanks = [] := by
  have hWords := words_blank_append h ""
  rwa [String.append_empty, words_empty] at hWords

/-- Blank characters behind a text hold no words either. -/
theorem wordsOf_append_blanks {blanks : List Char} (h : ∀ c ∈ blanks, isBlank c = true)
    (chars : List Char) : wordsOf (chars ++ blanks) = wordsOf chars := by
  cases blanks with
  | nil => rw [List.append_nil]
  | cons c more =>
      obtain ⟨hFirst, hMore⟩ := List.forall_mem_cons.mp h
      have hNone : wordsOf more = [] := by
        calc wordsOf more
            = wordsOf (more ++ []) := by rw [List.append_nil]
          _ = [] := wordsOf_blank_append hMore []
      rw [wordsOf_append_blank hFirst, hNone, List.append_nil]

theorem words_append_blank {blanks : String} (h : IsBlankText blanks) (text : String) :
    words (text ++ blanks) = words text := by
  rw [words, words, String.toList_append, wordsOf_append_blanks h]

/-! ## Padded pieces -/

/-- Whether nothing stands behind the last mark of a text. -/
def IsClosed (mark : Char) (source : String) : Prop :=
  source = "" ∨ source.toList.getLast? = some mark

instance (mark : Char) (source : String) : Decidable (IsClosed mark source) :=
  inferInstanceAs (Decidable (source = "" ∨ source.toList.getLast? = some mark))

/-- What stands behind a text joins its last part. -/
theorem IsCut.append {mark : Char} {source last after : String} {texts : List String}
    (h : IsCut mark source texts last) (hAfter : mark ∉ after.toList) :
    IsCut mark (source ++ after) texts (last ++ after) := by
  refine ⟨?_, h.free_texts, ?_⟩
  · rw [h.source_eq, String.append_assoc]
  · rw [String.toList_append, List.mem_append, not_or]
    exact ⟨h.free_last, hAfter⟩

/-- What stands in front of a text joins its first part. -/
theorem IsCut.cons_append {mark : Char} {source text last before : String} {rest : List String}
    (h : IsCut mark source (text :: rest) last) (hBefore : mark ∉ before.toList) :
    IsCut mark (before ++ source) ((before ++ text) :: rest) last := by
  obtain ⟨hText, hRest⟩ := List.forall_mem_cons.mp h.free_texts
  refine ⟨?_, List.forall_mem_cons.mpr ⟨?_, hRest⟩, h.free_last⟩
  · rw [h.source_eq, endAll, endAll]
    simp only [String.append_assoc]
  · rw [String.toList_append, List.mem_append, not_or]
    exact ⟨hBefore, hText⟩

/-- Behind the last mark, what follows is a piece of its own. -/
theorem pieces_append_of_isClosed {mark : Char} {source after : String}
    (hClosed : IsClosed mark source) (hAfter : mark ∉ after.toList) (hNonempty : after ≠ "") :
    pieces mark (source ++ after) = pieces mark source ++ [after] := by
  obtain ⟨texts, last, hCut⟩ := exists_isCut mark source
  have hLast : last = "" := hCut.last_eq_empty_iff.mpr hClosed
  have hPadded := hCut.append hAfter
  rw [hLast, String.empty_append] at hPadded
  rw [hPadded.pieces_eq, hCut.pieces_eq, if_neg hNonempty, if_pos hLast]

/-- Elsewhere it goes to the last piece, whose words stay the same when it is blank. -/
theorem map_words_pieces_append_of_not_isClosed {mark : Char} {source after : String}
    (hMark : isBlank mark = false) (hOpen : ¬ IsClosed mark source) (hAfter : IsBlankText after) :
    (pieces mark (source ++ after)).map words = (pieces mark source).map words := by
  obtain ⟨texts, last, hCut⟩ := exists_isCut mark source
  have hLast : last ≠ "" := fun hEmpty => hOpen (hCut.last_eq_empty_iff.mp hEmpty)
  have hPadded : last ++ after ≠ "" := fun hEmpty =>
    hLast (String.append_eq_empty_iff.mp hEmpty).1
  rw [(hCut.append (hAfter.notMem hMark)).pieces_eq, hCut.pieces_eq, if_neg hPadded, if_neg hLast,
    List.map_append, List.map_append, List.map_singleton, List.map_singleton,
    words_append_blank hAfter]

/-- Blank characters in front of a text go to its first piece, if there is one. -/
theorem map_words_pieces_blank_append {mark : Char} {before source : String}
    (hMark : isBlank mark = false) (hBefore : IsBlankText before) (hNonempty : source ≠ "") :
    (pieces mark (before ++ source)).map words = (pieces mark source).map words := by
  obtain ⟨texts, last, hCut⟩ := exists_isCut mark source
  have hFree : mark ∉ before.toList := hBefore.notMem hMark
  cases texts with
  | nil =>
      -- without a mark, the whole text is the last part
      have hSource : source = last := by rw [hCut.source_eq, endAll, String.empty_append]
      have hLast : last ≠ "" := hSource ▸ hNonempty
      have hPadded : before ++ last ≠ "" := fun hEmpty =>
        hLast (String.append_eq_empty_iff.mp hEmpty).2
      have hCutPadded : IsCut mark (before ++ source) [] (before ++ last) := by
        refine ⟨?_, by simp, ?_⟩
        · rw [hSource, endAll, String.empty_append]
        · rw [String.toList_append, List.mem_append, not_or]
          exact ⟨hFree, hCut.free_last⟩
      rw [hCutPadded.pieces_eq, hCut.pieces_eq, if_neg hPadded, if_neg hLast, List.nil_append,
        List.nil_append, List.map_singleton, List.map_singleton, words_blank_append hBefore]
  | cons text rest =>
      rw [(hCut.cons_append hFree).pieces_eq, hCut.pieces_eq]
      by_cases hLast : last = ""
      · rw [if_pos hLast, if_pos hLast, List.map_cons, List.map_cons, words_blank_append hBefore]
      · rw [if_neg hLast, if_neg hLast, List.cons_append, List.map_cons, List.cons_append,
          List.map_cons, words_blank_append hBefore]

end Text

/-! ## Rows of padded texts -/

namespace Row

/-- Texts with the same words are the same rows. -/
theorem map_ofText_congr {texts others : List String}
    (h : texts.map Text.words = others.map Text.words) :
    texts.map ofText = others.map ofText := by
  rw [← map_texts_ofText, ← map_texts_ofText] at h
  exact texts_injective.list_map h

end Row

namespace Specification

open Text (IsBlankText IsClosed)

/-- The words of the pieces tell whether they collapse, but for a lone semicolon. -/
theorem collapses_pieces_iff (source : String) :
    Collapses (Text.pieces ';' source) ↔
      source = ";" ∨ ∃ token, (Text.pieces ';' source).map Text.words = [[token]] := by
  rw [Collapses, Text.pieces_eq_lone_iff]
  rfl

/-- The words of the pieces tell the specification, but for a lone semicolon. -/
theorem parse_congr {source other : String}
    (hWords : (Text.pieces ';' source).map Text.words = (Text.pieces ';' other).map Text.words)
    (hLone : source ≠ ";") (hOther : other ≠ ";") : parse source = parse other := by
  have hCollapses : Collapses (Text.pieces ';' source) ↔ Collapses (Text.pieces ';' other) := by
    rw [collapses_pieces_iff, collapses_pieces_iff, hWords]
    simp only [hLone, hOther]
  have hRows : (parse source).rows = (parse other).rows := by
    by_cases h : Collapses (Text.pieces ';' source)
    · rw [rows_parse_of_collapses h, rows_parse_of_collapses (hCollapses.mp h)]
    · rw [rows_parse_of_not_collapses h, rows_parse_of_not_collapses (mt hCollapses.mpr h),
        Row.map_ofText_congr hWords]
  calc parse source = ⟨(parse source).rows⟩ := rfl
    _ = parse other := by rw [hRows]

/-- Rows are told by texts with the same words, unless these are one token. -/
theorem rows_parse_of_map_words {source : String} {texts : List String}
    (hWords : (Text.pieces ';' source).map Text.words = texts.map Text.words)
    (hLone : source ≠ ";") (hTokens : ∀ token, texts.map Text.words ≠ [[token]]) :
    (parse source).rows = texts.map Row.ofText := by
  have hStays : ¬ Collapses (Text.pieces ';' source) := by
    rw [collapses_pieces_iff]
    rintro (hSame | ⟨token, hToken⟩)
    · exact hLone hSame
    · exact hTokens token (hWords.symm.trans hToken)
  rw [rows_parse_of_not_collapses hStays, Row.map_ofText_congr hWords]

/-- A text is padded to a lone semicolon only if it is one already. -/
theorem eq_of_pad_eq_lone {before source after : String} (hBefore : IsBlankText before)
    (hAfter : IsBlankText after) (h : before ++ source ++ after = ";") :
    before = "" ∧ source = ";" ∧ after = "" := by
  have hBlank : Text.isBlank ';' = false := by decide
  have hChars : before.toList ++ (source.toList ++ after.toList) = [';'] := by
    simpa using congrArg String.toList h
  have hMem : ';' ∈ source.toList := by
    have hSome : ';' ∈ before.toList ++ (source.toList ++ after.toList) := by simp [hChars]
    rw [List.mem_append, List.mem_append] at hSome
    exact (hSome.resolve_left (hBefore.notMem hBlank)).resolve_right (hAfter.notMem hBlank)
  have hPositive := List.length_pos_of_mem hMem
  have hLength := congrArg List.length hChars
  rw [List.length_append, List.length_append, List.length_singleton] at hLength
  have hFront : before = "" :=
    String.toList_eq_nil_iff.mp (List.length_eq_zero_iff.mp (by omega))
  have hBehind : after = "" :=
    String.toList_eq_nil_iff.mp (List.length_eq_zero_iff.mp (by omega))
  rw [hFront, hBehind, String.empty_append, String.append_empty] at h
  exact ⟨hFront, h, hBehind⟩

theorem append_ne_lone {after : String} (hAfter : IsBlankText after) (hNonempty : after ≠ "")
    (source : String) : source ++ after ≠ ";" := by
  intro hSame
  have hPad : "" ++ source ++ after = ";" := by rw [String.empty_append, hSame]
  exact hNonempty (eq_of_pad_eq_lone (by decide) hAfter hPad).2.2

/-- Padding changes nothing where it joins a row. -/
theorem parse_pad {before source after : String} (hBefore : IsBlankText before)
    (hAfter : IsBlankText after) (hFront : source = "" ∨ source = ";" → before = "")
    (hBehind : IsClosed ';' source → after = "") :
    parse (before ++ source ++ after) = parse source := by
  have hBlank : Text.isBlank ';' = false := by decide
  by_cases hNone : source = "" ∨ source = ";"
  · have hClosed : IsClosed ';' source := by
      rcases hNone with rfl | rfl <;> decide
    rw [hFront hNone, hBehind hClosed, String.empty_append, String.append_empty]
  · obtain ⟨hNonempty, hLone⟩ := not_or.mp hNone
    have hWords : (Text.pieces ';' (source ++ after)).map Text.words =
        (Text.pieces ';' source).map Text.words := by
      by_cases hClosed : IsClosed ';' source
      · rw [hBehind hClosed, String.append_empty]
      · exact Text.map_words_pieces_append_of_not_isClosed hBlank hClosed hAfter
    have hSome : source ++ after ≠ "" := fun hEmpty =>
      hNonempty (String.append_eq_empty_iff.mp hEmpty).1
    have hOther : before ++ source ++ after ≠ ";" := fun hSame =>
      hLone (eq_of_pad_eq_lone hBefore hAfter hSame).2.1
    refine parse_congr ?_ hOther hLone
    rw [String.append_assoc, Text.map_words_pieces_blank_append hBlank hBefore hSome, hWords]

/-- Blank characters behind the last semicolon are a row without cells. -/
theorem rows_parse_append_of_isClosed {source after : String} (hClosed : IsClosed ';' source)
    (hAfter : IsBlankText after) (hNonempty : after ≠ "") :
    (parse (source ++ after)).rows = (Text.pieces ';' source ++ [""]).map Row.ofText := by
  have hPieces : Text.pieces ';' (source ++ after) = Text.pieces ';' source ++ [after] :=
    Text.pieces_append_of_isClosed hClosed (hAfter.notMem (by decide)) hNonempty
  refine rows_parse_of_map_words ?_ (append_ne_lone hAfter hNonempty source) ?_
  · rw [hPieces, List.map_append, List.map_append, List.map_singleton, List.map_singleton,
      Text.words_of_isBlankText hAfter, Text.words_empty]
  · intro token hToken
    simp [List.append_eq_singleton_iff] at hToken

/-- So they are in a padded text, also in an empty one. -/
theorem rows_parse_pad_of_isClosed {before source after : String} (hBefore : IsBlankText before)
    (hAfter : IsBlankText after) (hClosed : IsClosed ';' source) (hNonempty : after ≠ "") :
    (parse (before ++ source ++ after)).rows = (Text.pieces ';' source ++ [""]).map Row.ofText := by
  have hSome : source ++ after ≠ "" := fun hEmpty =>
    hNonempty (String.append_eq_empty_iff.mp hEmpty).2
  have hLone : source ++ after ≠ ";" := append_ne_lone hAfter hNonempty source
  have hFront : parse (before ++ (source ++ after) ++ "") = parse (source ++ after) :=
    parse_pad hBefore (by decide) (fun hNone => absurd hNone (not_or.mpr ⟨hSome, hLone⟩))
      fun _ => rfl
  rw [String.append_empty, ← String.append_assoc] at hFront
  rw [hFront, rows_parse_append_of_isClosed hClosed hAfter hNonempty]

/-- A text that has no rows has one when it is padded in front. -/
theorem rows_parse_blank_append {before source : String} (hBefore : IsBlankText before)
    (hNonempty : before ≠ "") (hNone : source = "" ∨ source = ";") :
    (parse (before ++ source)).rows = [Row.ofText ""] := by
  rcases hNone with rfl | rfl
  · have hEmpty : IsClosed ';' "" := Or.inl rfl
    have hRows := rows_parse_append_of_isClosed hEmpty hBefore hNonempty
    rw [String.empty_append] at hRows
    rw [String.append_empty, hRows]
    rfl
  · refine @rows_parse_of_map_words _ [""] ?_ ?_ (by simp)
    · rw [Text.map_words_pieces_blank_append (by decide) hBefore (by decide)]
      decide
    · intro hLone
      have hPad : before ++ ";" ++ "" = ";" := by rw [String.append_empty, hLone]
      exact hNonempty (eq_of_pad_eq_lone hBefore (by decide) hPad).1

theorem length_rows_parse_le (source : String) :
    (parse source).rows.length ≤ (Text.pieces ';' source).length := by
  by_cases hRows : (parse source).rows = []
  · rw [hRows]
    exact Nat.zero_le _
  · rw [rows_parse_of_ne_nil hRows, List.length_map]

/-- Padding that adds no row stands where it joins one. -/
theorem pad_eq_empty_of_length_eq {before source after : String} (hBefore : IsBlankText before)
    (hAfter : IsBlankText after)
    (h : (parse (before ++ source ++ after)).rows.length = (parse source).rows.length) :
    (source = "" ∨ source = ";" → before = "") ∧ (IsClosed ';' source → after = "") := by
  have hBehind : IsClosed ';' source → after = "" := by
    intro hClosed
    by_contra hNonempty
    have hLe := length_rows_parse_le source
    rw [rows_parse_pad_of_isClosed hBefore hAfter hClosed hNonempty, List.length_map,
      List.length_append, List.length_singleton] at h
    omega
  refine ⟨?_, hBehind⟩
  intro hNone
  by_contra hNonempty
  have hClosed : IsClosed ';' source := by
    rcases hNone with rfl | rfl <;> decide
  have hRows : (parse source).rows.length = 0 := by
    rcases hNone with rfl | rfl <;> rfl
  rw [hBehind hClosed, String.append_empty, rows_parse_blank_append hBefore hNonempty hNone,
    hRows] at h
  exact absurd h (by simp)

end Specification

/-! ## Padded grids -/

namespace Layout

open Text (IsBlankText IsClosed)

/-- Blank characters around a specification change its grid exactly if they make a row of
their own: behind a text that is closed, so that there is a further row without cells, and
in front of the empty text and of a lone semicolon, which have no rows otherwise. -/
theorem compile_pad {before after : String} (hBefore : IsBlankText before)
    (hAfter : IsBlankText after) (style : CellStyle) (source : String) :
    (compile style (before ++ source ++ after) = compile style source ↔
      (source = "" ∨ source = ";" → before = "") ∧ (IsClosed ';' source → after = "")) ∧
    (IsClosed ';' source → after ≠ "" →
      (Specification.parse (before ++ source ++ after)).rows =
        (Text.pieces ';' source ++ [""]).map Row.ofText) := by
  refine ⟨?_, Specification.rows_parse_pad_of_isClosed hBefore hAfter⟩
  constructor
  · intro hSame
    apply Specification.pad_eq_empty_of_length_eq hBefore hAfter
    rw [← length_rows_layOut style, ← length_rows_layOut style]
    exact congrArg (fun grid => grid.rows.length) hSame
  · rintro ⟨hFront, hNone⟩
    rw [compile, Specification.parse_pad hBefore hAfter hFront hNone]
    rfl

/-- Padding of two rows that no semicolon closes, and of two rows that one closes. -/
theorem compile_pad_lines :
    IsBlankText "\n  " ∧ IsBlankText "\n" ∧
      compile ⟨"", "", true⟩ ("\n  " ++ "70 30; 50 50" ++ "\n") =
        compile ⟨"", "", true⟩ "70 30; 50 50" ∧
      (Specification.parse ("\n  " ++ "70 30; 50 50;" ++ "\n")).rows =
        [Row.ofText "70 30", Row.ofText " 50 50", Row.ofText ""] := by
  have hBefore : IsBlankText "\n  " := by decide
  have hAfter : IsBlankText "\n" := by decide
  have hOpen := compile_pad hBefore hAfter ⟨"", "", true⟩ "70 30; 50 50"
  have hClosed := compile_pad hBefore hAfter ⟨"", "", true⟩ "70 30; 50 50;"
  exact ⟨hBefore, hAfter, hOpen.1.mpr (by decide), hClosed.2 (by decide) (by decide)⟩

/-- A line break behind the last semicolon is a row without cells, so that padding does
not leave every grid as it is. -/
theorem compile_pad_ne :
    IsBlankText "" ∧ IsBlankText "\n" ∧
      compile ⟨"c", "r", true⟩ ("" ++ "50 50;" ++ "\n") ≠ compile ⟨"c", "r", true⟩ "50 50;" := by
  refine ⟨by decide, by decide, ?_⟩
  intro hSame
  have hRows : (compile ⟨"c", "r", true⟩ ("" ++ "50 50;" ++ "\n")).rows.length =
      (compile ⟨"c", "r", true⟩ "50 50;").rows.length :=
    congrArg (fun grid => grid.rows.length) hSame
  exact absurd hRows (by decide)

end Layout

end SlotGrid
