/-!
# Blank characters, words and trimming

A character is *blank* when Unicode gives it the property `White_Space`. Blank
characters separate the words of a row and of a class list, and pad values.

## Main definitions

* `isBlank` — the property, as a table of ten ranges.
* `words` — the maximal runs of characters that are not blank, in order.
* `IsWord` — what a word can be: not empty, and without blank characters.
* `trim` — a text without the blank characters at its two ends.

## Main results

* `isWord_of_mem_words` — the words of a text are words.
* `words_intercalate` — words that are written with single spaces between them
  are read back.
-/

namespace SlotGrid.Text

/-- The ranges of the property `White_Space`, ends included, in ascending
order. -/
def blankRanges : List (Nat × Nat) :=
  [(0x0009, 0x000D), (0x0020, 0x0020), (0x0085, 0x0085), (0x00A0, 0x00A0),
   (0x1680, 0x1680), (0x2000, 0x200A), (0x2028, 0x2029), (0x202F, 0x202F),
   (0x205F, 0x205F), (0x3000, 0x3000)]

/-- Whether a character separates words. -/
def isBlank (c : Char) : Bool :=
  blankRanges.any fun range => range.1 ≤ c.toNat && c.toNat ≤ range.2

/-- The words of a list of characters: what stands between blank characters,
empty pieces left out. -/
def wordsOf (chars : List Char) : List (List Char) :=
  (chars.splitOnP isBlank).filter fun piece => !piece.isEmpty

/-- The words of a text, in order. -/
def words (text : String) : List String :=
  (wordsOf text.toList).map String.ofList

/-- A text without the blank characters at its two ends. -/
def trim (text : String) : String :=
  let opened := text.toList.dropWhile isBlank
  String.ofList (opened.reverse.dropWhile isBlank).reverse

/-- The table covers every blank character of ASCII and no other one. -/
example : (List.range 128).filter (fun n => isBlank (Char.ofNat n)) =
    [9, 10, 11, 12, 13, 32] := by decide

example : words " 30 \t 30\n40 " = ["30", "30", "40"] := by decide

example : trim " 2em " = "2em" := by decide

/-! ## Words hold no blank character -/

/-- Whether a text can stand as one word: it is not empty and holds no blank
character. -/
def IsWord (text : String) : Prop := text ≠ "" ∧ ∀ c ∈ text.toList, isBlank c = false

-- The characters of the text are tried, not all characters there are.
instance (text : String) : Decidable (IsWord text) :=
  @instDecidableAnd _ _ inferInstance (List.decidableBAll _ _)

theorem ne_nil_of_mem_wordsOf {chars word : List Char} (h : word ∈ wordsOf chars) :
    word ≠ [] := by
  simp [wordsOf] at h
  exact h.2

/-- No piece of a split holds a character that it was split at. -/
private theorem not_blank_of_mem_split (chars : List Char) :
    ∀ piece ∈ chars.splitOnP isBlank, ∀ c ∈ piece, isBlank c = false := by
  induction chars with
  | nil =>
      intro piece hPiece c hc
      rw [List.splitOnP_nil, List.mem_singleton] at hPiece
      subst hPiece
      cases hc
  | cons first rest ih =>
      intro piece hPiece c hc
      rw [List.splitOnP_cons_eq_if_modifyHead] at hPiece
      by_cases hFirst : isBlank first = true
      · rw [if_pos hFirst] at hPiece
        rcases List.mem_cons.mp hPiece with rfl | hPiece
        · cases hc
        · exact ih piece hPiece c hc
      · rw [if_neg hFirst] at hPiece
        -- the first character joins the first piece of the rest
        obtain ⟨head, tail, hSplit⟩ :=
          List.exists_cons_of_ne_nil (List.splitOnP_ne_nil isBlank rest)
        rw [hSplit, List.modifyHead_cons] at hPiece
        rw [hSplit] at ih
        rcases List.mem_cons.mp hPiece with rfl | hPiece
        · rcases List.mem_cons.mp hc with rfl | hc
          · simpa using hFirst
          · exact ih head List.mem_cons_self c hc
        · exact ih piece (List.mem_cons_of_mem _ hPiece) c hc

theorem isWord_of_mem_words {text word : String} (h : word ∈ words text) : IsWord word := by
  obtain ⟨chars, hChars, rfl⟩ := List.mem_map.mp h
  refine ⟨?_, ?_⟩
  · intro hEmpty
    exact ne_nil_of_mem_wordsOf hChars (by simpa using hEmpty)
  · intro c hc
    rw [String.toList_ofList] at hc
    exact not_blank_of_mem_split text.toList chars (List.mem_filter.mp hChars).1 c hc

@[simp] theorem words_empty : words "" = [] := by decide

/-! ## Reading words back -/

/-- The words on the two sides of a blank character have nothing to do with each
other. -/
theorem wordsOf_append_blank {c : Char} (hc : isBlank c = true) (before after : List Char) :
    wordsOf (before ++ c :: after) = wordsOf before ++ wordsOf after := by
  unfold wordsOf
  rw [List.splitOnP_append_cons before after hc, List.filter_append]

theorem wordsOf_toList_of_isWord {word : String} (h : IsWord word) :
    wordsOf word.toList = [word.toList] := by
  rw [wordsOf, List.splitOnP_eq_singleton h.2]
  simp [h.1]

/-- Words with single spaces between them. -/
theorem words_intercalate (list : List String) (h : ∀ word ∈ list, IsWord word) :
    words (" ".intercalate list) = list := by
  induction list with
  | nil => exact words_empty
  | cons word rest ih =>
      have hWord : wordsOf word.toList = [word.toList] :=
        wordsOf_toList_of_isWord (h word List.mem_cons_self)
      have hRest : words (" ".intercalate rest) = rest :=
        ih fun other hOther => h other (List.mem_cons_of_mem _ hOther)
      cases rest with
      | nil =>
          rw [String.intercalate_singleton, words, hWord]
          simp
      | cons next others =>
          have hSpace : (word ++ " " ++ " ".intercalate (next :: others)).toList =
              word.toList ++ ' ' :: (" ".intercalate (next :: others)).toList := by simp
          rw [String.intercalate_cons_cons, words, hSpace,
            wordsOf_append_blank (by decide), hWord, List.map_append]
          rw [words] at hRest
          rw [hRest]
          simp

end SlotGrid.Text
