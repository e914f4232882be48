import Mathlib.Data.List.Basic
import SlotGrid.Json.Token
import SlotGrid.Json.Value

/-!
# Strings between quotes are read back

A string is written between quotes, and a quote, a backslash or a control
character in it is written as an escape. The reader of strings, which also knows
escapes that are never written, takes such a text back character by character
and stops at the closing quote, whatever follows it.

## Main results

* `readEscape_short`, `readEscape_code` — the two kinds of escapes that are written.
* `escape_cases` — the three ways of writing a character.
* `readChars_escape` — what a character is written as is read as that character.
* `readString_quote` — a string between quotes is read back.
* `quote_inj` — strings are told apart by what they are written as.
-/

namespace SlotGrid.Json

/-! ## Escapes -/

private theorem hexValue?_digitChar_all :
    ∀ digit < 16, hexValue? (Nat.digitChar digit) = some digit := by decide

/-- Every digit that an escape is written with has its value. -/
theorem hexValue?_digitChar {digit : Nat} (h : digit < 16) :
    hexValue? (Nat.digitChar digit) = some digit := hexValue?_digitChar_all digit h

/-- A letter behind a backslash is read as what it stands for. -/
theorem readEscape_short {letter meant : Char} (h : simpleEscape? letter = some meant)
    (rest : List Char) : readEscape (letter :: rest) = .ok (meant, rest) := by
  have hLetter : letter ≠ 'u' := by
    rintro rfl
    cases h
  rw [readEscape.eq_3 letter rest hLetter, h]

/-- The four digits that a control character is written with. -/
theorem hexUnit?_code {code : Nat} (h : code < 32) :
    hexUnit? ['0', '0', Nat.digitChar (code / 16), Nat.digitChar (code % 16)] = some code := by
  have hZero : hexValue? '0' = some 0 := by decide
  have hHigh : hexValue? (Nat.digitChar (code / 16)) = some (code / 16) :=
    hexValue?_digitChar (by omega)
  have hLow : hexValue? (Nat.digitChar (code % 16)) = some (code % 16) :=
    hexValue?_digitChar (by omega)
  have hSum : code / 16 * 16 + code % 16 = code := by omega
  simp [hexUnit?, hZero, hHigh, hLow, hSum]

/-- The code of a control character is read as that character. -/
theorem readEscape_code {c : Char} (h : c.toNat < 32) (rest : List Char) :
    readEscape ('u' :: '0' :: '0' :: Nat.digitChar (c.toNat / 16) ::
      Nat.digitChar (c.toNat % 16) :: rest) = .ok (c, rest) := by
  have hTrailing : isTrailing c.toNat = false := by
    rw [isTrailing, Bool.and_eq_false_iff]
    left
    simp
    omega
  have hLeading : isLeading c.toNat = false := by
    rw [isLeading, Bool.and_eq_false_iff]
    left
    simp
    omega
  have hUnit : readUnit ('0' :: '0' :: Nat.digitChar (c.toNat / 16) ::
      Nat.digitChar (c.toNat % 16) :: rest) = .ok (c.toNat, rest) := by
    simp only [readUnit, List.take_succ_cons, List.take_zero, hexUnit?_code h]
    rfl
  rw [readEscape, readCode, hUnit]
  simp [hTrailing, hLeading, Char.ofNat_toNat]

/-! ## Characters -/

/-- An escape is one character of the string around it. -/
theorem readChars_backslash {text rest : List Char} {c : Char}
    (h : readEscape text = .ok (c, rest)) :
    readChars ('\\' :: text) = (readChars rest).cons c := by
  rw [readChars]
  split
  case h_1 hFault =>
      rw [h] at hFault
      cases hFault
  case h_2 hRead =>
      rw [h] at hRead
      cases hRead
      rfl

/-- What a character is written as: a backslash and a letter, the code of a control
character, or the character itself. -/
theorem escape_cases (c : Char) :
    (∃ letter, simpleEscape? letter = some c ∧ escape c = ['\\', letter]) ∨
      (c.toNat < 32 ∧ escape c =
        ['\\', 'u', '0', '0', Nat.digitChar (c.toNat / 16), Nat.digitChar (c.toNat % 16)]) ∨
      (c ≠ '"' ∧ c ≠ '\\' ∧ ¬ c < ' ' ∧ escape c = [c]) := by
  unfold escape
  split_ifs with hMark hBackspace hFeed hLine hReturn hTab hControl
  · refine Or.inl ⟨c, ?_, rfl⟩
    rcases hMark with rfl | rfl <;> rfl
  · exact Or.inl ⟨'b', by rw [hBackspace]; rfl, rfl⟩
  · exact Or.inl ⟨'f', by rw [hFeed]; rfl, rfl⟩
  · exact Or.inl ⟨'n', by rw [hLine]; rfl, rfl⟩
  · exact Or.inl ⟨'r', by rw [hReturn]; rfl, rfl⟩
  · exact Or.inl ⟨'t', by rw [hTab]; rfl, rfl⟩
  · have hCode : c.toNat < 32 := hControl
    exact Or.inr (Or.inl ⟨hCode, rfl⟩)
  · obtain ⟨hQuote, hSlash⟩ := not_or.mp hMark
    exact Or.inr (Or.inr ⟨hQuote, hSlash, hControl, rfl⟩)

/-- What a character is written as is read as that character. -/
theorem readChars_escape (c : Char) (rest : List Char) :
    readChars (escape c ++ rest) = (readChars rest).cons c := by
  rcases escape_cases c with
    ⟨letter, hMeans, hText⟩ | ⟨hCode, hText⟩ | ⟨hQuote, hSlash, hControl, hText⟩
  · rw [hText]
    exact readChars_backslash (readEscape_short hMeans rest)
  · rw [hText]
    exact readChars_backslash (readEscape_code hCode rest)
  · rw [hText]
    show readChars (c :: rest) = (readChars rest).cons c
    rw [readChars.eq_4 c rest hQuote hSlash, if_neg hControl]

/-! ## Strings -/

theorem readChars_escapes (chars rest : List Char) :
    readChars (chars.flatMap escape ++ '"' :: rest) = .ok (chars, rest) := by
  induction chars with
  | nil => simp [readChars]
  | cons c chars ih =>
      rw [List.flatMap_cons, List.append_assoc, readChars_escape, ih]
      rfl

/-- A string is its opening quote and what the reader of strings takes. -/
theorem quote_append (text : String) (rest : List Char) :
    quote text ++ rest = '"' :: (text.toList.flatMap escape ++ '"' :: rest) := by
  simp [quote]

/-- A string between quotes is read back, whatever follows it. -/
theorem readString_quote (text : String) (rest : List Char) :
    readString (text.toList.flatMap escape ++ '"' :: rest) = .ok (text, rest) := by
  rw [readString, readChars_escapes]
  simp [Except.map]

/-- Strings are told apart by what they are written as, whatever follows them. -/
theorem quote_inj {text other : String} {rest last : List Char}
    (h : quote text ++ rest = quote other ++ last) : text = other ∧ rest = last := by
  rw [quote_append, quote_append] at h
  have hRead := readString_quote text rest
  rw [(List.cons.inj h).2, readString_quote other last] at hRead
  obtain ⟨hText, hRest⟩ := Prod.mk.inj (Except.ok.inj hRead)
  exact ⟨hText.symm, hRest.symm⟩

end SlotGrid.Json
