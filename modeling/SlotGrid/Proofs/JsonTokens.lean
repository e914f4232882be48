import Mathlib.Data.List.Basic
import SlotGrid.Proofs.JsonGrammar
import SlotGrid.Proofs.QuotedStrings
import SlotGrid.Proofs.TextParts

/-!
# Tokens are read as the grammar says

The readers of white space, words, numbers and strings against the rules for them. Each
is followed in both directions: what a rule describes is taken, and what is taken is
described by a rule. A number ends where no character of a number follows, so there
the text behind it matters; all other tokens end by themselves.

## Main definitions

* `Ends` — texts that do not go on with a character of a number.

## Main results

* `White.skipSpace_eq`, `white_skipSpace` — white space.
* `readWord_append`, `readWord_sound` — words.
* `scanNumeral_digitChars`, `scanNumeral_sound` — numbers.
* `readString_of_spells`, `readString_sound` — strings; half of a surrogate pair alone
  is refused.
* `skipString_of_spells`, `skipString_sound` — strings that nobody asked for.
-/

namespace SlotGrid.Json

/-! ## Readings without their faults -/

theorem toOption_map {α β : Type} (reading : Except Fault α) (f : α → β) :
    (reading.map f).toOption = reading.toOption.map f := by
  cases reading <;> rfl

theorem toOption_eq_some_iff {α : Type} {reading : Except Fault α} {value : α} :
    reading.toOption = some value ↔ reading = .ok value := by
  cases reading <;> simp [Except.toOption]

theorem toOption_eq_none_iff {α : Type} {reading : Except Fault α} :
    reading.toOption = none ↔ ∃ fault, reading = .error fault := by
  cases reading <;> simp [Except.toOption]

/-! ## White space -/

theorem isSpace_iff {c : Char} :
    isSpace c = true ↔ c = ' ' ∨ c = '\t' ∨ c = '\n' ∨ c = '\r' := by
  simp [isSpace, or_assoc]

theorem White.refl (text : List Char) : White text text := ⟨[], by simp, rfl⟩

theorem white_skipSpace (text : List Char) : White text (skipSpace text) := by
  refine ⟨text.takeWhile isSpace, ?_, List.takeWhile_append_dropWhile.symm⟩
  intro c hc
  exact isSpace_iff.mp (List.mem_takeWhile_imp hc)

theorem white_of_skipSpace {text start : List Char} (h : skipSpace text = start) :
    White text start :=
  h ▸ white_skipSpace text

theorem White.trans {text more rest : List Char} (h : White text more) (hMore : White more rest) :
    White text rest := by
  obtain ⟨space, hSpace, rfl⟩ := h
  obtain ⟨others, hOthers, rfl⟩ := hMore
  refine ⟨space ++ others, ?_, (List.append_assoc ..).symm⟩
  intro c hc
  rcases List.mem_append.mp hc with hc | hc
  · exact hSpace c hc
  · exact hOthers c hc

theorem Lead.trans {first : Bool} {text more rest : List Char} (h : Lead first text more)
    (hMore : White more rest) : Lead first text rest := by
  cases first with
  | true => exact White.trans h hMore
  | false =>
      obtain ⟨behind, hComma, hBehind⟩ := h
      exact ⟨behind, hComma, hBehind.trans hMore⟩

/-- White space does not change what the next token is. -/
theorem White.skipSpace_eq {text rest : List Char} (h : White text rest) :
    skipSpace text = skipSpace rest := by
  obtain ⟨space, hSpace, rfl⟩ := h
  exact List.dropWhile_append_of_pos fun c hc => isSpace_iff.mpr (hSpace c hc)

theorem White.skipSpace_cons {text rest : List Char} {c : Char} (h : White text (c :: rest))
    (hc : isSpace c = false) : skipSpace text = c :: rest := by
  rw [h.skipSpace_eq, skipSpace, List.dropWhile_cons_of_neg (by simp [hc])]

theorem White.skipSpace_nil {text : List Char} (h : White text []) : skipSpace text = [] :=
  h.skipSpace_eq

/-! ## Words -/

theorem readWord_append (word rest : List Char) : readWord word (word ++ rest) = .ok rest := by
  induction word with
  | nil => rfl
  | cons letter word ih => rw [List.cons_append, readWord, if_pos rfl, ih]

theorem readWord_sound {word text rest : List Char} (h : readWord word text = .ok rest) :
    text = word ++ rest := by
  induction word, text using readWord.induct with
  | case1 text => exact Except.ok.inj h
  | case2 => cases h
  | case3 letter word text ih =>
      rw [readWord, if_pos rfl] at h
      rw [ih h, List.cons_append]
  | case4 letter word c text hNe =>
      rw [readWord, if_neg hNe] at h
      cases h

/-! ## Numbers -/

/-- Whether a text does not go on with a character of a number. -/
def Ends (rest : List Char) : Prop :=
  ∀ c ∈ rest.head?, c.isDigit = false ∧ c ≠ '.' ∧ c ≠ 'e' ∧ c ≠ 'E'

theorem ends_cons {c : Char} (hDigit : c.isDigit = false) (hPoint : c ≠ '.') (hLower : c ≠ 'e')
    (hUpper : c ≠ 'E') (rest : List Char) : Ends (c :: rest) := by
  intro d hd
  obtain rfl : c = d := Option.some.inj hd
  exact ⟨hDigit, hPoint, hLower, hUpper⟩

theorem ends_of_white {text rest : List Char} (h : White text rest) (hRest : Ends rest) :
    Ends text := by
  obtain ⟨space, hSpace, rfl⟩ := h
  cases space with
  | nil => exact hRest
  | cons c space =>
      rcases hSpace c List.mem_cons_self with rfl | rfl | rfl | rfl <;>
        exact ends_cons (by decide) (by decide) (by decide) (by decide) _

/-- The point of a numeral and the digits behind it. -/
def fractionChars : Option (List Char) → List Char
  | none => []
  | some digits => '.' :: digits

/-- The exponent of a numeral. -/
def exponentChars : Option Exponent → List Char
  | none => []
  | some exponent => exponent.mark :: (exponent.sign.toList ++ exponent.digits)

/-- A numeral without its sign. -/
def Numeral.digitChars (numeral : Numeral) : List Char :=
  numeral.whole ++ (fractionChars numeral.fraction ++ exponentChars numeral.exponent)

theorem Numeral.chars_eq (numeral : Numeral) :
    numeral.chars = (if numeral.negative then ['-'] else []) ++ numeral.digitChars := by
  rcases numeral with ⟨negative, whole, _ | digits, _ | exponent⟩ <;>
    simp [Numeral.chars, Numeral.digitChars, fractionChars, exponentChars]

/-- Digits end at the first character that is no digit. -/
theorem takeWhile_digits {digits rest : List Char} (hDigits : AreDigits digits)
    (hRest : Text.StopsAt Char.isDigit rest) : (digits ++ rest).takeWhile Char.isDigit = digits :=
  Text.takeWhile_of_stop hDigits.2 hRest

theorem dropWhile_digits {digits rest : List Char} (hDigits : AreDigits digits)
    (hRest : Text.StopsAt Char.isDigit rest) : (digits ++ rest).dropWhile Char.isDigit = rest :=
  Text.dropWhile_of_stop hDigits.2 hRest

theorem isEmpty_digits {digits : List Char} (h : AreDigits digits) : digits.isEmpty = false := by
  simp [h.1]

theorem Ends.stopsAt {rest : List Char} (h : Ends rest) : Text.StopsAt Char.isDigit rest :=
  fun c hc => (h c hc).1

theorem stopsAt_exponentChars {exponent : Option Exponent} {rest : List Char}
    (hMark : ∀ part ∈ exponent, part.mark = 'e' ∨ part.mark = 'E') (hRest : Ends rest) :
    Text.StopsAt Char.isDigit (exponentChars exponent ++ rest) := by
  cases exponent with
  | none => exact hRest.stopsAt
  | some part =>
      refine Text.stopsAt_cons ?_ _
      rcases hMark part rfl with h | h <;> rw [h] <;> decide

theorem stopsAt_fractionChars {fraction : Option (List Char)} {rest : List Char}
    (hRest : Text.StopsAt Char.isDigit rest) :
    Text.StopsAt Char.isDigit (fractionChars fraction ++ rest) := by
  cases fraction with
  | none => exact hRest
  | some digits => exact Text.stopsAt_cons (by decide) _

theorem scanWhole_append {numeral : Numeral} (h : numeral.IsProper) (ended : Reason)
    {rest : List Char} (hRest : Text.StopsAt Char.isDigit rest) :
    scanWhole ended (numeral.whole ++ rest) = .ok (numeral.whole, rest) := by
  by_cases hZero : numeral.whole.head? = some '0'
  · rw [h.noLeadingZero hZero]
    have hNoDigit : ¬ rest.head?.any Char.isDigit = true := by
      cases rest with
      | nil => simp
      | cons c more => simp [hRest c rfl]
    simp [scanWhole, hNoDigit]
  · have hNot : ∀ more, numeral.whole ++ rest = '0' :: more → False := by
      intro more hText
      obtain ⟨c, digits, hWhole⟩ := List.exists_cons_of_ne_nil h.whole.1
      rw [hWhole, List.cons_append] at hText
      rw [hWhole, List.head?_cons, (List.cons.inj hText).1] at hZero
      exact hZero rfl
    rw [scanWhole.eq_2 ended _ hNot, takeWhile_digits h.whole hRest, dropWhile_digits h.whole hRest,
      isEmpty_digits h.whole]
    rfl

theorem scanFraction_append {fraction : Option (List Char)}
    (hFraction : ∀ digits ∈ fraction, AreDigits digits) (ended : Reason) {rest : List Char}
    (hRest : Text.StopsAt Char.isDigit rest) (hPoint : ∀ c ∈ rest.head?, c ≠ '.') :
    scanFraction ended (fractionChars fraction ++ rest) = .ok (fraction, rest) := by
  cases fraction with
  | none =>
      have hNot : ∀ more, rest = '.' :: more → False := by
        rintro more rfl
        exact hPoint '.' rfl rfl
      exact scanFraction.eq_2 ended rest hNot
  | some digits =>
      have hDigits := hFraction digits rfl
      simp only [fractionChars, List.cons_append, scanFraction, takeWhile_digits hDigits hRest,
        dropWhile_digits hDigits hRest, isEmpty_digits hDigits]
      rfl

/-- A sign is taken if there is one, and digits are none. -/
theorem scanSign_append {sign : Option Char} (hSign : ∀ c ∈ sign, c = '+' ∨ c = '-')
    {digits : List Char} (hDigits : AreDigits digits) (rest : List Char) :
    scanSign (sign.toList ++ (digits ++ rest)) = (sign, digits ++ rest) := by
  cases sign with
  | some c => rcases hSign c rfl with rfl | rfl <;> rfl
  | none =>
      obtain ⟨c, more, rfl⟩ := List.exists_cons_of_ne_nil hDigits.1
      have hDigit := hDigits.2 c List.mem_cons_self
      refine scanSign.eq_3 _ ?_ ?_
      · intro others hText
        rw [(List.cons.inj hText).1] at hDigit
        exact absurd hDigit (by decide)
      · intro others hText
        rw [(List.cons.inj hText).1] at hDigit
        exact absurd hDigit (by decide)

theorem scanExponent_append {numeral : Numeral} (h : numeral.IsProper) (ended : Reason)
    {rest : List Char} (hRest : Ends rest) :
    scanExponent ended (exponentChars numeral.exponent ++ rest) = .ok (numeral.exponent, rest) := by
  cases hExponent : numeral.exponent with
  | none =>
      cases rest with
      | nil => rfl
      | cons c more =>
          have hMark : ¬ (c = 'e' ∨ c = 'E') := not_or.mpr (hRest c rfl).2.2
          simp [exponentChars, scanExponent, hMark]
  | some exponent =>
      have hDigits := h.digits exponent hExponent
      simp only [exponentChars, List.cons_append, List.append_assoc, scanExponent,
        scanSign_append (h.sign exponent hExponent) hDigits, takeWhile_digits hDigits hRest.stopsAt,
        dropWhile_digits hDigits hRest.stopsAt, isEmpty_digits hDigits, h.mark exponent hExponent,
        if_true]
      rfl

/-- A correct numeral is taken, if what follows does not go on with it. -/
theorem scanNumeral_digitChars {numeral : Numeral} (h : numeral.IsProper) (negative : Bool)
    (ended : Reason) {rest : List Char} (hRest : Ends rest) :
    scanNumeral negative ended (numeral.digitChars ++ rest) =
      .ok ({ numeral with negative := negative }, rest) := by
  have hExponent := stopsAt_exponentChars h.mark hRest
  have hPoint : ∀ c ∈ (exponentChars numeral.exponent ++ rest).head?, c ≠ '.' := by
    intro c hc
    cases hPart : numeral.exponent with
    | none =>
        rw [hPart] at hc
        exact (hRest c hc).2.1
    | some exponent =>
        rw [hPart] at hc
        obtain rfl : exponent.mark = c := Option.some.inj hc
        rcases h.mark exponent hPart with hMark | hMark <;> rw [hMark] <;> decide
  rw [Numeral.digitChars, List.append_assoc, List.append_assoc, scanNumeral,
    scanWhole_append h ended (stopsAt_fractionChars hExponent)]
  simp only
  rw [scanFraction_append h.fraction ended hExponent hPoint]
  simp only
  rw [scanExponent_append h ended hRest]

/-- The digits in front of a text, if there are any. -/
theorem areDigits_takeWhile {text : List Char}
    (h : ¬ (text.takeWhile Char.isDigit).isEmpty = true) :
    AreDigits (text.takeWhile Char.isDigit) := by
  refine ⟨?_, ?_⟩
  · rintro hNil
    rw [hNil] at h
    exact h rfl
  · intro c hc
    exact List.mem_takeWhile_imp hc

theorem scanWhole_sound {ended : Reason} {text whole rest : List Char}
    (h : scanWhole ended text = .ok (whole, rest)) :
    text = whole ++ rest ∧ AreDigits whole ∧ (whole.head? = some '0' → whole = ['0']) := by
  revert h
  fun_cases scanWhole ended text with
  | case2 tail hAlone =>
      intro h
      cases h
      exact ⟨rfl, ⟨by simp, by simp⟩, fun _ => rfl⟩
  | case4 text hDigits hNoZero =>
      rw [if_neg hDigits]
      intro h
      cases h
      refine ⟨List.takeWhile_append_dropWhile.symm, areDigits_takeWhile hDigits, ?_⟩
      intro hZero
      obtain ⟨more, hMore⟩ := List.head?_eq_some_iff.mp hZero
      have hText := @List.takeWhile_append_dropWhile _ Char.isDigit text
      rw [hMore] at hText
      exact absurd hText.symm (hNoZero _)
  | case3 text hDigits hNoZero =>
      rw [if_pos hDigits]
      intro h
      cases h
  | case1 =>
      intro h
      cases h

theorem scanFraction_sound {ended : Reason} {text rest : List Char}
    {fraction : Option (List Char)} (h : scanFraction ended text = .ok (fraction, rest)) :
    text = fractionChars fraction ++ rest ∧ ∀ digits ∈ fraction, AreDigits digits := by
  revert h
  fun_cases scanFraction ended text with
  | case2 tail hDigits =>
      intro h
      cases h
      refine ⟨?_, ?_⟩
      · rw [fractionChars, List.cons_append, List.takeWhile_append_dropWhile]
      · intro digits hMem
        rw [← Option.some.inj hMem]
        exact areDigits_takeWhile hDigits
  | case3 text hPoint =>
      intro h
      cases h
      exact ⟨rfl, by simp⟩
  | case1 =>
      intro h
      cases h

theorem scanSign_sound (text : List Char) :
    text = (scanSign text).1.toList ++ (scanSign text).2 ∧
      ∀ c ∈ (scanSign text).1, c = '+' ∨ c = '-' := by
  fun_cases scanSign text with
  | case1 tail => simp
  | case2 tail => simp
  | case3 text hPlus hMinus => simp

theorem scanExponent_sound {ended : Reason} {text rest : List Char}
    {exponent : Option Exponent} (h : scanExponent ended text = .ok (exponent, rest)) :
    text = exponentChars exponent ++ rest ∧
      ∀ part ∈ exponent, (part.mark = 'e' ∨ part.mark = 'E') ∧
        (∀ sign ∈ part.sign, sign = '+' ∨ sign = '-') ∧ AreDigits part.digits := by
  revert h
  fun_cases scanExponent ended text with
  | case1 | case4 =>
      intro h
      cases h
      exact ⟨rfl, by simp⟩
  | case3 mark tail hMark digits hDigits =>
      intro h
      cases h
      obtain ⟨hText, hSign⟩ := scanSign_sound tail
      refine ⟨?_, ?_⟩
      · rw [exponentChars, List.cons_append, List.append_assoc, List.takeWhile_append_dropWhile,
          ← hText]
      · intro part hMem
        rw [← Option.some.inj hMem]
        exact ⟨hMark, hSign, areDigits_takeWhile hDigits⟩
  | case2 =>
      intro h
      cases h

/-- What is taken as a number is a correct numeral. -/
theorem scanNumeral_sound {negative : Bool} {ended : Reason} {text rest : List Char}
    {numeral : Numeral} (h : scanNumeral negative ended text = .ok (numeral, rest)) :
    numeral.IsProper ∧ numeral.negative = negative ∧ text = numeral.digitChars ++ rest := by
  revert h
  fun_cases scanNumeral negative ended text with
  | case4 whole behindWhole hWhole fraction behindFraction hFraction exponent behind hExponent =>
      intro h
      cases h
      obtain ⟨hText, hDigits, hZero⟩ := scanWhole_sound hWhole
      obtain ⟨hMore, hPoint⟩ := scanFraction_sound hFraction
      obtain ⟨hLast, hParts⟩ := scanExponent_sound hExponent
      refine ⟨?_, rfl, ?_⟩
      · exact
          { whole := hDigits
            noLeadingZero := hZero
            fraction := hPoint
            mark := fun part hMem => (hParts part hMem).1
            sign := fun part hMem => (hParts part hMem).2.1
            digits := fun part hMem => (hParts part hMem).2.2 }
      · rw [hText, hMore, hLast, Numeral.digitChars, List.append_assoc, List.append_assoc]
  | case1 | case2 | case3 =>
      intro h
      cases h

/-! ## Hexadecimal digits -/

private theorem hexValue?_getElem :
    ∀ value : Fin 16, hexValue? "0123456789abcdef".toList[value] = some value.val ∧
      hexValue? "0123456789ABCDEF".toList[value] = some value.val := by decide

private theorem isHexDigit_ofNat :
    (∀ code < 58, 48 ≤ code → IsHexDigit (Char.ofNat code) (code - 48)) ∧
      (∀ code < 103, 97 ≤ code → IsHexDigit (Char.ofNat code) (code - 97 + 10)) ∧
      ∀ code < 71, 65 ≤ code → IsHexDigit (Char.ofNat code) (code - 65 + 10) := by
  unfold IsHexDigit
  decide

/-- The reader knows the hexadecimal digits and their values. -/
theorem hexValue?_eq_some_iff {c : Char} {value : Nat} :
    hexValue? c = some value ↔ IsHexDigit c value := by
  constructor
  · intro h
    rw [← Char.ofNat_toNat c]
    unfold hexValue? at h
    split_ifs at h with hDigit hLower hUpper
    · rw [← Option.some.inj h]
      exact isHexDigit_ofNat.1 c.toNat (Nat.lt_succ_of_le hDigit.2) hDigit.1
    · rw [← Option.some.inj h]
      exact isHexDigit_ofNat.2.1 c.toNat (Nat.lt_succ_of_le hLower.2) hLower.1
    · rw [← Option.some.inj h]
      exact isHexDigit_ofNat.2.2 c.toNat (Nat.lt_succ_of_le hUpper.2) hUpper.1
  · rintro (h | h)
    · obtain ⟨hBound, rfl⟩ := List.getElem?_eq_some_iff.mp h
      exact (hexValue?_getElem ⟨value, hBound⟩).1
    · obtain ⟨hBound, rfl⟩ := List.getElem?_eq_some_iff.mp h
      exact (hexValue?_getElem ⟨value, hBound⟩).2

theorem readUnit_of_isUnit {code : Nat} {text rest : List Char} (h : IsUnit code text rest) :
    readUnit text = .ok (code, rest) := by
  obtain ⟨ha, hb, hc, hd⟩ := h
  rw [← hexValue?_eq_some_iff] at ha hb hc hd
  simp [readUnit, hexUnit?, ha, hb, hc, hd]

/-- Four characters with a value are the digits of a code unit. -/
theorem isUnit_of_hexUnit? {code : Nat} {text : List Char}
    (h : hexUnit? (text.take 4) = some code) : IsUnit code text (text.drop 4) := by
  generalize hFour : text.take 4 = four at h
  revert h
  fun_cases hexUnit? four with
  | case1 a b c d =>
      intro h
      simp only [Option.bind_eq_bind, Option.bind_eq_some_iff, hexValue?_eq_some_iff,
        Option.pure_def, Option.some.injEq] at h
      obtain ⟨w, ha, x, hb, y, hc, z, hd, rfl⟩ := h
      have hText : text = a :: b :: c :: d :: text.drop 4 := by
        calc text
            = text.take 4 ++ text.drop 4 := (List.take_append_drop 4 text).symm
          _ = a :: b :: c :: d :: text.drop 4 := by rw [hFour]; rfl
      exact hText ▸ .mk ha hb hc hd _
  | case2 =>
      intro h
      cases h

theorem readUnit_sound {code : Nat} {text rest : List Char} (h : readUnit text = .ok (code, rest)) :
    IsUnit code text rest := by
  revert h
  fun_cases readUnit text with
  | case1 unit hUnit =>
      intro h
      cases h
      exact isUnit_of_hexUnit? hUnit
  | case2 | case3 =>
      intro h
      cases h

/-! ## Strings -/

theorem simpleEscape?_eq_some_iff {letter c : Char} :
    simpleEscape? letter = some c ↔ (letter, c) ∈ shortEscapes := by
  constructor
  · fun_cases simpleEscape? letter with
    | case9 =>
        intro h
        cases h
    -- the other letters are those of the list
    | _ =>
        intro h
        obtain rfl := Option.some.inj h
        decide
  · intro h
    simp only [shortEscapes, List.mem_cons, Prod.mk.injEq, List.not_mem_nil, or_false] at h
    rcases h with ⟨rfl, rfl⟩ | ⟨rfl, rfl⟩ | ⟨rfl, rfl⟩ | ⟨rfl, rfl⟩ | ⟨rfl, rfl⟩ | ⟨rfl, rfl⟩ |
      ⟨rfl, rfl⟩ | ⟨rfl, rfl⟩ <;> rfl

/-- A faulty escape makes the string faulty. -/
theorem readChars_backslash_error {text : List Char} {fault : Fault}
    (h : readEscape text = .error fault) : readChars ('\\' :: text) = .error fault := by
  rw [readChars]
  split
  case h_1 hFault =>
      rw [h] at hFault
      cases hFault
      rfl
  case h_2 hRead =>
      rw [h] at hRead
      cases hRead

theorem toOption_cons (c : Char) (reading : Reading (List Char)) :
    (reading.cons c).toOption = reading.toOption.map fun read => (c :: read.1, read.2) :=
  toOption_map reading _

/-- A code unit that is no half of a pair is a character. -/
theorem readEscape_unit {code : Nat} {text rest : List Char} (h : IsUnit code text rest)
    (hTrailing : isTrailing code = false) (hLeading : isLeading code = false) :
    readEscape ('u' :: text) = .ok (Char.ofNat code, rest) := by
  simp [readEscape, readCode, readUnit_of_isUnit h, hTrailing, hLeading]

theorem readEscape_trailing {code : Nat} {text rest : List Char} (h : IsUnit code text rest)
    (hTrailing : isTrailing code = true) :
    readEscape ('u' :: text) = .error (.before rest .loneSurrogate) := by
  simp [readEscape, readCode, readUnit_of_isUnit h, hTrailing]

theorem isTrailing_iff {code : Nat} : isTrailing code = true ↔ 0xDC00 ≤ code ∧ code ≤ 0xDFFF := by
  simp [isTrailing]

theorem isLeading_iff {code : Nat} : isLeading code = true ↔ 0xD800 ≤ code ∧ code ≤ 0xDBFF := by
  simp [isLeading]

theorem isTrailing_of_isLeading {code : Nat} (h : isLeading code = true) :
    isTrailing code = false := by
  rw [isLeading_iff] at h
  rw [← Bool.not_eq_true, isTrailing_iff]
  omega

theorem readEscape_leading {code : Nat} {text rest : List Char} (h : IsUnit code text rest)
    (hLeading : isLeading code = true) : readEscape ('u' :: text) = readTrailing code rest := by
  simp [readEscape, readCode, readUnit_of_isUnit h, hLeading, isTrailing_of_isLeading hLeading]

/-- Only a code unit can be the second half of a pair. -/
theorem readTrailing_of_not_unit (code : Nat) {text : List Char}
    (h : ∀ more, text ≠ '\\' :: 'u' :: more) : ∃ fault, readTrailing code text = .error fault := by
  fun_cases readTrailing code text with
  | case1 more | case2 more | case3 more => exact absurd rfl (h more)
  | case4 | case5 | case6 | case7 => exact ⟨_, rfl⟩

theorem not_unit_of_inside {pieces : List Piece} {text rest : List Char}
    (h : Inside pieces text rest) (hPieces : ∀ code others, pieces ≠ .unit code :: others)
    (more : List Char) : text ≠ '\\' :: 'u' :: more := by
  rintro rfl
  cases h with
  | cons hPiece _ =>
      cases hPiece with
      | plain _ hSlash => exact hSlash rfl
      | short hLetter =>
          exact absurd (simpleEscape?_eq_some_iff.mpr hLetter) (by simp [simpleEscape?])
      | unit => exact hPieces _ _ rfl

/-- A piece that stands for a character is read as that character. -/
theorem readChars_of_char {c : Char} {text rest : List Char} (h : (Piece.char c).Begins text rest) :
    readChars text = (readChars rest).cons c := by
  cases h with
  | plain hQuote hSlash hControl =>
      rw [readChars.eq_4 c rest hQuote hSlash, if_neg (Char.not_lt.mpr hControl)]
  | short hLetter =>
      exact readChars_backslash (readEscape_short (simpleEscape?_eq_some_iff.mpr hLetter) rest)

theorem inside_cons_iff {piece : Piece} {pieces : List Piece} {text rest : List Char} :
    Inside (piece :: pieces) text rest ↔
      ∃ more, piece.Begins text more ∧ Inside pieces more rest := by
  constructor
  · intro h
    cases h with
    | cons hPiece hPieces => exact ⟨_, hPiece, hPieces⟩
  · rintro ⟨more, hPiece, hPieces⟩
    exact .cons hPiece hPieces

theorem inside_unit_iff {code : Nat} {pieces : List Piece} {text rest : List Char} :
    Inside (.unit code :: pieces) text rest ↔
      ∃ digits more, text = '\\' :: 'u' :: digits ∧ IsUnit code digits more ∧
        Inside pieces more rest := by
  constructor
  · intro h
    cases h with
    | cons hPiece hPieces =>
        cases hPiece with
        | unit hUnit => exact ⟨_, _, rfl, hUnit, hPieces⟩
  · rintro ⟨digits, more, rfl, hUnit, hPieces⟩
    exact .cons (.unit hUnit) hPieces

theorem decode_trailing {code : Nat} (h : 0xDC00 ≤ code ∧ code ≤ 0xDFFF) (pieces : List Piece) :
    decode (.unit code :: pieces) = none := by
  rw [decode.eq_def]
  exact if_pos h

theorem decode_unit {code : Nat} (hTrailing : ¬ (0xDC00 ≤ code ∧ code ≤ 0xDFFF))
    (hLeading : ¬ (0xD800 ≤ code ∧ code ≤ 0xDBFF)) (pieces : List Piece) :
    decode (.unit code :: pieces) = (decode pieces).map (Char.ofNat code :: ·) := by
  rw [decode.eq_def]
  simp only [if_neg hTrailing, if_neg hLeading]

/-- A string is read as its text, and refused if it has none. -/
theorem readChars_of_inside {pieces : List Piece} {text rest : List Char}
    (h : Inside pieces text rest) :
    (readChars text).toOption = (decode pieces).map fun chars => (chars, rest) := by
  induction pieces using decode.induct generalizing text with
  | case1 =>
      cases h
      simp [readChars, decode, Except.toOption]
  | case2 c pieces ih =>
      obtain ⟨more, hPiece, hPieces⟩ := inside_cons_iff.mp h
      rw [readChars_of_char hPiece, toOption_cons, ih hPieces, decode]
      simp [Function.comp_def]
  | case3 code pieces hTrailing =>
      obtain ⟨digits, more, rfl, hUnit, -⟩ := inside_unit_iff.mp h
      rw [readChars_backslash_error (readEscape_trailing hUnit (isTrailing_iff.mpr hTrailing)),
        decode_trailing hTrailing]
      rfl
  | case4 code hTrailing hLeading second pieces hSecond ih =>
      obtain ⟨digits, more, rfl, hUnit, hMore⟩ := inside_unit_iff.mp h
      obtain ⟨others, behind, rfl, hOther, hPieces⟩ := inside_unit_iff.mp hMore
      have hRead := readEscape_leading hUnit (isLeading_iff.mpr hLeading)
      rw [readTrailing, readUnit_of_isUnit hOther] at hRead
      simp only [isTrailing_iff.mpr hSecond, if_true] at hRead
      rw [readChars_backslash hRead, toOption_cons, ih hPieces]
      simp [decode, hTrailing, hLeading, hSecond, Function.comp_def]
  | case5 code hTrailing hLeading second pieces hSecond =>
      obtain ⟨digits, more, rfl, hUnit, hMore⟩ := inside_unit_iff.mp h
      obtain ⟨others, behind, rfl, hOther, -⟩ := inside_unit_iff.mp hMore
      have hRead := readEscape_leading hUnit (isLeading_iff.mpr hLeading)
      rw [readTrailing, readUnit_of_isUnit hOther] at hRead
      simp only [isTrailing_iff, if_neg hSecond] at hRead
      rw [readChars_backslash_error hRead]
      simp [decode, hTrailing, hLeading, hSecond, Except.toOption]
  | case6 code pieces hTrailing hLeading hNoUnit =>
      obtain ⟨digits, more, rfl, hUnit, hMore⟩ := inside_unit_iff.mp h
      have hRead := readEscape_leading hUnit (isLeading_iff.mpr hLeading)
      obtain ⟨fault, hFault⟩ :=
        readTrailing_of_not_unit code (not_unit_of_inside hMore hNoUnit)
      rw [readChars_backslash_error (hRead.trans hFault)]
      simp [decode, hTrailing, hLeading, Except.toOption]
  | case7 code pieces hTrailing hLeading ih =>
      obtain ⟨digits, more, rfl, hUnit, hPieces⟩ := inside_unit_iff.mp h
      have hRead : readEscape ('u' :: digits) = .ok (Char.ofNat code, more) := by
        refine readEscape_unit hUnit ?_ ?_
        · rwa [← Bool.not_eq_true, isTrailing_iff]
        · rwa [← Bool.not_eq_true, isLeading_iff]
      rw [readChars_backslash hRead, toOption_cons, ih hPieces, decode_unit hTrailing hLeading]
      simp [Function.comp_def]

/-- Whether a text starts with pieces that stand for one character, whatever pieces
follow. -/
structure IsSpelled (pieces : List Piece) (c : Char) (text rest : List Char) : Prop where
  decodes : ∀ others, decode (pieces ++ others) = (decode others).map (c :: ·)
  inside : ∀ others last, Inside others rest last → Inside (pieces ++ others) text last

theorem readTrailing_sound {leading : Nat} {c : Char} {text rest : List Char}
    (h : readTrailing leading text = .ok (c, rest)) :
    ∃ second digits, text = '\\' :: 'u' :: digits ∧ IsUnit second digits rest ∧
      isTrailing second = true ∧
      c = Char.ofNat (0x10000 + (leading - 0xD800) * 0x400 + (second - 0xDC00)) := by
  revert h
  fun_cases readTrailing leading text with
  | case2 digits second behind hUnit hTrailing =>
      intro h
      obtain ⟨rfl, rfl⟩ := Prod.mk.inj (Except.ok.inj h)
      exact ⟨second, digits, rfl, readUnit_sound hUnit, hTrailing, rfl⟩
  | case1 | case3 | case4 | case5 | case6 | case7 =>
      intro h
      cases h

/-- A hexadecimal escape is one code unit, or two that form a pair. -/
theorem readCode_sound {c : Char} {text rest : List Char} (h : readCode text = .ok (c, rest)) :
    ∃ pieces, IsSpelled pieces c ('\\' :: 'u' :: text) rest := by
  revert h
  fun_cases readCode text with
  | case3 code more hUnit hTrailing hLeading =>
      intro h
      obtain ⟨second, digits, rfl, hSecond, hPair, hChar⟩ := readTrailing_sound h
      rw [isTrailing_iff] at hTrailing hPair
      rw [isLeading_iff] at hLeading
      refine ⟨[.unit code, .unit second], ?_, ?_⟩
      · intro others
        simp [decode, hTrailing, hLeading, hPair, hChar]
      · intro others last hOthers
        exact .cons (.unit (readUnit_sound hUnit)) (.cons (.unit hSecond) hOthers)
  | case4 code more hUnit hTrailing hLeading =>
      intro h
      cases h
      rw [isTrailing_iff] at hTrailing
      rw [isLeading_iff] at hLeading
      refine ⟨[.unit code], decode_unit hTrailing hLeading, ?_⟩
      intro others last hOthers
      exact .cons (.unit (readUnit_sound hUnit)) hOthers
  | case1 | case2 =>
      intro h
      cases h

theorem readEscape_sound {c : Char} {text rest : List Char} (h : readEscape text = .ok (c, rest)) :
    ∃ pieces, IsSpelled pieces c ('\\' :: text) rest := by
  revert h
  fun_cases readEscape text with
  | case2 digits => exact readCode_sound
  | case3 letter tail hLetter meant hMeant =>
      intro h
      cases h
      refine ⟨[.char c], ?_, ?_⟩
      · intro others
        rw [List.singleton_append, decode]
      · intro others last hOthers
        exact .cons (.short (simpleEscape?_eq_some_iff.mp hMeant) _) hOthers
  | case1 | case4 =>
      intro h
      cases h

/-- What is read as a string is one, and it is read as its text. -/
theorem readChars_sound {text chars rest : List Char} (h : readChars text = .ok (chars, rest)) :
    ∃ pieces, decode pieces = some chars ∧ Inside pieces text rest := by
  revert h
  fun_induction readChars text generalizing chars with
  | case2 tail =>
      intro h
      cases h
      exact ⟨[], rfl, .nil _⟩
  | case4 tail c behind hEscape ih =>
      intro h
      obtain ⟨others, hMore, rfl⟩ := Reading.cons_eq_ok h
      obtain ⟨pieces, hDecode, hInside⟩ := ih hMore
      obtain ⟨first, hFirst⟩ := readEscape_sound hEscape
      refine ⟨first ++ pieces, ?_, hFirst.inside _ _ hInside⟩
      rw [hFirst.decodes, hDecode]
      rfl
  | case6 c tail hQuote hSlash hControl ih =>
      intro h
      obtain ⟨others, hMore, rfl⟩ := Reading.cons_eq_ok h
      obtain ⟨pieces, hDecode, hInside⟩ := ih hMore
      have hPlain := Piece.Begins.plain hQuote hSlash (Char.not_lt.mp hControl)
      refine ⟨.char c :: pieces, ?_, .cons (hPlain _) hInside⟩
      rw [decode, hDecode]
      rfl
  | case1 | case3 | case5 =>
      intro h
      cases h

/-! ## Skipped strings -/

theorem skipEscape_of_unit {code : Nat} {text rest : List Char} (h : IsUnit code text rest) :
    skipEscape ('u' :: text) = .ok rest := by
  simp [skipEscape, readUnit_of_isUnit h]

theorem skipEscape_of_short {letter c : Char} (h : (letter, c) ∈ shortEscapes) (rest : List Char) :
    skipEscape (letter :: rest) = .ok rest := by
  have hMeans := simpleEscape?_eq_some_iff.mpr h
  have hLetter : letter ≠ 'u' := by
    rintro rfl
    cases hMeans
  rw [skipEscape.eq_3 letter rest hLetter, hMeans]
  rfl

theorem skipEscape_sound {text rest : List Char} (h : skipEscape text = .ok rest) :
    ∃ piece : Piece, piece.Begins ('\\' :: text) rest := by
  revert h
  fun_cases skipEscape text with
  | case3 digits unit behind hUnit =>
      intro h
      cases h
      exact ⟨_, .unit (readUnit_sound hUnit)⟩
  | case4 letter tail hLetter hEscape =>
      intro h
      cases h
      obtain ⟨c, hMeans⟩ := Option.isSome_iff_exists.mp hEscape
      exact ⟨.char c, .short (simpleEscape?_eq_some_iff.mp hMeans) _⟩
  | case1 | case2 | case5 =>
      intro h
      cases h

theorem skipString_backslash {text rest : List Char} (h : skipEscape text = .ok rest) :
    skipString ('\\' :: text) = skipString rest := by
  rw [skipString]
  split
  case h_1 hFault =>
      rw [h] at hFault
      cases hFault
  case h_2 hSkip =>
      rw [h] at hSkip
      cases hSkip
      rfl

/-- A string that nobody asked for is skipped, whether it has a text or not. -/
theorem skipString_of_inside {pieces : List Piece} {text rest : List Char}
    (h : Inside pieces text rest) : skipString text = .ok rest := by
  induction h with
  | nil rest => rw [skipString]
  | cons hPiece hPieces ih =>
      cases hPiece with
      | plain hQuote hSlash hControl =>
          rw [skipString.eq_4 _ _ hQuote hSlash, if_neg (Char.not_lt.mpr hControl), ih]
      | short hLetter => rw [skipString_backslash (skipEscape_of_short hLetter _), ih]
      | unit hUnit => rw [skipString_backslash (skipEscape_of_unit hUnit), ih]

theorem skipString_sound {text rest : List Char} (h : skipString text = .ok rest) :
    ∃ pieces, Inside pieces text rest := by
  revert h
  fun_induction skipString text with
  | case2 tail =>
      intro h
      cases h
      exact ⟨[], .nil _⟩
  | case4 tail behind hEscape ih =>
      intro h
      obtain ⟨piece, hPiece⟩ := skipEscape_sound hEscape
      obtain ⟨pieces, hPieces⟩ := ih h
      exact ⟨piece :: pieces, .cons hPiece hPieces⟩
  | case6 c tail hQuote hSlash hControl ih =>
      intro h
      obtain ⟨pieces, hPieces⟩ := ih h
      exact ⟨.char c :: pieces, .cons (.plain hQuote hSlash (Char.not_lt.mp hControl) _) hPieces⟩
  | case1 | case3 | case5 =>
      intro h
      cases h

/-! ## Strings of both kinds -/

variable {τ : Type} {spelling : Spelling τ}

theorem readString_of_spells {content : τ} {text rest : List Char}
    (h : spelling.Spells content text rest) :
    (readString text).toOption = (spelling.text? content).map fun text => (text, rest) := by
  obtain ⟨pieces, hInside, hText⟩ := spelling.exists_inside h
  rw [hText, readString, toOption_map, readChars_of_inside hInside, Option.map_map, Option.map_map]
  rfl

theorem skipString_of_spells {content : τ} {text rest : List Char}
    (h : spelling.Spells content text rest) : skipString text = .ok rest := by
  obtain ⟨pieces, hInside, -⟩ := spelling.exists_inside h
  exact skipString_of_inside hInside

theorem readString_sound {content : String} {text rest : List Char}
    (h : readString text = .ok (content, rest)) :
    ∃ pieces, Spelling.pieces.text? pieces = some content ∧
      Spelling.pieces.Spells pieces text rest := by
  unfold readString at h
  cases hRead : readChars text with
  | error fault =>
      rw [hRead] at h
      cases h
  | ok read =>
      rw [hRead] at h
      obtain ⟨rfl, rfl⟩ := Prod.mk.inj (Except.ok.inj h)
      obtain ⟨pieces, hDecode, hInside⟩ := readChars_sound hRead
      exact ⟨pieces, by simp [Spelling.pieces, hDecode], hInside⟩

end SlotGrid.Json
