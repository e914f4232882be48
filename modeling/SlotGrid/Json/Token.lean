import SlotGrid.Json.Fault

/-!
# Tokens of a JSON text

Readers for the pieces that hold no other value: the words `true`, `false` and
`null`, numbers and strings. A reader takes the text not read yet and gives back
what it read with the text that remains. A value that is wanted is *read*; a
value that nobody asked for is *skipped*, which checks less: a skipped number
has no range and a skipped string may hold half a surrogate pair.

## Main definitions

* `readWord`, `readNumber`, `skipNumber`.
* `readString` and `skipString`, which start behind the opening quote.

## Main results

* `readString_length`, `skipString_length`, `skipNumber_length` — what remains is
  shorter, so that readers built from these come to an end.
-/

namespace SlotGrid.Json

/-- What a reader gives: something read and the text that remains. -/
abbrev Reading (α : Type) := Except Fault (α × List Char)

/-- The characters that may stand between tokens. -/
def isSpace (c : Char) : Bool := c = ' ' || c = '\t' || c = '\n' || c = '\r'

/-- The text from its next token on. -/
def skipSpace (text : List Char) : List Char := text.dropWhile isSpace

theorem skipSpace_length (text : List Char) : (skipSpace text).length ≤ text.length :=
  (List.dropWhile_sublist _).length_le

/-- What is behind the first character of the next token is shorter. -/
theorem length_lt_of_skipSpace {text rest : List Char} {c : Char}
    (h : skipSpace text = c :: rest) : rest.length < text.length := by
  have hText := skipSpace_length text
  rw [h] at hText
  exact hText

/-! ## Words -/

/-- Reads the rest of a word of which the first letter is read. -/
def readWord : List Char → List Char → Except Fault (List Char)
  | [], text => .ok text
  | _ :: _, [] => .error (.before [] .endInValue)
  | letter :: word, c :: text =>
    if c = letter then readWord word text
    else .error (.after (c :: text) .expectedWord)

theorem readWord_length {word text rest : List Char} (h : readWord word text = .ok rest) :
    rest.length ≤ text.length := by
  revert h
  fun_induction readWord word text with
  | case1 text =>
      intro h
      cases h
      exact Nat.le_refl _
  | case3 word letter text ih =>
      intro h
      exact Nat.le_succ_of_le (ih h)
  -- the other branches end in a fault
  | case2 | case4 =>
      intro h
      cases h

/-! ## Numbers -/

/-- The fault of a numeral in which a digit is missing; `ended` is the reason
when the text ends there. -/
def noDigit (ended : Reason) (rest : List Char) : Fault :=
  .after rest (if rest.isEmpty then ended else .invalidNumber)

/-- Takes the digits before the point. A leading zero stands alone. -/
def scanWhole (ended : Reason) (text : List Char) : Reading (List Char) :=
  match text with
  | '0' :: rest =>
    if (rest.head?.any Char.isDigit) then .error (.after rest .invalidNumber)
    else .ok (['0'], rest)
  | _ =>
    if (text.takeWhile Char.isDigit).isEmpty then .error (noDigit ended text)
    else .ok (text.takeWhile Char.isDigit, text.dropWhile Char.isDigit)

/-- Takes a point and the digits behind it, if there is a point. -/
def scanFraction (ended : Reason) (text : List Char) : Reading (Option (List Char)) :=
  match text with
  | '.' :: rest =>
    if (rest.takeWhile Char.isDigit).isEmpty then .error (noDigit ended rest)
    else .ok (some (rest.takeWhile Char.isDigit), rest.dropWhile Char.isDigit)
  | _ => .ok (none, text)

/-- Takes a sign, if there is one. -/
def scanSign : List Char → Option Char × List Char
  | '+' :: rest => (some '+', rest)
  | '-' :: rest => (some '-', rest)
  | rest => (none, rest)

/-- Takes an exponent, if there is one. -/
def scanExponent (ended : Reason) (text : List Char) : Reading (Option Exponent) :=
  match text with
  | [] => .ok (none, [])
  | mark :: rest =>
    if mark = 'e' ∨ mark = 'E' then
      let digits := (scanSign rest).2
      if (digits.takeWhile Char.isDigit).isEmpty then .error (noDigit ended digits)
      else .ok (some ⟨mark, (scanSign rest).1, digits.takeWhile Char.isDigit⟩,
        digits.dropWhile Char.isDigit)
    else .ok (none, mark :: rest)

/-- Takes a numeral whose sign is read. -/
def scanNumeral (negative : Bool) (ended : Reason) (text : List Char) : Reading Numeral :=
  match scanWhole ended text with
  | .error fault => .error fault
  | .ok (whole, rest) =>
    match scanFraction ended rest with
    | .error fault => .error fault
    | .ok (fraction, rest) =>
      match scanExponent ended rest with
      | .error fault => .error fault
      | .ok (exponent, rest) => .ok (⟨negative, whole, fraction, exponent⟩, rest)

/-- Reads a number whose sign is read. -/
def readNumber (negative : Bool) (text : List Char) : Reading Number :=
  match scanNumeral negative .endInValue text with
  | .error fault => .error fault
  | .ok (numeral, rest) =>
    match numeral.number? with
    | some number => .ok (number, rest)
    | none => .error ⟨.numberOutOfRange, byteCount rest + numeral.unread⟩

/-- Skips a number whose sign is read. -/
def skipNumber (text : List Char) : Except Fault (List Char) :=
  match scanNumeral false .invalidNumber text with
  | .error fault => .error fault
  | .ok (_, rest) => .ok rest

private theorem dropWhile_length (p : Char → Bool) (text : List Char) :
    (text.dropWhile p).length ≤ text.length :=
  (List.dropWhile_sublist _).length_le

private theorem dropWhile_length_lt {p : Char → Bool} {text : List Char}
    (h : ¬ (text.takeWhile p).isEmpty = true) : (text.dropWhile p).length < text.length := by
  have hTaken : 0 < (text.takeWhile p).length :=
    List.length_pos_iff.mpr fun hNil => h (List.isEmpty_iff.mpr hNil)
  have hSplit : (text.takeWhile p).length + (text.dropWhile p).length = text.length := by
    rw [← List.length_append, List.takeWhile_append_dropWhile]
  omega

theorem scanWhole_length {ended : Reason} {text whole rest : List Char}
    (h : scanWhole ended text = .ok (whole, rest)) : rest.length < text.length := by
  revert h
  fun_cases scanWhole ended text with
  | case2 tail hAlone =>
      intro h
      cases h
      exact Nat.lt_succ_self _
  | case4 text hDigits hZero =>
      rw [if_neg hDigits]
      intro h
      cases h
      exact dropWhile_length_lt hDigits
  | case3 text hDigits hZero =>
      rw [if_pos hDigits]
      intro h
      cases h
  | case1 =>
      intro h
      cases h

theorem scanFraction_length {ended : Reason} {text rest : List Char}
    {fraction : Option (List Char)} (h : scanFraction ended text = .ok (fraction, rest)) :
    rest.length ≤ text.length := by
  revert h
  fun_cases scanFraction ended text with
  | case2 tail hDigits =>
      intro h
      cases h
      exact Nat.le_succ_of_le (dropWhile_length Char.isDigit tail)
  | case3 text hPoint =>
      intro h
      cases h
      exact Nat.le_refl _
  | case1 =>
      intro h
      cases h

theorem scanSign_length (text : List Char) : (scanSign text).2.length ≤ text.length := by
  fun_cases scanSign text with
  | case1 tail => exact Nat.le_succ _
  | case2 tail => exact Nat.le_succ _
  | case3 text hPlus hMinus => exact Nat.le_refl _

theorem scanExponent_length {ended : Reason} {text rest : List Char}
    {exponent : Option Exponent} (h : scanExponent ended text = .ok (exponent, rest)) :
    rest.length ≤ text.length := by
  revert h
  fun_cases scanExponent ended text with
  | case1 | case4 =>
      intro h
      cases h
      exact Nat.le_refl _
  | case3 mark tail hMark digits hDigits =>
      intro h
      cases h
      have hSign : digits.length ≤ tail.length := scanSign_length tail
      have hDigits := dropWhile_length Char.isDigit digits
      exact Nat.le_succ_of_le (by omega)
  | case2 =>
      intro h
      cases h

theorem scanNumeral_length {negative : Bool} {ended : Reason} {text rest : List Char}
    {numeral : Numeral} (h : scanNumeral negative ended text = .ok (numeral, rest)) :
    rest.length < text.length := by
  revert h
  fun_cases scanNumeral negative ended text with
  | case4 whole behindWhole hWhole fraction behindFraction hFraction exponent behind hExponent =>
      intro h
      cases h
      calc rest.length
          ≤ behindFraction.length := scanExponent_length hExponent
        _ ≤ behindWhole.length := scanFraction_length hFraction
        _ < text.length := scanWhole_length hWhole
  | case1 | case2 | case3 =>
      intro h
      cases h

theorem skipNumber_length {text rest : List Char} (h : skipNumber text = .ok rest) :
    rest.length < text.length := by
  revert h
  fun_cases skipNumber text with
  | case2 numeral behind hScan =>
      intro h
      cases h
      exact scanNumeral_length hScan
  | case1 =>
      intro h
      cases h

/-! ## Escapes -/

/-- The value of a hexadecimal digit. -/
def hexValue? (c : Char) : Option Nat :=
  if '0' ≤ c ∧ c ≤ '9' then some (c.toNat - '0'.toNat)
  else if 'a' ≤ c ∧ c ≤ 'f' then some (c.toNat - 'a'.toNat + 10)
  else if 'A' ≤ c ∧ c ≤ 'F' then some (c.toNat - 'A'.toNat + 10)
  else none

/-- The value of four hexadecimal digits. -/
def hexUnit? : List Char → Option Nat
  | [a, b, c, d] => do
    return (((← hexValue? a) * 16 + (← hexValue? b)) * 16 + (← hexValue? c)) * 16
      + (← hexValue? d)
  | _ => none

/-- Reads the four digits of a hexadecimal escape. Four bytes are taken before
they are looked at. -/
def readUnit (text : List Char) : Reading Nat :=
  match hexUnit? (text.take 4) with
  | some unit => .ok (unit, text.drop 4)
  | none =>
    if byteCount text < 4 then .error (.before [] .endInString)
    else .error ⟨.invalidEscape, byteCount text - 4⟩

/-- The character that a letter behind a backslash stands for. -/
def simpleEscape? : Char → Option Char
  | '"' => some '"'
  | '\\' => some '\\'
  | '/' => some '/'
  | 'b' => some '\x08'
  | 'f' => some '\x0c'
  | 'n' => some '\n'
  | 'r' => some '\r'
  | 't' => some '\t'
  | _ => none

/-- The first half of a surrogate pair. -/
def isLeading (unit : Nat) : Bool := 0xD800 ≤ unit && unit ≤ 0xDBFF

/-- The second half of a surrogate pair. -/
def isTrailing (unit : Nat) : Bool := 0xDC00 ≤ unit && unit ≤ 0xDFFF

/-- Reads the second half of a surrogate pair, escape included. -/
def readTrailing (leading : Nat) (text : List Char) : Reading Char :=
  match text with
  | '\\' :: 'u' :: rest =>
    match readUnit rest with
    | .error fault => .error fault
    | .ok (unit, rest) =>
      if isTrailing unit then
        .ok (Char.ofNat (0x10000 + (leading - 0xD800) * 0x400 + (unit - 0xDC00)), rest)
      else .error (.before rest .loneSurrogate)
  | ['\\'] => .error (.before [] .endInString)
  | '\\' :: rest => .error (.after rest .unfinishedSurrogate)
  | [] => .error (.before [] .endInString)
  | _ => .error (.after text .unfinishedSurrogate)

/-- Reads a hexadecimal escape behind its `u`: one unit, or two that form a
surrogate pair. -/
def readCode (text : List Char) : Reading Char :=
  match readUnit text with
  | .error fault => .error fault
  | .ok (unit, rest) =>
    if isTrailing unit then .error (.before rest .loneSurrogate)
    else if isLeading unit then readTrailing unit rest
    else .ok (Char.ofNat unit, rest)

/-- Reads an escape behind its backslash. -/
def readEscape (text : List Char) : Reading Char :=
  match text with
  | [] => .error (.before [] .endInString)
  | 'u' :: rest => readCode rest
  | c :: rest =>
    match simpleEscape? c with
    | some meant => .ok (meant, rest)
    | none => .error (.after text .invalidEscape)

/-- Skips an escape behind its backslash. -/
def skipEscape (text : List Char) : Except Fault (List Char) :=
  match text with
  | [] => .error (.before [] .endInString)
  | 'u' :: rest =>
    match readUnit rest with
    | .error fault => .error fault
    | .ok (_, rest) => .ok rest
  | c :: rest =>
    if (simpleEscape? c).isSome then .ok rest
    else .error (.after text .invalidEscape)

theorem readUnit_length {text rest : List Char} {unit : Nat}
    (h : readUnit text = .ok (unit, rest)) : rest.length ≤ text.length := by
  revert h
  fun_cases readUnit text with
  | case1 unit hUnit =>
      intro h
      cases h
      exact (List.drop_sublist 4 text).length_le
  | case2 | case3 =>
      intro h
      cases h

theorem readTrailing_length {leading : Nat} {text rest : List Char} {c : Char}
    (h : readTrailing leading text = .ok (c, rest)) : rest.length ≤ text.length := by
  revert h
  fun_cases readTrailing leading text with
  | case2 tail unit behind hUnit hTrailing =>
      intro h
      have hBehind := readUnit_length hUnit
      rw [← (Prod.mk.inj (Except.ok.inj h)).2]
      simp only [List.length_cons]
      omega
  | case1 | case3 | case4 | case5 | case6 | case7 =>
      intro h
      cases h

theorem readCode_length {text rest : List Char} {c : Char}
    (h : readCode text = .ok (c, rest)) : rest.length ≤ text.length := by
  revert h
  fun_cases readCode text with
  | case3 unit behind hUnit hTrailing hLeading =>
      intro h
      have hRest := readTrailing_length h
      have hBehind := readUnit_length hUnit
      omega
  | case4 unit behind hUnit hTrailing hLeading =>
      intro h
      cases h
      exact readUnit_length hUnit
  | case1 | case2 =>
      intro h
      cases h

theorem readEscape_length {text rest : List Char} {c : Char}
    (h : readEscape text = .ok (c, rest)) : rest.length < text.length := by
  revert h
  fun_cases readEscape text with
  | case2 tail =>
      intro h
      exact Nat.lt_succ_of_le (readCode_length h)
  | case3 letter tail hLetter meant hMeant =>
      intro h
      cases h
      exact Nat.lt_succ_self _
  | case1 | case4 =>
      intro h
      cases h

theorem skipEscape_length {text rest : List Char} (h : skipEscape text = .ok rest) :
    rest.length < text.length := by
  revert h
  fun_cases skipEscape text with
  | case3 tail unit behind hUnit =>
      intro h
      cases h
      exact Nat.lt_succ_of_le (readUnit_length hUnit)
  | case4 letter tail hLetter hMeant =>
      intro h
      cases h
      exact Nat.lt_succ_self _
  | case1 | case2 | case5 =>
      intro h
      cases h

/-! ## Strings -/

/-- Puts a character in front of what is read after it. -/
def Reading.cons (c : Char) (reading : Reading (List Char)) : Reading (List Char) :=
  reading.map fun (chars, rest) => (c :: chars, rest)

/-- Reads the characters of a string up to its closing quote. -/
def readChars (text : List Char) : Reading (List Char) :=
  match text with
  | [] => .error (.before [] .endInString)
  | '"' :: rest => .ok ([], rest)
  | '\\' :: rest =>
    match _h : readEscape rest with
    | .error fault => .error fault
    | .ok (c, more) => (readChars more).cons c
  | c :: rest =>
    if c < ' ' then .error (.before rest .controlCharacter)
    else (readChars rest).cons c
termination_by text.length
decreasing_by
  · exact Nat.lt_succ_of_lt (readEscape_length _h)
  · exact Nat.lt_succ_self _

/-- Reads a string behind its opening quote. -/
def readString (text : List Char) : Reading String :=
  (readChars text).map fun (chars, rest) => (String.ofList chars, rest)

/-- Skips a string behind its opening quote. -/
def skipString (text : List Char) : Except Fault (List Char) :=
  match text with
  | [] => .error (.before [] .endInString)
  | '"' :: rest => .ok rest
  | '\\' :: rest =>
    match _h : skipEscape rest with
    | .error fault => .error fault
    | .ok more => skipString more
  | c :: rest =>
    if c < ' ' then .error (.before (c :: rest) .controlCharacter)
    else skipString rest
termination_by text.length
decreasing_by
  · exact Nat.lt_succ_of_lt (skipEscape_length _h)
  · exact Nat.lt_succ_self _

theorem Reading.cons_eq_ok {c : Char} {reading : Reading (List Char)}
    {chars rest : List Char} (h : reading.cons c = .ok (chars, rest)) :
    ∃ more, reading = .ok (more, rest) ∧ chars = c :: more := by
  cases reading with
  | error fault => cases h
  | ok result =>
      obtain ⟨hChars, hRest⟩ := Prod.mk.inj (Except.ok.inj h)
      exact ⟨result.1, by rw [← hRest], hChars.symm⟩

theorem readChars_length {text chars rest : List Char}
    (h : readChars text = .ok (chars, rest)) : rest.length < text.length := by
  revert h
  fun_induction readChars text generalizing chars with
  | case2 tail =>
      intro h
      cases h
      exact Nat.lt_succ_self _
  | case4 tail c behind hEscape ih =>
      intro h
      obtain ⟨more, hMore, -⟩ := Reading.cons_eq_ok h
      have hRest := ih hMore
      have hBehind := readEscape_length hEscape
      exact Nat.lt_succ_of_lt (by omega)
  | case6 c tail hQuote hSlash hControl ih =>
      intro h
      obtain ⟨more, hMore, -⟩ := Reading.cons_eq_ok h
      exact Nat.lt_succ_of_lt (ih hMore)
  | case1 | case3 | case5 =>
      intro h
      cases h

theorem readString_length {text rest : List Char} {content : String}
    (h : readString text = .ok (content, rest)) : rest.length < text.length := by
  rw [readString] at h
  cases hChars : readChars text with
  | error fault =>
      rw [hChars] at h
      cases h
  | ok result =>
      rw [hChars] at h
      cases h
      exact readChars_length hChars

theorem skipString_length {text rest : List Char} (h : skipString text = .ok rest) :
    rest.length < text.length := by
  revert h
  fun_induction skipString text with
  | case2 tail =>
      intro h
      cases h
      exact Nat.lt_succ_self _
  | case4 tail behind hEscape ih =>
      intro h
      have hRest := ih h
      have hBehind := skipEscape_length hEscape
      exact Nat.lt_succ_of_lt (by omega)
  | case6 c tail hQuote hSlash hControl ih =>
      intro h
      exact Nat.lt_succ_of_lt (ih h)
  | case1 | case3 | case5 =>
      intro h
      cases h

end SlotGrid.Json
