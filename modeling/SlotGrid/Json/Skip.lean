import SlotGrid.Json.Token

/-!
# Skipping a value

A value that nobody asked for is checked and left behind. The check keeps the
list of the arrays and objects it stands in, innermost first, so nesting is not
limited.

## Main definitions

* `Frame`, `Stage` — what the check stands in, and what it looks for.
* `skipStep` — reads up to the next place where it looks for something.
* `skipValue` — skips one value.

## Main results

* `skipStep_length` — every step shortens the text.
* `skipValue_length` — so does the whole check.
-/

namespace SlotGrid.Json

/-- A value that holds others. -/
inductive Frame where
  | array
  | object
  deriving DecidableEq, Repr

/-- What is looked for next: a value; the first item or the end of a frame that
was just opened; or the separator or the end after an item. Frames around it
are listed innermost first. -/
inductive Stage where
  | value (outer : List Frame)
  | opened (frame : Frame) (outer : List Frame)
  | filled (frame : Frame) (outer : List Frame)
  deriving DecidableEq, Repr

/-- How a step ends: with nothing more to look for, or with something. -/
inductive Progress where
  | done (rest : List Char)
  | next (stage : Stage) (rest : List Char)

/-- The text not read yet. -/
def Progress.rest : Progress → List Char
  | .done rest => rest
  | .next _ rest => rest

/-- Goes on behind a whole value, which is an item of the frame around it. -/
def leaveValue (outer : List Frame) (rest : List Char) : Progress :=
  match outer with
  | [] => .done rest
  | frame :: outer => .next (.filled frame outer) rest

/-- Skips a key and its colon. -/
def skipKey (text : List Char) : Except Fault (List Char) :=
  match skipSpace text with
  | '"' :: rest =>
    match skipString rest with
    | .error fault => .error fault
    | .ok rest =>
      match skipSpace rest with
      | ':' :: rest => .ok rest
      | [] => .error (.before [] .endInObject)
      | rest => .error (.after rest .expectedColon)
  | [] => .error (.before [] .endInObject)
  | rest => .error (.after rest .keyNotString)

/-- Skips a value that holds no other, or opens a frame. -/
def skipStart (outer : List Frame) (text : List Char) : Except Fault Progress :=
  match skipSpace text with
  | [] => .error (.before [] .endInValue)
  | 'n' :: rest => (readWord "ull".toList rest).map (leaveValue outer)
  | 't' :: rest => (readWord "rue".toList rest).map (leaveValue outer)
  | 'f' :: rest => (readWord "alse".toList rest).map (leaveValue outer)
  | '"' :: rest => (skipString rest).map (leaveValue outer)
  | '-' :: rest => (skipNumber rest).map (leaveValue outer)
  | '[' :: rest => .ok (.next (.opened .array outer) rest)
  | '{' :: rest => .ok (.next (.opened .object outer) rest)
  | c :: rest =>
    if c.isDigit then (skipNumber (c :: rest)).map (leaveValue outer)
    else .error (.after (c :: rest) .expectedValue)

/-- The character that ends a frame. -/
def Frame.closer : Frame → Char
  | .array => ']'
  | .object => '}'

/-- The reason when the text ends in a frame. -/
def Frame.endReason : Frame → Reason
  | .array => .endInArray
  | .object => .endInObject

/-- The reason when neither a separator nor an end follows an item. -/
def Frame.separatorReason : Frame → Reason
  | .array => .expectedCommaOrBracket
  | .object => .expectedCommaOrBrace

/-- Starts the first item of a frame. -/
def skipFirst (frame : Frame) (outer : List Frame) (text : List Char) :
    Except Fault Progress :=
  match frame with
  | .array => skipStart (.array :: outer) text
  | .object => (skipKey text).map (.next (.value (.object :: outer)))

/-- Goes to the value of the next item of a frame, behind its separator. -/
def skipSeparated (frame : Frame) (outer : List Frame) (text : List Char) :
    Except Fault Progress :=
  match frame with
  | .array => .ok (.next (.value (.array :: outer)) text)
  | .object => (skipKey text).map (.next (.value (.object :: outer)))

/-- Reads up to the next place where something is looked for. -/
def skipStep (stage : Stage) (text : List Char) : Except Fault Progress :=
  match stage with
  | .value outer => skipStart outer text
  | .opened frame outer =>
    match skipSpace text with
    | [] => .error (.before [] frame.endReason)
    | c :: rest =>
      if c = frame.closer then .ok (leaveValue outer rest)
      else skipFirst frame outer (c :: rest)
  | .filled frame outer =>
    match skipSpace text with
    | [] => .error (.before [] frame.endReason)
    | c :: rest =>
      if c = frame.closer then .ok (leaveValue outer rest)
      else if c = ',' then skipSeparated frame outer rest
      else .error (.after (c :: rest) frame.separatorReason)

/-! ## Every step shortens the text -/

theorem leaveValue_rest (outer : List Frame) (rest : List Char) :
    (leaveValue outer rest).rest = rest := by
  cases outer <;> rfl

/-- A step that goes on where something is read leaves the text that was left there. -/
theorem eq_ok_of_map {goOn : List Char → Progress} (hGoOn : ∀ rest, (goOn rest).rest = rest)
    {reading : Except Fault (List Char)} {progress : Progress}
    (h : reading.map goOn = .ok progress) : reading = .ok progress.rest := by
  cases reading with
  | error fault => cases h
  | ok rest =>
      cases h
      rw [hGoOn]

theorem skipKey_length {text rest : List Char} (h : skipKey text = .ok rest) :
    rest.length < text.length := by
  revert h
  fun_cases skipKey text with
  | case2 quoted hQuote behind hString more hColon =>
      intro h
      cases h
      calc rest.length
          < behind.length := length_lt_of_skipSpace hColon
        _ < quoted.length := skipString_length hString
        _ < text.length := length_lt_of_skipSpace hQuote
  | case1 | case3 | case4 | case5 | case6 =>
      intro h
      cases h

theorem skipStart_length {outer : List Frame} {text : List Char} {progress : Progress}
    (h : skipStart outer text = .ok progress) : progress.rest.length < text.length := by
  revert h
  fun_cases skipStart outer text with
  | case2 letters hHead | case3 letters hHead | case4 letters hHead =>
      intro h
      have hWord := readWord_length (eq_ok_of_map (leaveValue_rest outer) h)
      have hText := length_lt_of_skipSpace hHead
      omega
  | case5 quoted hHead =>
      intro h
      have hString := skipString_length (eq_ok_of_map (leaveValue_rest outer) h)
      have hText := length_lt_of_skipSpace hHead
      omega
  | case6 digits hHead =>
      intro h
      have hNumber := skipNumber_length (eq_ok_of_map (leaveValue_rest outer) h)
      have hText := length_lt_of_skipSpace hHead
      omega
  | case7 inside hHead | case8 inside hHead =>
      intro h
      cases h
      exact length_lt_of_skipSpace hHead
  | case9 c digits _ _ _ _ _ _ _ hHead hDigit =>
      intro h
      have hNumber := skipNumber_length (eq_ok_of_map (leaveValue_rest outer) h)
      have hText := skipSpace_length text
      rw [← hHead] at hNumber
      omega
  | case1 | case10 =>
      intro h
      cases h

theorem skipFirst_length {frame : Frame} {outer : List Frame} {text : List Char}
    {progress : Progress} (h : skipFirst frame outer text = .ok progress) :
    progress.rest.length < text.length := by
  cases frame with
  | array => exact skipStart_length h
  | object => exact skipKey_length (eq_ok_of_map (fun _ => rfl) h)

theorem skipSeparated_length {frame : Frame} {outer : List Frame} {text : List Char}
    {progress : Progress} (h : skipSeparated frame outer text = .ok progress) :
    progress.rest.length ≤ text.length := by
  cases frame with
  | array =>
      cases h
      exact Nat.le_refl _
  | object => exact Nat.le_of_lt (skipKey_length (eq_ok_of_map (fun _ => rfl) h))

theorem skipStep_length {stage : Stage} {text : List Char} {progress : Progress}
    (h : skipStep stage text = .ok progress) : progress.rest.length < text.length := by
  revert h
  fun_cases skipStep stage text with
  | case1 outer => exact skipStart_length
  | case3 frame outer behind hHead | case6 frame outer behind hHead =>
      intro h
      cases h
      rw [leaveValue_rest]
      exact length_lt_of_skipSpace hHead
  | case4 frame outer c behind hHead hOpen =>
      intro h
      have hFirst := skipFirst_length h
      have hText := skipSpace_length text
      rw [← hHead] at hFirst
      omega
  | case7 frame outer behind hHead hOpen =>
      intro h
      have hNext := skipSeparated_length h
      have hText := length_lt_of_skipSpace hHead
      omega
  | case2 | case5 | case8 =>
      intro h
      cases h

/-! ## The whole check -/

/-- Steps until nothing more is looked for. -/
def skipFrom (stage : Stage) (text : List Char) : Except Fault (List Char) :=
  match _h : skipStep stage text with
  | .error fault => .error fault
  | .ok (.done rest) => .ok rest
  | .ok (.next stage rest) => skipFrom stage rest
termination_by text.length
decreasing_by exact skipStep_length _h

/-- Skips one value. -/
def skipValue (text : List Char) : Except Fault (List Char) := skipFrom (.value []) text

theorem skipFrom_length {stage : Stage} {text rest : List Char}
    (h : skipFrom stage text = .ok rest) : rest.length < text.length := by
  revert h
  fun_induction skipFrom stage text with
  | case2 stage text behind hStep =>
      intro h
      cases h
      exact skipStep_length hStep
  | case3 stage text next behind hStep ih =>
      intro h
      have hRest := ih h
      have hBehind : behind.length < text.length := skipStep_length hStep
      omega
  | case1 =>
      intro h
      cases h

theorem skipValue_length {text rest : List Char} (h : skipValue text = .ok rest) :
    rest.length < text.length :=
  skipFrom_length h

end SlotGrid.Json
