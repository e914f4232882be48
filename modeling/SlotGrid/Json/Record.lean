import SlotGrid.Json.Skip

/-!
# Records in JSON

A record is a value with named fields. In a JSON text it is an object, whose
members may stand in any order, or an array of the fields in their order, of
which the last ones may be missing. A field that is missing keeps its value in
the blank record; a member that names no field is skipped; a field given twice
is a fault.

## Main definitions

* `Field`, `Shape` — the fields of a record, and the record around them.
* `Shape.readMembers`, `Shape.readItems` — the two written forms.
* `Shape.read` — a record in either form.
* `Shape.parse` — a whole text that holds a record and nothing else.

## Main results

* `Shape.read_length` — reading shortens the text, so that a record may be a
  field of another one.
-/

namespace SlotGrid.Json

/-! ## Values of one kind -/

/-- The fault of a value of another kind than wanted, at its first character.
A word, a number or a string is read to its end first, and a fault in it comes
before the wrong kind. -/
def otherKind (wanted : Wanted) (text : List Char) : Fault :=
  let word (letters : String) (found : Found) (rest : List Char) : Fault :=
    match readWord letters.toList rest with
    | .error fault => fault
    | .ok rest => .before rest (.wrongKind found wanted)
  let number (negative : Bool) (rest : List Char) : Fault :=
    match readNumber negative rest with
    | .error fault => fault
    | .ok (value, rest) => .before rest (.wrongKind (.number value) wanted)
  match text with
  | [] => .before [] .endInValue
  | 'n' :: rest => word "ull" .null rest
  | 't' :: rest => word "rue" (.boolean true) rest
  | 'f' :: rest => word "alse" (.boolean false) rest
  | '-' :: rest => number true rest
  | '"' :: rest =>
    match readString rest with
    | .error fault => fault
    | .ok (content, rest) => .before rest (.wrongKind (.string content) wanted)
  | '[' :: _ => .before text (.wrongKind .array wanted)
  | '{' :: _ => .before text (.wrongKind .object wanted)
  | c :: _ => if c.isDigit then number false text else .after text .expectedValue

/-- Reads a value that has to be a string. -/
def readStringValue (text : List Char) : Reading String :=
  match skipSpace text with
  | '"' :: rest => readString rest
  | rest => .error (otherKind .string rest)

/-- Reads a value that has to be a truth value. -/
def readBooleanValue (text : List Char) : Reading Bool :=
  match skipSpace text with
  | 't' :: rest => (readWord "rue".toList rest).map fun rest => (true, rest)
  | 'f' :: rest => (readWord "alse".toList rest).map fun rest => (false, rest)
  | rest => .error (otherKind .boolean rest)

theorem readStringValue_length {text rest : List Char} {value : String}
    (h : readStringValue text = .ok (value, rest)) : rest.length < text.length := by
  revert h
  fun_cases readStringValue text with
  | case1 quoted hQuote =>
      intro h
      have hString := readString_length h
      have hText := length_lt_of_skipSpace hQuote
      omega
  | case2 =>
      intro h
      cases h

/-- A text that is left behind something is the one that was left there. -/
theorem eq_ok_of_map_pair {α : Type} {given value : α}
    {reading : Except Fault (List Char)} {rest : List Char}
    (h : reading.map (fun rest => (given, rest)) = .ok (value, rest)) : reading = .ok rest := by
  cases reading with
  | error fault => cases h
  | ok behind =>
      cases h
      rfl

theorem readBooleanValue_length {text rest : List Char} {value : Bool}
    (h : readBooleanValue text = .ok (value, rest)) : rest.length < text.length := by
  revert h
  fun_cases readBooleanValue text with
  | case1 letters hHead | case2 letters hHead =>
      intro h
      have hWord := readWord_length (eq_ok_of_map_pair h)
      have hText := length_lt_of_skipSpace hHead
      omega
  | case3 =>
      intro h
      cases h

/-! ## Fields and shapes -/

/-- A part of a record: the names that members may give it, the proper one
first, and how its value is read into the record. -/
structure Field (σ : Type) where
  name : String
  others : List String
  read : σ → List Char → Reading σ
  read_length : ∀ {record result : σ} {text rest : List Char},
    read record text = .ok (result, rest) → rest.length < text.length

/-- A record: its name in messages, its value before any field is read, and its
fields in order. -/
structure Shape (σ : Type) where
  name : String
  blank : σ
  fields : List (Field σ)

private theorem map_store_length {α σ : Type} {store : α → σ} {reading : Reading α}
    {result : σ} {rest : List Char} {bound : Nat}
    (h : reading.map (fun (value, rest) => (store value, rest)) = .ok (result, rest))
    (hBound : ∀ value rest, reading = .ok (value, rest) → rest.length < bound) :
    rest.length < bound := by
  cases reading with
  | error fault => cases h
  | ok read =>
      cases h
      exact hBound read.1 read.2 rfl

namespace Field

variable {σ : Type}

/-- A field that holds a string. -/
def string (name : String) (others : List String) (store : σ → String → σ) : Field σ where
  name := name
  others := others
  read record text :=
    (readStringValue text).map fun (value, rest) => (store record value, rest)
  read_length h := map_store_length h fun _ _ => readStringValue_length

/-- A field that holds a truth value. -/
def boolean (name : String) (others : List String) (store : σ → Bool → σ) : Field σ where
  name := name
  others := others
  read record text :=
    (readBooleanValue text).map fun (value, rest) => (store record value, rest)
  read_length h := map_store_length h fun _ _ => readBooleanValue_length

/-- Whether a member of this name gives the field its value. -/
def answersTo (field : Field σ) (key : String) : Bool :=
  key = field.name || field.others.contains key

end Field

/-! ## Objects -/

/-- What stands where an item may stand: the end, or an item. -/
inductive Turn where
  | finished (rest : List Char)
  | item (rest : List Char)

/-- The text not read yet. -/
def Turn.rest : Turn → List Char
  | .finished rest => rest
  | .item rest => rest

/-- Looks for the next member of an object: its end, or the opening quote of a
key. Only the first member has no comma in front. -/
def nextMember (first : Bool) (text : List Char) : Except Fault Turn :=
  match skipSpace text with
  | [] => .error (.before [] .endInObject)
  | '}' :: rest => .ok (.finished rest)
  | c :: rest =>
    if first then
      if c = '"' then .ok (.item rest) else .error (.after (c :: rest) .keyNotString)
    else if c = ',' then
      match skipSpace rest with
      | [] => .error (.before [] .endInValue)
      | '"' :: rest => .ok (.item rest)
      | '}' :: rest => .error (.after ('}' :: rest) .trailingComma)
      | rest => .error (.after rest .keyNotString)
    else .error (.after (c :: rest) .expectedCommaOrBrace)

/-- Reads the colon between a key and its value. -/
def readColon (text : List Char) : Except Fault (List Char) :=
  match skipSpace text with
  | [] => .error (.before [] .endInObject)
  | ':' :: rest => .ok rest
  | rest => .error (.after rest .expectedColon)

/-- The fault of a key that names a field for the second time. The object is
given the chance to end before the place is taken. -/
def repeatedField (name : String) (text : List Char) : Fault :=
  match skipSpace text with
  | '}' :: rest => .before rest (.duplicateField name)
  | rest => .before rest (.duplicateField name)

theorem nextMember_length {first : Bool} {text : List Char} {turn : Turn}
    (h : nextMember first text = .ok turn) : turn.rest.length < text.length := by
  revert h
  fun_cases nextMember first text with
  | case2 behind hEnd =>
      intro h
      cases h
      exact length_lt_of_skipSpace hEnd
  | case3 quoted _ _ hQuote =>
      intro h
      cases h
      exact length_lt_of_skipSpace hQuote
  | case6 behind _ quoted hQuote _ hComma =>
      intro h
      cases h
      calc quoted.length
          < behind.length := length_lt_of_skipSpace hQuote
        _ < text.length := length_lt_of_skipSpace hComma
  | case1 | case4 | case5 | case7 | case8 | case9 =>
      intro h
      cases h

theorem readColon_length {text rest : List Char} (h : readColon text = .ok rest) :
    rest.length < text.length := by
  revert h
  fun_cases readColon text with
  | case2 behind hColon =>
      intro h
      cases h
      exact length_lt_of_skipSpace hColon
  | case1 | case3 =>
      intro h
      cases h

namespace Shape

variable {σ : Type}

/-- The field that a key names. -/
def field? (shape : Shape σ) (key : String) : Option (Field σ) :=
  shape.fields.find? fun field => field.answersTo key

/-- Reads the value of a member whose key is read: the value of `field`, or one
that nobody asked for. -/
def readMember (field : Option (Field σ)) (record : σ) (text : List Char) : Reading σ :=
  match readColon text with
  | .error fault => .error fault
  | .ok rest =>
    match field with
    | some field => field.read record rest
    | none => (skipValue rest).map fun rest => (record, rest)

theorem readMember_length {field : Option (Field σ)} {record result : σ}
    {text rest : List Char} (h : readMember field record text = .ok (result, rest)) :
    rest.length < text.length := by
  revert h
  fun_cases readMember field record text with
  | case2 behind hColon field =>
      intro h
      have hValue := field.read_length h
      have hText := readColon_length hColon
      omega
  | case3 behind hColon =>
      intro h
      have hValue := skipValue_length (eq_ok_of_map_pair h)
      have hText := readColon_length hColon
      omega
  | case1 =>
      intro h
      cases h

/-- Reads members up to the end of the object; `seen` are the names of the
fields already read. -/
def readMembers (shape : Shape σ) (seen : List String) (first : Bool) (record : σ)
    (text : List Char) : Reading σ :=
  match _hNext : nextMember first text with
  | .error fault => .error fault
  | .ok (.finished rest) => .ok (record, rest)
  | .ok (.item behindQuote) =>
    match _hKey : readString behindQuote with
    | .error fault => .error fault
    | .ok (key, behindKey) =>
      let field := shape.field? key
      match field.filter fun field => seen.contains field.name with
      | some field => .error (repeatedField field.name behindKey)
      | none =>
        match _hMember : readMember field record behindKey with
        | .error fault => .error fault
        | .ok (record, rest) =>
          shape.readMembers ((field.map Field.name).toList ++ seen) false record rest
termination_by text.length
decreasing_by
  calc rest.length
      < behindKey.length := readMember_length _hMember
    _ < behindQuote.length := readString_length _hKey
    _ < text.length := nextMember_length _hNext

theorem readMembers_length {shape : Shape σ} {seen : List String} {first : Bool}
    {record result : σ} {text rest : List Char}
    (h : shape.readMembers seen first record text = .ok (result, rest)) :
    rest.length < text.length := by
  revert h
  fun_induction readMembers shape seen first record text with
  | case2 seen first record text behind hEnd =>
      intro h
      cases h
      exact nextMember_length hEnd
  | case6 seen first record text behindQuote hNext key behindKey hKey field hNew filled behind
      hMember ih =>
      intro h
      calc rest.length
          < behind.length := ih h
        _ < behindKey.length := readMember_length hMember
        _ < behindQuote.length := readString_length hKey
        _ < text.length := nextMember_length hNext
  | case1 | case3 | case4 | case5 =>
      intro h
      cases h

end Shape

/-! ## Arrays -/

/-- Looks for the next item of an array: its end, or the text where a value has
to stand. Only the first item has no comma in front. -/
def nextItem (first : Bool) (text : List Char) : Except Fault Turn :=
  match skipSpace text with
  | [] => .error (.before [] .endInArray)
  | ']' :: rest => .ok (.finished rest)
  | c :: rest =>
    if first then .ok (.item (c :: rest))
    else if c = ',' then
      match skipSpace rest with
      | [] => .error (.before [] .endInValue)
      | ']' :: rest => .error (.after (']' :: rest) .trailingComma)
      | rest => .ok (.item rest)
    else .error (.after (c :: rest) .expectedCommaOrBracket)

/-- Reads the end of an array that has no room for another item. -/
def readArrayEnd (text : List Char) : Except Fault (List Char) :=
  match skipSpace text with
  | [] => .error (.before [] .endInArray)
  | ']' :: rest => .ok rest
  | ',' :: rest =>
    match skipSpace rest with
    | ']' :: rest => .error (.after (']' :: rest) .trailingComma)
    | rest => .error (.after rest .trailingCharacters)
  | rest => .error (.after rest .trailingCharacters)

theorem nextItem_length {first : Bool} {text : List Char} {turn : Turn}
    (h : nextItem first text = .ok turn) : turn.rest.length ≤ text.length := by
  revert h
  fun_cases nextItem first text with
  | case2 behind hEnd =>
      intro h
      cases h
      exact Nat.le_of_lt (length_lt_of_skipSpace hEnd)
  | case3 c rest _ hItem =>
      intro h
      cases h
      rw [Turn.rest, ← hItem]
      exact skipSpace_length text
  | case6 behind _ _ hComma =>
      intro h
      cases h
      have hItem := skipSpace_length behind
      have hText := length_lt_of_skipSpace hComma
      rw [Turn.rest]
      omega
  | case1 | case4 | case5 | case7 =>
      intro h
      cases h

theorem readArrayEnd_length {text rest : List Char} (h : readArrayEnd text = .ok rest) :
    rest.length < text.length := by
  revert h
  fun_cases readArrayEnd text with
  | case2 behind hEnd =>
      intro h
      cases h
      exact length_lt_of_skipSpace hEnd
  | case1 | case3 | case4 | case5 =>
      intro h
      cases h

namespace Shape

variable {σ : Type}

/-- Reads the items of an array as the values of `fields`, one each. -/
def readItems (fields : List (Field σ)) (first : Bool) (record : σ) (text : List Char) :
    Reading σ :=
  match fields with
  | [] => (readArrayEnd text).map fun rest => (record, rest)
  | field :: fields =>
    match nextItem first text with
    | .error fault => .error fault
    | .ok (.finished rest) => .ok (record, rest)
    | .ok (.item start) =>
      match field.read record start with
      | .error fault => .error fault
      | .ok (record, rest) => readItems fields false record rest

theorem readItems_length {fields : List (Field σ)} {first : Bool} {record result : σ}
    {text rest : List Char} (h : readItems fields first record text = .ok (result, rest)) :
    rest.length ≤ text.length := by
  revert h
  fun_induction readItems fields first record text with
  | case1 first record text =>
      intro h
      exact Nat.le_of_lt (readArrayEnd_length (eq_ok_of_map_pair h))
  | case3 first record text field fields behind hEnd =>
      intro h
      cases h
      exact nextItem_length hEnd
  | case5 first record text field fields start hNext filled behind hField ih =>
      intro h
      calc rest.length
          ≤ behind.length := ih h
        _ ≤ start.length := Nat.le_of_lt (field.read_length hField)
        _ ≤ text.length := nextItem_length hNext
  | case2 | case4 =>
      intro h
      cases h

/-! ## Whole records -/

/-- Reads a record in either form. -/
def read (shape : Shape σ) (text : List Char) : Reading σ :=
  match skipSpace text with
  | '{' :: rest => shape.readMembers [] true shape.blank rest
  | '[' :: rest => readItems shape.fields true shape.blank rest
  | rest => .error (otherKind (.record shape.name) rest)

theorem read_length {shape : Shape σ} {result : σ} {text rest : List Char}
    (h : shape.read text = .ok (result, rest)) : rest.length < text.length := by
  revert h
  fun_cases read shape text with
  | case1 inside hHead =>
      intro h
      have hMembers := readMembers_length h
      have hText := length_lt_of_skipSpace hHead
      omega
  | case2 inside hHead =>
      intro h
      have hItems := readItems_length h
      have hText := length_lt_of_skipSpace hHead
      omega
  | case3 =>
      intro h
      cases h

/-- Reads a text that holds a record and nothing else. -/
def parse (shape : Shape σ) (text : List Char) : Except Fault σ :=
  match shape.read text with
  | .error fault => .error fault
  | .ok (record, rest) =>
    match skipSpace rest with
    | [] => .ok record
    | rest => .error (.after rest .trailingCharacters)

end Shape

namespace Field

/-- A field that holds a record. -/
def record {σ τ : Type} (name : String) (others : List String) (shape : Shape τ)
    (store : σ → τ → σ) : Field σ where
  name := name
  others := others
  read record text := (shape.read text).map fun (value, rest) => (store record value, rest)
  read_length h := map_store_length h fun _ _ => Shape.read_length

end Field

end SlotGrid.Json
