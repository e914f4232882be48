/-!
# JSON values and their two written forms

Values are written without spaces, or spread over lines with two spaces of
indent for every level. Both forms write strings alike and keep the members of
an object in the order they have in the value.

## Main definitions

* `escape`, `quote` — a string between quotes: quotes, backslashes and control
  characters are escaped, all else stays as it is.
* `Value` — truth values, strings, arrays and objects.
* `Value.compact`, `Value.pretty` — the two written forms.
-/

namespace SlotGrid.Json

/-! ## Strings -/

/-- How a string writes one character. -/
def escape (c : Char) : List Char :=
  if c = '"' ∨ c = '\\' then ['\\', c]
  else if c = '\x08' then ['\\', 'b']
  else if c = '\x0c' then ['\\', 'f']
  else if c = '\n' then ['\\', 'n']
  else if c = '\r' then ['\\', 'r']
  else if c = '\t' then ['\\', 't']
  else if c < ' ' then
    ['\\', 'u', '0', '0', Nat.digitChar (c.toNat / 16), Nat.digitChar (c.toNat % 16)]
  else [c]

/-- A string between quotes. -/
def quote (text : String) : List Char :=
  '"' :: text.toList.flatMap escape ++ ['"']

example : quote "a\"\\/\n\x01é" =
    ['"', 'a', '\\', '"', '\\', '\\', '/', '\\', 'n', '\\', 'u', '0', '0', '0', '1', 'é', '"'] := by
  decide

/-! ## Values -/

/-- A value as it is written; an object keeps its members in order. -/
inductive Value where
  | boolean (value : Bool)
  | string (content : String)
  | array (items : List Value)
  | object (members : List (String × Value))
  deriving Repr

/-- The text of a truth value. -/
def booleanText (value : Bool) : List Char :=
  if value then "true".toList else "false".toList

mutual

/-- The form without spaces. -/
def Value.compact : Value → List Char
  | .boolean value => booleanText value
  | .string content => quote content
  | .array [] => ['[', ']']
  | .array (item :: items) => '[' :: item.compact ++ compactItems items
  | .object [] => ['{', '}']
  | .object ((key, value) :: members) =>
    '{' :: quote key ++ ':' :: value.compact ++ compactMembers members

/-- The rest of an array behind one of its items. -/
def compactItems : List Value → List Char
  | [] => [']']
  | item :: items => ',' :: item.compact ++ compactItems items

/-- The rest of an object behind one of its members. -/
def compactMembers : List (String × Value) → List Char
  | [] => ['}']
  | (key, value) :: members =>
    ',' :: quote key ++ ':' :: value.compact ++ compactMembers members

end

/-- A line break and the indent of a level. -/
def newLine (depth : Nat) : List Char := '\n' :: List.replicate (2 * depth) ' '

mutual

/-- The form that is spread over lines, inside `depth` arrays and objects. -/
def Value.pretty (depth : Nat) : Value → List Char
  | .boolean value => booleanText value
  | .string content => quote content
  | .array [] => ['[', ']']
  | .array (item :: items) =>
    '[' :: newLine (depth + 1) ++ item.pretty (depth + 1) ++ prettyItems depth items
  | .object [] => ['{', '}']
  | .object ((key, value) :: members) =>
    '{' :: newLine (depth + 1) ++ quote key ++ ':' :: ' ' :: value.pretty (depth + 1)
      ++ prettyMembers depth members

/-- The rest of an array behind one of its items. -/
def prettyItems (depth : Nat) : List Value → List Char
  | [] => newLine depth ++ [']']
  | item :: items =>
    ',' :: newLine (depth + 1) ++ item.pretty (depth + 1) ++ prettyItems depth items

/-- The rest of an object behind one of its members. -/
def prettyMembers (depth : Nat) : List (String × Value) → List Char
  | [] => newLine depth ++ ['}']
  | (key, value) :: members =>
    ',' :: newLine (depth + 1) ++ quote key ++ ':' :: ' ' :: value.pretty (depth + 1)
      ++ prettyMembers depth members

end

end SlotGrid.Json
