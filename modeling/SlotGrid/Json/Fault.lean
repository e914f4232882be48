import SlotGrid.Json.Number
import SlotGrid.Text.Quoted

/-!
# Faults of a JSON text

A reader stops at the first fault. A fault names its cause and says how many
bytes of the text were left when it was found, so that a reader needs no
counter: what it has not read yet is in its hands.

## Main definitions

* `Reason` — the causes, and `Reason.message`, their wording.
* `Fault` — a cause and a place; `Fault.before` and `Fault.after` build it from
  the text not read yet.
* `Fault.report` — wording, line and column, the latter two counted from the
  bytes read.
-/

namespace SlotGrid.Json

/-- What stands where a value of another kind is wanted. -/
inductive Found where
  | null
  | boolean (value : Bool)
  | number (value : Number)
  | string (value : String)
  | array
  | object
  deriving DecidableEq, Repr

/-- The kind of value that is wanted. -/
inductive Wanted where
  | string
  | boolean
  | record (name : String)
  deriving DecidableEq, Repr

/-- Why a text is refused. -/
inductive Reason where
  | endInValue
  | endInString
  | endInArray
  | endInObject
  | expectedValue
  | expectedWord
  | expectedColon
  | expectedCommaOrBracket
  | expectedCommaOrBrace
  | keyNotString
  | trailingComma
  | trailingCharacters
  | invalidNumber
  | numberOutOfRange
  | invalidEscape
  | loneSurrogate
  | unfinishedSurrogate
  | controlCharacter
  | duplicateField (name : String)
  | wrongKind (found : Found) (wanted : Wanted)
  deriving DecidableEq, Repr

/-- How a message names the value that stands there. -/
def Found.message : Found → String
  | .null => "null"
  | .boolean value => "boolean `" ++ (if value then "true" else "false") ++ "`"
  | .number (.integer value) => "integer `" ++ (Number.integer value).text ++ "`"
  | .number value => "floating point `" ++ value.text ++ "`"
  | .string value => "string " ++ Text.quoted value
  | .array => "sequence"
  | .object => "map"

/-- How a message names the kind that is wanted. -/
def Wanted.message : Wanted → String
  | .string => "a string"
  | .boolean => "a boolean"
  | .record name => "struct " ++ name

/-- The wording of a reason. -/
def Reason.message : Reason → String
  | .endInValue => "EOF while parsing a value"
  | .endInString => "EOF while parsing a string"
  | .endInArray => "EOF while parsing a list"
  | .endInObject => "EOF while parsing an object"
  | .expectedValue => "expected value"
  | .expectedWord => "expected ident"
  | .expectedColon => "expected `:`"
  | .expectedCommaOrBracket => "expected `,` or `]`"
  | .expectedCommaOrBrace => "expected `,` or `\x7d`"
  | .keyNotString => "key must be a string"
  | .trailingComma => "trailing comma"
  | .trailingCharacters => "trailing characters"
  | .invalidNumber => "invalid number"
  | .numberOutOfRange => "number out of range"
  | .invalidEscape => "invalid escape"
  | .loneSurrogate => "lone leading surrogate in hex escape"
  | .unfinishedSurrogate => "unexpected end of hex escape"
  | .controlCharacter => "control character (\\u0000-\\u001F) found while parsing a string"
  | .duplicateField name => "duplicate field `" ++ name ++ "`"
  | .wrongKind found wanted =>
    "invalid type: " ++ found.message ++ ", expected " ++ wanted.message

/-- A reason and the number of bytes that follow the place where it arose. -/
structure Fault where
  reason : Reason
  left : Nat
  deriving DecidableEq, Repr

/-- The bytes of a piece of text. -/
def byteCount (chars : List Char) : Nat :=
  chars.foldr (fun c count => c.utf8Size + count) 0

/-- A fault found before anything of `rest` was read. -/
def Fault.before (rest : List Char) (reason : Reason) : Fault :=
  ⟨reason, byteCount rest⟩

/-- A fault found at the first byte of `rest`, which counts as read. At the end
of the text there is none to count. -/
def Fault.after (rest : List Char) (reason : Reason) : Fault :=
  ⟨reason, byteCount rest - 1⟩

/-- The line and the column after the first `bytes` bytes: lines are counted
from one, and a column is the number of bytes since the last line break. -/
def place (bytes : Nat) (line column : Nat) : List Char → Nat × Nat
  | [] => (line, column)
  | c :: rest =>
    if bytes < c.utf8Size then (line, column + bytes)
    else if c = '\n' then place (bytes - 1) (line + 1) 0 rest
    else place (bytes - c.utf8Size) line (column + c.utf8Size) rest

/-- The wording of a fault in `text`, with its line and column. -/
def Fault.report (text : List Char) (fault : Fault) : String :=
  let (line, column) := place (byteCount text - fault.left) 1 0 text
  fault.reason.message ++ " at line " ++ toString line ++ " column " ++ toString column

end SlotGrid.Json
