/-!
# Text that no terminal obeys

A terminal obeys some characters instead of showing them: control characters,
and the sequences that an escape character opens. What is left of a text without
them is its *visible* part. Tabs and the ends of lines and pages are visible too,
since they lay the text out.

A sequence is an escape character with the characters up to a final one. Three
kinds run further. A *control sequence* (`[` behind the escape) ends with a letter
or a sign of the same columns of ASCII, a *command* to the system (`]`) with a bell,
and a *string* (`X`, `^` or `_`; behind a head also `P`) with the byte `9C`,
even when that byte belongs to the encoding of another character. Two control
characters cancel every sequence, and an escape character opens a new one.

## Main definitions

* `Place`, `Place.next` — where in a sequence a reader stands.
* `Place.shows` — whether a character is visible there.
* `visible` — the visible part of a text.
-/

namespace SlotGrid.Text

/-- Where in a sequence a reader stands. -/
inductive Place where
  /-- Outside of every sequence. -/
  | outside
  /-- Behind an escape character. -/
  | escape
  /-- Behind an escape character and intermediate characters. -/
  | intermediate
  /-- In a control sequence. -/
  | control
  /-- In a command to the system. -/
  | command
  /-- At the start of the head of a device string. -/
  | deviceStart
  /-- Among the parameters in the head of a device string. -/
  | deviceParameters
  /-- Among the intermediate characters in the head of a device string. -/
  | deviceIntermediates
  /-- In a string. -/
  | string
  deriving DecidableEq, Repr

/-- Whether `c` stands between two characters, both included. -/
def isBetween (first last c : Char) : Bool := first ≤ c && c ≤ last

/-- Whether a control character lays text out. -/
def isLayout (c : Char) : Bool := c = '\t' || c = '\n' || c = '\x0c' || c = '\r'

/-- Whether a string ends in the encoding of this character. -/
def endsString (c : Char) : Bool := (String.utf8EncodeChar c).contains 0x9C

namespace Place

/-- The place behind `c`, which follows an escape character. -/
def afterEscape (c : Char) : Place :=
  if c = '[' then .control
  else if c = ']' then .command
  else if c = 'P' then .deviceStart
  else if c = 'X' ∨ c = '^' ∨ c = '_' then .string
  else if isBetween ' ' '/' c then .intermediate
  else if isBetween '0' '~' c then .outside
  else .escape

/-- The place behind `c`, which stands in the head of a device string. The head
ends at its final character, or where it breaks the order of parameters and
intermediate characters. -/
def afterHead (place : Place) (c : Char) : Place :=
  if isBetween '@' '~' c then .string
  else if isBetween ' ' '/' c then .deviceIntermediates
  else if isBetween '0' '?' c then
    match place with
    | .deviceStart => .deviceParameters
    | .deviceParameters => if c < '<' then .deviceParameters else .string
    | _ => .string
  else place

/-- The place behind a character. -/
def next (place : Place) (c : Char) : Place :=
  if c = '\x1b' then .escape
  else if c = '\x18' ∨ c = '\x1a' then .outside
  else match place with
    | .outside => .outside
    | .escape => afterEscape c
    | .intermediate => if isBetween '0' '~' c then .outside else .intermediate
    | .control => if isBetween '@' '~' c then .outside else .control
    | .command => if c = '\x07' then .outside else .command
    | .deviceStart | .deviceParameters | .deviceIntermediates => afterHead place c
    | .string => if endsString c then .outside else .string

/-- Whether a character is visible at a place. Layout is visible in the shorter
sequences as well. -/
def shows (place : Place) (c : Char) : Bool :=
  match place with
  | .outside => isLayout c || (' ' ≤ c && c != '\x7f')
  | .escape | .intermediate | .control => isLayout c
  | _ => false

end Place

/-- The visible characters of a text that starts at a place. -/
def visibleFrom (place : Place) : List Char → List Char
  | [] => []
  | c :: rest =>
    if place.shows c then c :: visibleFrom (place.next c) rest
    else visibleFrom (place.next c) rest

/-- The visible part of a text. -/
def visible (text : String) : String := String.ofList (visibleFrom .outside text.toList)

/-- A sequence goes with its parameters, a lone control character alone. -/
example : visible "a\x1b[31mb\x07c\n" = "abc\n" := by decide

/-- A command that is not ended takes the line break with it. -/
example : visible "a\x1b]b\n" = "a" := by decide

end SlotGrid.Text
