import SlotGrid.Json.Number
import SlotGrid.Json.Value

/-!
# The grammar of JSON

What a JSON text is, said without a reader. A grammar rule relates a text to what
is left of it behind the piece that the rule describes, so that pieces one behind
the other need no cutting: the rest of one piece is the text of the next.

The content of a string is kept as it is written, in pieces, for a code unit of
sixteen bits may be half of a surrogate pair without its other half. Such a string
is correct and stands for no text. Who has no use for it may take strings by their
texts; the rules are the same, so they have the kind of strings as a parameter.

## Main definitions

* `White` — white space in front of a rest.
* `Piece`, `Inside`, `decode` — what a string is written with, and its text.
* `Numeral.IsProper` — numerals that are written correctly.
* `Spelling`, with `pieces` and `texts` — the two kinds of strings.
* `Tree` — what a text says.
* `Phrase`, `Phrase.Begins` — the rules.
* `IsText` — a whole text.
-/

namespace SlotGrid.Json

/-! ## White space -/

/-- Whether nothing but white space stands in front of `rest`. -/
def White (text rest : List Char) : Prop :=
  ∃ space : List Char, (∀ c ∈ space, c = ' ' ∨ c = '\t' ∨ c = '\n' ∨ c = '\r') ∧
    text = space ++ rest

/-! ## Strings -/

/-- A piece of a string: a character, or a code unit that is written by its number. -/
inductive Piece where
  | char (c : Char)
  | unit (code : Nat)
  deriving DecidableEq, Repr

/-- The letters that may stand behind a backslash, each with the character that is
meant. -/
def shortEscapes : List (Char × Char) :=
  [('"', '"'), ('\\', '\\'), ('/', '/'), ('b', '\x08'), ('f', '\x0c'), ('n', '\n'), ('r', '\r'),
    ('t', '\t')]

/-- Whether a character is the hexadecimal digit of this value, in either case. -/
def IsHexDigit (c : Char) (value : Nat) : Prop :=
  "0123456789abcdef".toList[value]? = some c ∨ "0123456789ABCDEF".toList[value]? = some c

/-- Whether a text starts with the four hexadecimal digits of a code unit. -/
inductive IsUnit : Nat → List Char → List Char → Prop
  | mk {a b c d : Char} {w x y z : Nat} (ha : IsHexDigit a w) (hb : IsHexDigit b x)
      (hc : IsHexDigit c y) (hd : IsHexDigit d z) (rest : List Char) :
      IsUnit (((w * 16 + x) * 16 + y) * 16 + z) (a :: b :: c :: d :: rest) rest

/-- Whether a text starts with this piece of a string. -/
inductive Piece.Begins : Piece → List Char → List Char → Prop
  | plain {c : Char} (hQuote : c ≠ '"') (hSlash : c ≠ '\\') (hControl : ' ' ≤ c)
      (rest : List Char) : Begins (.char c) (c :: rest) rest
  | short {letter c : Char} (hLetter : (letter, c) ∈ shortEscapes) (rest : List Char) :
      Begins (.char c) ('\\' :: letter :: rest) rest
  | unit {code : Nat} {text rest : List Char} (hUnit : IsUnit code text rest) :
      Begins (.unit code) ('\\' :: 'u' :: text) rest

/-- Whether a text starts with these pieces and the quote that closes the string. -/
inductive Inside : List Piece → List Char → List Char → Prop
  | nil (rest : List Char) : Inside [] ('"' :: rest) rest
  | cons {piece : Piece} {pieces : List Piece} {text more rest : List Char}
      (hPiece : piece.Begins text more) (hPieces : Inside pieces more rest) :
      Inside (piece :: pieces) text rest

/-- The text of a string, unless half of a surrogate pair stands alone in it. -/
def decode : List Piece → Option (List Char)
  | [] => some []
  | .char c :: pieces => (decode pieces).map (c :: ·)
  | .unit code :: pieces =>
    if 0xDC00 ≤ code ∧ code ≤ 0xDFFF then none
    else if 0xD800 ≤ code ∧ code ≤ 0xDBFF then
      match pieces with
      | .unit second :: pieces =>
        if 0xDC00 ≤ second ∧ second ≤ 0xDFFF then
          (decode pieces).map
            (Char.ofNat (0x10000 + (code - 0xD800) * 0x400 + (second - 0xDC00)) :: ·)
        else none
      | _ => none
    else (decode pieces).map (Char.ofNat code :: ·)

example : decode [.char 'a', .unit 0xE9, .unit 0xD83D, .unit 0xDE00] = some ['a', 'é', '😀'] := by
  decide

example : decode [.unit 0xDE00, .unit 0xD83D] = none := by decide

/-- The strings of a grammar: how the content of a string is written behind its
opening quote, and the text that it stands for. -/
structure Spelling (τ : Type) where
  Spells : τ → List Char → List Char → Prop
  text? : τ → Option String
  /-- The text is that of the pieces that are written. -/
  exists_inside : ∀ {content : τ} {text rest : List Char}, Spells content text rest →
    ∃ pieces, Inside pieces text rest ∧ text? content = (decode pieces).map String.ofList

/-- Strings by their pieces. -/
def Spelling.pieces : Spelling (List Piece) where
  Spells := Inside
  text? content := (decode content).map String.ofList
  exists_inside h := ⟨_, h, rfl⟩

/-- Strings by their texts, so that every string has one. -/
def Spelling.texts : Spelling String where
  Spells content text rest :=
    ∃ pieces, decode pieces = some content.toList ∧ Inside pieces text rest
  text? := some
  exists_inside := by
    rintro content text rest ⟨pieces, hDecode, hInside⟩
    exact ⟨pieces, hInside, by simp [hDecode]⟩

/-! ## Numbers -/

/-- Whether there are digits, and nothing else. -/
def AreDigits (chars : List Char) : Prop := chars ≠ [] ∧ ∀ c ∈ chars, c.isDigit = true

/-- Whether a numeral is written correctly: only a lone zero starts with zero. -/
structure Numeral.IsProper (numeral : Numeral) : Prop where
  whole : AreDigits numeral.whole
  noLeadingZero : numeral.whole.head? = some '0' → numeral.whole = ['0']
  fraction : ∀ digits ∈ numeral.fraction, AreDigits digits
  mark : ∀ exponent ∈ numeral.exponent, exponent.mark = 'e' ∨ exponent.mark = 'E'
  sign : ∀ exponent ∈ numeral.exponent, ∀ sign ∈ exponent.sign, sign = '+' ∨ sign = '-'
  digits : ∀ exponent ∈ numeral.exponent, AreDigits exponent.digits

/-! ## Values -/

/-- What a JSON text says; an object keeps its members in order, and every one of
those whose keys agree. -/
inductive Tree (τ : Type) where
  | null
  | boolean (value : Bool)
  | number (numeral : Numeral)
  | string (content : τ)
  | array (items : List (Tree τ))
  | object (members : List (τ × Tree τ))

/-- A piece of a JSON text: a value; the items of an array, or those behind one of
them, with the closing bracket; the members of an object in the same way. -/
inductive Phrase (τ : Type) where
  | value (tree : Tree τ)
  | items (first : Bool) (items : List (Tree τ))
  | members (first : Bool) (members : List (τ × Tree τ))

/-- What stands in front of an item: white space, with a comma in it unless the item
is the first one. -/
def Lead : Bool → List Char → List Char → Prop
  | true, text, rest => White text rest
  | false, text, rest => ∃ more, White text (',' :: more) ∧ White more rest

/-- Whether a text starts with this phrase. -/
inductive Phrase.Begins {τ : Type} (spelling : Spelling τ) :
    Phrase τ → List Char → List Char → Prop
  | null (rest : List Char) : Begins spelling (.value .null) ("null".toList ++ rest) rest
  | boolean (value : Bool) (rest : List Char) :
      Begins spelling (.value (.boolean value)) (booleanText value ++ rest) rest
  | number {numeral : Numeral} (hProper : numeral.IsProper) (rest : List Char) :
      Begins spelling (.value (.number numeral)) (numeral.chars ++ rest) rest
  | string {content : τ} {text rest : List Char} (hContent : spelling.Spells content text rest) :
      Begins spelling (.value (.string content)) ('"' :: text) rest
  | array {items : List (Tree τ)} {text rest : List Char}
      (hItems : Begins spelling (.items true items) text rest) :
      Begins spelling (.value (.array items)) ('[' :: text) rest
  | object {members : List (τ × Tree τ)} {text rest : List Char}
      (hMembers : Begins spelling (.members true members) text rest) :
      Begins spelling (.value (.object members)) ('{' :: text) rest
  | noItem {first : Bool} {text rest : List Char} (hEnd : White text (']' :: rest)) :
      Begins spelling (.items first []) text rest
  | item {first : Bool} {item : Tree τ} {items : List (Tree τ)} {text start more rest : List Char}
      (hLead : Lead first text start) (hItem : Begins spelling (.value item) start more)
      (hItems : Begins spelling (.items false items) more rest) :
      Begins spelling (.items first (item :: items)) text rest
  | noMember {first : Bool} {text rest : List Char} (hEnd : White text ('}' :: rest)) :
      Begins spelling (.members first []) text rest
  | member {first : Bool} {key : τ} {value : Tree τ} {members : List (τ × Tree τ)}
      {text quoted behind colon start more rest : List Char}
      (hLead : Lead first text ('"' :: quoted))
      (hKey : spelling.Spells key quoted behind) (hColon : White behind (':' :: colon))
      (hStart : White colon start) (hValue : Begins spelling (.value value) start more)
      (hMembers : Begins spelling (.members false members) more rest) :
      Begins spelling (.members first ((key, value) :: members)) text rest

/-- Whether a text is this value, with white space around it. -/
def IsText {τ : Type} (spelling : Spelling τ) (tree : Tree τ) (text : List Char) : Prop :=
  ∃ start rest, White text start ∧ Phrase.Begins spelling (.value tree) start rest ∧ White rest []

end SlotGrid.Json
