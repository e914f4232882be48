import SlotGrid.Decimal.Shortest

/-!
# JSON numbers

A number is written as a *numeral*: whole digits, perhaps digits after a point,
perhaps an exponent. A numeral without point and exponent whose value fits into
64 bits is an integer. Every other one is a binary number of 53 digits, and its
value is found in two roundings: the significant digits are cut where they no
longer fit into 64 bits and rounded, and the result is scaled by a rounded power
of ten and rounded again.

## Main definitions

* `Numeral` — the written form, and `Numeral.chars`, its text.
* `Number` — an integer or a signed binary number.
* `Numeral.number?` — the value of a numeral, unless it is out of range.
* `Numeral.unread` — how many exponent digits are left when an exponent turns
  out to be too great.
-/

namespace SlotGrid.Json

open SlotGrid.Decimal (Binary64)

/-- The exponent of a numeral: `e` or `E`, perhaps a sign, and digits. -/
structure Exponent where
  mark : Char
  sign : Option Char
  digits : List Char
  deriving DecidableEq, Repr

/-- The written form of a number. -/
structure Numeral where
  negative : Bool
  /-- The digits before the point. -/
  whole : List Char
  /-- The digits after the point, none when there is no point. -/
  fraction : Option (List Char)
  exponent : Option Exponent
  deriving DecidableEq, Repr

/-- The value of a number. -/
inductive Number where
  | integer (value : Int)
  | binary (negative : Bool) (magnitude : Binary64)
  deriving DecidableEq, Repr

/-- The text of a number: an integer in decimal digits, a binary number by its
shortest text. -/
def Number.text : Number → String
  | .integer value => toString value
  | .binary negative magnitude =>
    (if negative then "-" else "") ++ SlotGrid.Decimal.text magnitude

namespace Numeral

/-- The numeral as it is written. -/
def chars (numeral : Numeral) : List Char :=
  (if numeral.negative then ['-'] else []) ++ numeral.whole
    ++ (match numeral.fraction with
        | none => []
        | some digits => '.' :: digits)
    ++ (match numeral.exponent with
        | none => []
        | some exponent => exponent.mark :: exponent.sign.toList ++ exponent.digits)

/-- The value of a decimal digit. -/
def digitValue (digit : Char) : Nat := digit.toNat - '0'.toNat

/-- Appends digits to a number below `limit` as long as it stays below, and
counts those it took. -/
def absorb (limit : Nat) : Nat → List Char → Nat × Nat
  | value, [] => (value, 0)
  | value, digit :: rest =>
    let next := value * 10 + digitValue digit
    if next < limit then
      let (result, taken) := absorb limit next rest
      (result, taken + 1)
    else (value, 0)

/-- The significant digits that fit into 64 bits, and the power of ten of the
last of them. -/
def significand (numeral : Numeral) : Nat × Int :=
  let (whole, wholeTaken) := absorb (1 <<< 64) 0 numeral.whole
  let (value, fractionTaken) := absorb (1 <<< 64) whole (numeral.fraction.getD [])
  (value, (numeral.whole.length - wholeTaken : Nat) - (fractionTaken : Int))

/-- Whether the exponent lowers the value. -/
def lowers (numeral : Numeral) : Bool :=
  numeral.exponent.any fun exponent => exponent.sign == some '-'

/-- The exponent with its sign; `none` when it has no place in 32 bits. -/
def exponentValue? (numeral : Numeral) : Option Int :=
  match numeral.exponent with
  | none => some 0
  | some exponent =>
    let (value, taken) := absorb (1 <<< 31) 0 exponent.digits
    if taken < exponent.digits.length then none
    else some (if numeral.lowers then -(value : Int) else value)

/-- The digits of a too great exponent that follow the one that made it so. -/
def unread (numeral : Numeral) : Nat :=
  match numeral.exponent with
  | none => 0
  | some exponent => exponent.digits.length - (absorb (1 <<< 31) 0 exponent.digits).2 - 1

/-- Multiplies or divides by a rounded power of ten. One division lowers a value
by at most 308 places, so a smaller exponent takes several. -/
def scale? : Nat → Binary64 → Int → Option Binary64
  | 0, _, _ => none
  | steps + 1, x, exponent =>
    let power (places : Nat) : Rat :=
      ((Binary64.nearest? ((10 : Rat) ^ places)).map Binary64.value).getD 1
    if exponent.natAbs ≤ 308 then
      if 0 ≤ exponent then Binary64.nearest? (x.value * power exponent.toNat)
      else Binary64.nearest? (x.value / power exponent.natAbs)
    else if x.mantissa = 0 then some x
    else if 0 ≤ exponent then none
    else
      match Binary64.nearest? (x.value / power 308) with
      | none => none
      | some lowered => scale? steps lowered (exponent + 308)

/-- The value of a numeral that is no integer of 64 bits. Four divisions by
`10 ^ 308` take every significand to zero. -/
def binary? (numeral : Numeral) : Option Number :=
  let (value, place) := numeral.significand
  match numeral.exponentValue? with
  | none =>
    if value = 0 || numeral.lowers then some (.binary numeral.negative Binary64.zero)
    else none
  | some exponent =>
    match Binary64.nearest? value with
    | none => none
    | some start => (scale? 5 start (place + exponent)).map (.binary numeral.negative)

/-- The value of a numeral; `none` when it lies beyond the greatest binary
number. -/
def number? (numeral : Numeral) : Option Number :=
  let value := numeral.significand.1
  let plain := numeral.fraction.isNone && numeral.exponent.isNone
  let whole := numeral.significand.2 == 0
  if plain && whole && !numeral.negative then some (.integer value)
  else if plain && whole && 0 < value && value ≤ 1 <<< 63 then some (.integer (-value))
  else numeral.binary?

end Numeral

end SlotGrid.Json
