import SlotGrid.Decimal.Binary64

/-!
# The shortest decimal text of a binary number

A number is written with the fewest decimal digits that read back as the same
number, and among those with the digits nearest to it. A decimal with fewer
digits is one on a coarser grid of multiples of a power of ten, so the search
goes from the coarsest grid to finer ones and stops at the first grid that has
a multiple which reads back.

## Main definitions

* `shortest?` — the digits as a natural number and the power of ten they count.
* `text` — the written form: positional when the leading digit stands between
  the fifth place after the point and the sixteenth before it, with a signed
  exponent otherwise; a whole number in positional form keeps one zero after its
  point.
-/

namespace SlotGrid.Decimal

/-- Of the two multiples of `10 ^ power` around `x`, the nearest one that reads
back as `x`, as a multiple count. -/
def onGrid? (x : Binary64) (power : Int) : Option Nat :=
  let count := x.value / (10 : Rat) ^ power
  let near := roundEven count
  let other := if near = count.floor then near + 1 else count.floor
  let readsBack := fun digits : Int =>
    0 < digits && Binary64.nearest? (digits * (10 : Rat) ^ power) == some x
  ([near, other].find? readsBack).map Int.toNat

/-- The powers of ten of the grids that are tried, coarsest first. -/
def gridPowers : List Int := (List.range 652).map fun step : Nat => 308 - (step : Int)

/-- The fewest digits that read back as a positive `x`, and the power of ten of
the last of them. -/
def shortest? (x : Binary64) : Option (Nat × Int) :=
  gridPowers.findSome? fun power => (onGrid? x power).map fun digits => (digits, power)

/-- `digits · 10 ^ power` in positional notation. -/
def positional (digits : List Char) (power : Int) : List Char :=
  if 0 ≤ power then digits ++ List.replicate power.toNat '0' ++ ['.', '0']
  else
    let places := (-power).toNat
    let padded := List.replicate (places + 1 - digits.length) '0' ++ digits
    padded.take (padded.length - places) ++ '.' :: padded.drop (padded.length - places)

/-- The digits with a point behind the first one and the power of ten of that
digit, which always carries its sign. -/
def scientific (digits : List Char) (leading : Int) : List Char :=
  let mantissa := match digits with
    | [] => []
    | [digit] => [digit]
    | digit :: rest => digit :: '.' :: rest
  let sign := if leading < 0 then '-' else '+'
  mantissa ++ 'e' :: sign :: Nat.toDigits 10 leading.natAbs

example : scientific ['1', '5'] 300 = "1.5e+300".toList := by decide

example : scientific ['1'] (-7) = "1e-7".toList := by decide

/-- The written form of a number. -/
def text (x : Binary64) : String :=
  match if x.mantissa = 0 then none else shortest? x with
  | none => "0.0"
  | some (count, power) =>
    let digits := Nat.toDigits 10 count
    let leading := (digits.length : Int) - 1 + power
    String.ofList <|
      if -5 ≤ leading ∧ leading ≤ 15 then positional digits power
      else scientific digits leading

end SlotGrid.Decimal
