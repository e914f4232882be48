/-!
# Binary numbers of 53 digits

The non-negative finite numbers of the 64-bit binary format, held exactly as a
mantissa and an exponent, and rounding of a rational number to the nearest of
them. All arithmetic is rational arithmetic followed by one rounding.

## Main definitions

* `Binary64` and its exact `Binary64.value`.
* `roundEven` — the nearest integer, the even one of two equally near.
* `Binary64.nearest?` — the nearest number of the format, unless the format
  ends before it.
-/

namespace SlotGrid.Decimal

/-- The number `mantissa · 2 ^ exponent`. -/
structure Binary64 where
  mantissa : Nat
  exponent : Int
  deriving DecidableEq, Repr

namespace Binary64

/-- The exact value. -/
def value (x : Binary64) : Rat := x.mantissa * (2 : Rat) ^ x.exponent

/-- Zero stands at the finest exponent, as every number below `2 ^ -1022`
does. -/
def zero : Binary64 := ⟨0, -1074⟩

end Binary64

/-- The integer nearest to `x`, the even one of two equally near. -/
def roundEven (x : Rat) : Int :=
  let below := x.floor
  let half : Rat := 1 / 2
  if x - below < half then below
  else if half < x - below then below + 1
  else if below % 2 = 0 then below
  else below + 1

/-- The exponent of the power of two at or just below a positive `x`. -/
def log2 (x : Rat) : Int :=
  let guess : Int := (Nat.log2 x.num.natAbs : Int) - Nat.log2 x.den
  if x < (2 : Rat) ^ guess then guess - 1 else guess

namespace Binary64

/-- The exponent that numbers near `x` have: 52 below the leading digit, and
never finer than `-1074`. -/
def exponentNear (x : Rat) : Int := max (-1022) (log2 x) - 52

/-- The number of the format nearest to a non-negative `x`; `none` when the
rounded value is `2 ^ 1024` or more. -/
def nearest? (x : Rat) : Option Binary64 :=
  if x ≤ 0 then some zero
  else
    let exponent := exponentNear x
    let mantissa := (roundEven (x / (2 : Rat) ^ exponent)).toNat
    let rounded : Binary64 :=
      if mantissa = 1 <<< 53 then ⟨1 <<< 52, exponent + 1⟩ else ⟨mantissa, exponent⟩
    if rounded.exponent ≤ 971 then some rounded else none

end Binary64

example : Binary64.nearest? (1 / 10) = some ⟨7205759403792794, -56⟩ := by
  decide +kernel

end SlotGrid.Decimal
