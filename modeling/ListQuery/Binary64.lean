import ListQuery.Text.Decimal

/-!
# Double-precision numbers as words

A `Binary64` is one of the `2 ^ 64` words of the double format: a sign bit, an
eleven-bit exponent field and a fraction of fifty-two bits.  Everything the
library does with such a number is done on the word in exact natural-number
arithmetic, so that every rounding is a definition a proof can open.

A finite word has the magnitude `units / 2 ^ 1074`, where `units` is a natural
number: the least positive double is one unit.  Rounding goes the other way,
from an exact quotient of natural numbers to the nearest word, a half going to
the even neighbour and a magnitude beyond the largest finite one going to
infinity.
-/

namespace ListQuery

/-- A word of the double format. -/
structure Binary64 where
  /-- The sign bit, the exponent field and the fraction, most significant first. -/
  bits : UInt64
deriving DecidableEq

namespace Binary64

/-! ## The fields of a word -/

/-- Whether the sign bit is set, as it is for `-0.0`. -/
def isNegative (x : Binary64) : Bool :=
  0x8000000000000000 ≤ x.bits.toNat

/-- The exponent field: zero for subnormal numbers and 2047 for infinities and NaNs. -/
def exponentField (x : Binary64) : Nat :=
  x.bits.toNat / 0x10000000000000 % 0x800

/-- The fifty-two bits after the exponent field. -/
def fraction (x : Binary64) : Nat :=
  x.bits.toNat % 0x10000000000000

/-- Neither an infinity nor a NaN. -/
def isFinite (x : Binary64) : Bool :=
  x.exponentField != 2047

/-- Whether the word is one of the NaNs. -/
def isNaN (x : Binary64) : Bool :=
  x.exponentField == 2047 && x.fraction != 0

/-- The fraction with its implicit leading bit, which subnormal numbers lack. -/
def significand (x : Binary64) : Nat :=
  if x.exponentField = 0 then x.fraction else 0x10000000000000 + x.fraction

/-- The binary exponent of the significand's last bit, counted in units. -/
def shift (x : Binary64) : Nat :=
  max x.exponentField 1 - 1

/-- How many units one is. -/
def unitsPerOne : Nat := Nat.pow 2 1074

/-- The magnitude of a finite word as a multiple of `2 ^ -1074`. -/
def units (x : Binary64) : Nat :=
  x.significand * Nat.pow 2 x.shift

/-! ## Rounding a quotient -/

/-- The natural number nearest to `numerator / denominator`, the even one of two
that are equally near. -/
def roundHalfEven (numerator denominator : Nat) : Nat :=
  let quotient := numerator / denominator
  let twice := 2 * (numerator % denominator)
  if twice < denominator ∨ (twice = denominator ∧ quotient % 2 = 0) then quotient
  else quotient + 1

/-- The magnitude bits of infinity; every larger magnitude is one as well. -/
def infinityMagnitude : Nat := 2047 * 0x10000000000000

/-- The word with this sign and these magnitude bits. -/
def ofMagnitude (negative : Bool) (magnitude : Nat) : Binary64 :=
  ⟨UInt64.ofNat ((if negative then 0x8000000000000000 else 0) + magnitude)⟩

/-- The magnitude bits nearest to `numerator / denominator`.  A significand that
rounds up to `2 ^ 53` carries into the exponent field, which is the right word
for it, and a subnormal significand that reaches `2 ^ 52` does the same. -/
def magnitudeOfRatio (numerator denominator : Nat) : Nat :=
  let scaled := numerator * unitsPerOne
  let scale := Nat.log2 (scaled / denominator) - 52
  min infinityMagnitude (scale * 0x10000000000000
    + roundHalfEven scaled (denominator * Nat.pow 2 scale))

/-- The double nearest to `numerator / denominator`, with the given sign. -/
def ofRatio (negative : Bool) (numerator denominator : Nat) : Binary64 :=
  ofMagnitude negative (magnitudeOfRatio numerator denominator)

/-- Positive or negative zero. -/
def zero (negative : Bool) : Binary64 := ofMagnitude negative 0

/-- Positive or negative infinity. -/
def infinity (negative : Bool) : Binary64 := ofMagnitude negative infinityMagnitude

/-- The double nearest to a natural number. -/
def ofNat (n : Nat) : Binary64 := ofRatio false n 1

/-- The double nearest to an integer. -/
def ofInt (n : Int) : Binary64 := ofRatio (n < 0) n.natAbs 1

/-- The double nearest to `digits * 10 ^ exponent`.  A magnitude of four hundred
decimal places to either side is out of range whatever its digits are. -/
def ofDecimal (negative : Bool) (digits : Nat) (exponent : Int) : Binary64 :=
  if digits = 0 then zero negative
  else
    let places := (Text.natDigits digits).length + exponent
    if 400 < places then infinity negative
    else if places < -400 then zero negative
    else if exponent < 0 then ofRatio negative digits (Nat.pow 10 exponent.natAbs)
    else ofRatio negative (digits * Nat.pow 10 exponent.natAbs) 1

/-! ## Arithmetic on magnitudes -/

/-- The same magnitude with the other sign. -/
def negate (x : Binary64) : Binary64 :=
  ofMagnitude (!x.isNegative) (x.bits.toNat % 0x8000000000000000)

/-- The rounded product of two finite non-negative numbers. -/
def times (x y : Binary64) : Binary64 :=
  ofRatio false (x.units * y.units) (unitsPerOne * unitsPerOne)

/-- The rounded quotient of two finite non-negative numbers, the second of them
not zero. -/
def quotient (x y : Binary64) : Binary64 :=
  ofRatio false x.units y.units

/-- Whether a word is a zero of either sign. -/
def isZero (x : Binary64) : Bool :=
  x.bits.toNat % 0x8000000000000000 = 0

end Binary64

end ListQuery
