import ListQuery.Json.Basic

/-!
# From numerals to numbers

A numeral is read in one pass into a sixty-four bit significand and a decimal
exponent.  Digits that no longer fit are counted if they stand before the point
and dropped if they stand after it.  The number is the significand, rounded to a
double, multiplied or divided by a rounded power of ten; a numeral of up to
fifteen digits and a moderate exponent is read exactly rounded this way.

A numeral without point and exponent whose value fits in sixty-four bits is an
integer, save `-0`, which only a double can express.  A numeral beyond the
largest double is no number.
-/

namespace ListQuery.Json

/-- The parts of a numeral: the digits before and after the point, and the
exponent as a sign and digits. -/
structure Numeral where
  negative : Bool
  whole : List Char
  fraction : Option (List Char)
  /-- Whether the exponent is negative, and its digits. -/
  exponent : Option (Bool × List Char)
deriving DecidableEq

namespace Numeral

/-- The value of a decimal digit. -/
def digitValue (c : Char) : Nat := c.toNat - '0'.toNat

/-- A significand below `0x10000000000000000` with the power of ten that it is scaled by. -/
structure Scaled where
  significand : Nat
  exponent : Int

/-- Whether another digit still fits into the significand. -/
def Scaled.fits (s : Scaled) (digit : Char) : Bool :=
  s.significand * 10 + digitValue digit < 0x10000000000000000

/-- The digits before the point: once one does not fit, it and all that follow it
only raise the exponent. -/
def Scaled.readWhole (s : Scaled) : List Char → Scaled
  | [] => s
  | digit :: rest =>
    if s.fits digit then readWhole ⟨s.significand * 10 + digitValue digit, s.exponent⟩ rest
    else ⟨s.significand, s.exponent + (rest.length + 1 : Nat)⟩

/-- The digits after the point, up to the first that does not fit. -/
def Scaled.readFraction (s : Scaled) : List Char → Scaled
  | [] => s
  | digit :: rest =>
    if s.fits digit then readFraction ⟨s.significand * 10 + digitValue digit, s.exponent - 1⟩ rest
    else s

/-- The value of a string of digits. -/
def digitsValue (digits : List Char) : Nat :=
  digits.foldl (fun value digit => value * 10 + digitValue digit) 0

/-- The double nearest to a power of ten. -/
def powerOfTen (exponent : Nat) : Binary64 :=
  Binary64.ofNat (Nat.pow 10 exponent)

/-- Divides by `10 ^ 308` until the exponent is in the range of doubles.  Two
divisions leave nothing of any significand, so `fuel` need not be large. -/
def divideDown : Nat → Binary64 → Int → Binary64
  | 0, x, _ => x
  | fuel + 1, x, exponent =>
    if x.isZero then x
    else if exponent < -308 then divideDown fuel (x.quotient (powerOfTen 308)) (exponent + 308)
    else x.quotient (powerOfTen exponent.natAbs)

/-- The magnitude of a scaled significand, unless it exceeds every double. -/
def Scaled.magnitude? (s : Scaled) : Option Binary64 :=
  let x := Binary64.ofNat s.significand
  if s.exponent < 0 then some (divideDown 4 x s.exponent)
  else if s.significand = 0 then some x
  else if 308 < s.exponent then none
  else
    let product := x.times (powerOfTen s.exponent.toNat)
    if product.isFinite then some product else none

/-- The magnitude of a scaled significand with a written exponent.  An exponent
beyond a signed word of thirty-two bits leaves zero or nothing. -/
def Scaled.withExponent? (s : Scaled) : Option (Bool × List Char) → Option Binary64
  | none => s.magnitude?
  | some (negative, digits) =>
    let exponent := digitsValue digits
    if exponent < 0x80000000 then
      Scaled.magnitude?
        ⟨s.significand, if negative then s.exponent - exponent else s.exponent + exponent⟩
    else if negative || s.significand = 0 then some (Binary64.zero false)
    else none

/-- The numeral read as a double. -/
def toBinary64? (n : Numeral) : Option Binary64 :=
  let whole := Scaled.readWhole ⟨0, 0⟩ n.whole
  let scaled := whole.readFraction (n.fraction.getD [])
  (scaled.withExponent? n.exponent).map fun x => if n.negative then x.negate else x

/-- The number that a numeral denotes. -/
def toNumber? (n : Numeral) : Option Number :=
  let float := n.toBinary64?.bind Number.ofBinary64?
  if n.fraction.isNone && n.exponent.isNone then
    let magnitude := digitsValue n.whole
    if n.negative then
      if 0 < magnitude ∧ magnitude ≤ 0x8000000000000000 then Number.ofInt? (-magnitude) else float
    else if magnitude < 0x10000000000000000 then Number.ofInt? magnitude
    else float
  else float

end Numeral

end ListQuery.Json
