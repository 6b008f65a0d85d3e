import ListQuery.Binary64

/-!
# The shortest decimal of a double

Among the decimals that round to a given finite double, one with the fewest
digits is chosen, and of those the one nearest to the double itself.  The
decimals that round to `x` form an interval around it which contains its end
points exactly when the significand is even.

Grids of one, two, … seventeen significant digits are tried in turn.  If any
point of a grid lies in the interval then so does one of the two neighbours of
the double on that grid, so only those two are looked at.
-/

namespace ListQuery.Binary64

/-- A decimal `digits * 10 ^ exponent`. -/
structure Decimal where
  digits : Nat
  exponent : Int
deriving DecidableEq

/-- Which of two decimals is taken when both are equally near and equally short. -/
inductive TieRule
  /-- The decimal whose last digit is even. -/
  | even
  /-- The larger decimal. -/
  | up
deriving DecidableEq

/-- Four times the units of a double, with the end points of the interval of
numbers that round to it on the same scale. -/
structure Interval where
  lower : Nat
  value : Nat
  upper : Nat
  /-- Whether the end points themselves round to the double. -/
  closed : Bool

/-- The interval of a finite double.  Below a power of two the doubles lie twice
as dense, so there the gap downwards is half of the gap upwards. -/
def interval (x : Binary64) : Interval :=
  let gap := Nat.pow 2 x.shift
  let below := if x.fraction = 0 ∧ 1 < x.exponentField then gap else 2 * gap
  let value := 4 * x.units
  ⟨value - below, value, value + 2 * gap, x.significand % 2 = 0⟩

/-- Whether `candidate / denominator` lies in the interval, both on the interval's
own scale. -/
def Interval.contains (i : Interval) (candidate denominator : Nat) : Bool :=
  let lower := i.lower * denominator
  let upper := i.upper * denominator
  if i.closed then lower ≤ candidate && candidate ≤ upper
  else lower < candidate && candidate < upper

/-- The exponent of the leading decimal digit of a positive double.  The factor
`10 ^ 400` makes the quotient exceed one for every double, so that counting its
digits gives the exponent. -/
def leadingExponent (x : Binary64) : Int :=
  ((Text.natDigits (x.units * Nat.pow 10 400 / unitsPerOne)).length : Int) - 401

/-- The neighbours of a double on the grid of multiples of `10 ^ exponent`, if one
of them rounds to the double: of two, the nearer. -/
def onGrid? (tie : TieRule) (x : Binary64) (exponent : Int) : Option Decimal :=
  let i := x.interval
  -- A grid point `k` is `k * unit / denominator` on the interval's scale.
  let unit := 4 * unitsPerOne * Nat.pow 10 exponent.toNat
  let denominator := Nat.pow 10 (-exponent).toNat
  let value := i.value * denominator
  let below := value / unit
  let above := below + 1
  let belowFits := i.contains (below * unit) denominator
  let aboveFits := i.contains (above * unit) denominator
  let toBelow := value - below * unit
  let toAbove := above * unit - value
  if belowFits && aboveFits then
    if toBelow < toAbove then some ⟨below, exponent⟩
    else if toAbove < toBelow then some ⟨above, exponent⟩
    else match tie with
      | .even => if below % 2 = 0 then some ⟨below, exponent⟩ else some ⟨above, exponent⟩
      | .up => some ⟨above, exponent⟩
  else if belowFits then some ⟨below, exponent⟩
  else if aboveFits then some ⟨above, exponent⟩
  else none

/-- The same decimal without trailing zeros; `fuel` bounds their number. -/
def Decimal.trim : Nat → Decimal → Decimal
  | 0, d => d
  | fuel + 1, d =>
    if d.digits % 10 = 0 ∧ d.digits ≠ 0 then trim fuel ⟨d.digits / 10, d.exponent + 1⟩ else d

/-- The shortest decimal that rounds to the magnitude of a finite double.  Zero is
written with the digit zero.  Seventeen digits always suffice. -/
def shortest (tie : TieRule) (x : Binary64) : Decimal :=
  if x.units = 0 then ⟨0, 0⟩
  else
    let leading := x.leadingExponent
    let found := (List.range 17).findSome? fun (place : Nat) => x.onGrid? tie (leading - place)
    (found.getD ⟨0, 0⟩).trim 20

end ListQuery.Binary64
