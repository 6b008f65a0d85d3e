import ListQuery.Binary64.Shortest
import ListQuery.Text.Decimal

/-!
# The text of a double

Two texts are in use, and both write the shortest decimal.  `toNumeral` is the
numeral of a JSON document: positional for decimal exponents from -5 to 15, with
a fractional part even if that is zero, and otherwise scientific.  `toPlain` is
what a reader sees in a pattern or a label: always positional, and without a
fractional part if that is zero.
-/

namespace ListQuery.Binary64

/-- Positional notation of a decimal; `point` ends a whole number. -/
def Decimal.positional (d : Decimal) (point : List Char) : List Char :=
  let digits := Text.natDigits d.digits
  if 0 ≤ d.exponent then digits ++ List.replicate d.exponent.toNat '0' ++ point
  else
    let places := d.exponent.natAbs
    let padded := List.replicate (places + 1 - digits.length) '0' ++ digits
    padded.take (padded.length - places) ++ '.' :: padded.drop (padded.length - places)

/-- Scientific notation of a decimal whose leading digit stands at `exponent`. -/
def Decimal.scientific (d : Decimal) (exponent : Int) : List Char :=
  let mantissa := match Text.natDigits d.digits with
    | [] => []
    | [digit] => [digit]
    | digit :: rest => digit :: '.' :: rest
  let sign := if exponent < 0 then '-' else '+'
  mantissa ++ 'e' :: sign :: Text.natDigits exponent.natAbs

/-- The exponent of the leading digit of a decimal. -/
def Decimal.leading (d : Decimal) : Int :=
  ((Text.natDigits d.digits).length : Int) - 1 + d.exponent

/-- The sign of a number as text. -/
def signText (x : Binary64) : List Char :=
  if x.isNegative then ['-'] else []

/-- The JSON numeral of a finite double. -/
def toNumeral (x : Binary64) : String :=
  let d := x.shortest .even
  let leading := d.leading
  let body :=
    if -5 ≤ leading ∧ leading ≤ 15 then d.positional ['.', '0'] else d.scientific leading
  String.ofList (x.signText ++ body)

/-- The text shown for a double, which has no exponent and knows the three
values that are not finite. -/
def toPlain (x : Binary64) : String :=
  if x.isNaN then "NaN"
  else if x.isFinite then String.ofList (x.signText ++ (x.shortest .up).positional [])
  else String.ofList (x.signText ++ "inf".toList)

end ListQuery.Binary64
