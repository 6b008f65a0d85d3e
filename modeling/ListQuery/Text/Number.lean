import ListQuery.Binary64
import ListQuery.Json.Numeral

/-!
# Numbers written as text

A caller may give a number as a text.  An integer has an optional sign and
digits; any other number may also have a point with digits on at least one side
and an exponent, and is rounded exactly.
-/

namespace ListQuery.Text

open Json.Numeral (digitsValue)

/-- The sign at the front of a number, and what follows it. -/
def splitSign : List Char → Bool × List Char
  | '-' :: rest => (true, rest)
  | '+' :: rest => (false, rest)
  | chars => (false, chars)

/-- Whether a text consists of decimal digits, at least one of them. -/
def isDigits (chars : List Char) : Bool :=
  !chars.isEmpty && chars.all Char.isDigit

/-- The integer that a text writes. -/
def int? (chars : List Char) : Option Int :=
  let (negative, digits) := splitSign chars
  if isDigits digits then
    some (if negative then -(digitsValue digits : Int) else digitsValue digits)
  else none

/-- The signed word that a text writes. -/
def int64? (chars : List Char) : Option Int64 :=
  match int? chars with
  | some value =>
    if -0x8000000000000000 ≤ value ∧ value < 0x8000000000000000 then some (Int64.ofInt value)
    else none
  | none => none

/-- The exponent that a text consists of, which is zero if the text is empty. -/
def exponent? : List Char → Option Int
  | [] => some 0
  | c :: rest => if c = 'e' ∨ c = 'E' then int? rest else none

/-- The finite double nearest to the number that a text writes, if it is in range. -/
def finite? (chars : List Char) : Option Binary64 :=
  let (negative, rest) := splitSign chars
  let (whole, rest) := rest.span Char.isDigit
  let (fraction, rest) := match rest with
    | '.' :: rest => rest.span Char.isDigit
    | rest => ([], rest)
  if whole.isEmpty && fraction.isEmpty then none
  else
    match exponent? rest with
    | none => none
    | some exponent =>
      let value :=
        Binary64.ofDecimal negative (digitsValue (whole ++ fraction)) (exponent - fraction.length)
      if value.isFinite then some value else none

end ListQuery.Text
