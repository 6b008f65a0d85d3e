import ListQuery.Json.Grammar
import ListQuery.Text.Number
import ListQuery.Toml.Value

/-!
# Numbers in configuration files

Integers in four bases, and numbers with a fraction or an exponent.  Digits may be
grouped by single underscores.

The value of a number is not worked out before something asks for it.  Where nothing
does, a number may be too large, an integer in another base than ten need not have
digits, and in a decimal integer other characters may follow the first underscore.
Such a number is `Value.unusable`.
-/

namespace ListQuery.Toml

open Json.Doc (hexValue?)

/-! ## Groups of digits -/

/-- Whether every underscore of a text has a digit on either side.  What comes before
the text counts as a digit if `afterDigit` says so. -/
def isGrouped (isDigit : Char → Bool) : Bool → List Char → Bool
  | _, [] => true
  | afterDigit, c :: rest =>
    if c = '_' then afterDigit && rest.head?.any isDigit && isGrouped isDigit false rest
    else isGrouped isDigit (isDigit c) rest

/-- A text without its underscores. -/
def ungrouped (chars : List Char) : List Char :=
  chars.filter (· != '_')

/-- Whether a character is a digit in a base. -/
def isDigitIn (base : Nat) (c : Char) : Bool :=
  (hexValue? c).any (· < base)

/-! ## Integers -/

/-- The value of digits in a base, at least one of them. -/
def valueInBase? (base : Nat) (digits : List Char) : Option Nat :=
  if digits.isEmpty then none
  else digits.foldlM (fun value digit => do
    let digit ← hexValue? digit
    if digit < base then return value * base + digit else failure) 0

/-- The integer that a sign and digits stand for, which is of use up to a length of one
hundred and twenty-eight bits. -/
def integerOf (base : Nat) (negative : Bool) (digits : List Char) : Value :=
  match valueInBase? base digits with
  | none => .unusable
  | some magnitude =>
    let value : Int := if negative then -(magnitude : Int) else magnitude
    if -0x80000000000000000000000000000000 ≤ value ∧ value < 0x100000000000000000000000000000000
    then .integer value else .unusable

/-- An integer in a base whose digits follow a mark of the base. -/
def inBase? (base : Nat) (digits : List Char) : Option Value :=
  if digits.all (fun c => isDigitIn base c || c == '_') &&
      isGrouped (isDigitIn base) false digits then
    some (integerOf base false (ungrouped digits))
  else none

/-- A decimal integer after its sign, if it has one.  It has no zero before anything
else.  Next to an underscore a sign and hexadecimal digits are as good as digits. -/
def decimal? (signed negative : Bool) (chars : List Char) : Option Value :=
  if chars.isEmpty || (chars.head? == some '0' && chars != ['0']) then none
  else if isGrouped (isDigitIn 16) signed chars then
    some (integerOf 10 negative (ungrouped chars))
  else none

/-! ## Numbers with a fraction -/

/-- Whether a character occurs in no integer but in a number with a fraction. -/
def isFractionMark (c : Char) : Bool :=
  c == '.' || c == 'e' || c == 'E'

/-- The digits and underscores at the front of a text, and what follows them, if there
is a digit. -/
def digits? (chars : List Char) : Option (List Char × List Char) :=
  let (digits, rest) := chars.span fun c => c.isDigit || c == '_'
  if digits.any Char.isDigit then some (digits, rest) else none

/-- What follows the digits before the point, which have no zero in front. -/
def afterWhole? (chars : List Char) : Option (List Char) := do
  let (digits, rest) ← digits? chars
  if digits.head? = some '0' ∧ 1 < digits.countP Char.isDigit then failure else return rest

/-- What follows the point and the digits after it, if there is a point. -/
def afterPoint? : List Char → Option (List Char)
  | '.' :: rest => (digits? rest).map Prod.snd
  | chars => some chars

/-- What follows the exponent, if there is one. -/
def afterExponent? : List Char → Option (List Char)
  | c :: rest =>
    if c = 'e' ∨ c = 'E' then (digits? (Text.splitSign rest).2).map Prod.snd
    else some (c :: rest)
  | [] => some []

/-- Whether a text consists of digits, possibly with a point and an exponent. -/
def isDecimalFraction (chars : List Char) : Bool :=
  (((afterWhole? chars).bind afterPoint?).bind afterExponent?).any List.isEmpty

/-- A number with a fraction or an exponent, after its sign if it has one. -/
def fraction? (signed : Bool) (chars : List Char) : Option Value :=
  if isDecimalFraction chars && isGrouped Char.isDigit signed chars then
    some (if (Text.finite? (ungrouped chars)).isSome then .fractional else .unusable)
  else none

/-! ## Both -/

/-- The number that a text stands for, after its sign if it has one. -/
def number? (signed negative : Bool) (chars : List Char) : Option Value :=
  match chars with
  | ['i', 'n', 'f'] | ['n', 'a', 'n'] => some .fractional
  | '0' :: 'x' :: digits => if signed then none else inBase? 16 digits
  | '0' :: 'o' :: digits => if signed then none else inBase? 8 digits
  | '0' :: 'b' :: digits => if signed then none else inBase? 2 digits
  | chars =>
    let rest := chars.dropWhile Char.isDigit
    if rest.contains ' ' then none
    else if rest.any isFractionMark then fraction? signed chars
    else if rest.head?.all (· == '_') then decimal? signed negative chars
    else none

end ListQuery.Toml
