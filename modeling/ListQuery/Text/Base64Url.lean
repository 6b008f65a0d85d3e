/-!
# Octets as URL-safe text

Three octets become four symbols of the alphabet `A`–`Z`, `a`–`z`, `0`–`9`, `-`
and `_`; one or two octets at the end become two or three.  Written text has no
padding.  When text is read, the last group may be filled up to four symbols, or
partly filled, with equals signs; the bits that do not belong to any octet have
to be zero.
-/

namespace ListQuery.Text.Base64Url

/-! ## The alphabet -/

/-- The symbol of a value below sixty-four. -/
def symbol (value : Nat) : Char :=
  if value < 26 then Char.ofNat (value + 'A'.toNat)
  else if value < 52 then Char.ofNat (value - 26 + 'a'.toNat)
  else if value < 62 then Char.ofNat (value - 52 + '0'.toNat)
  else if value = 62 then '-'
  else '_'

/-- The value of a symbol. -/
def value? (c : Char) : Option Nat :=
  if 'A' ≤ c ∧ c ≤ 'Z' then some (c.toNat - 'A'.toNat)
  else if 'a' ≤ c ∧ c ≤ 'z' then some (c.toNat - 'a'.toNat + 26)
  else if '0' ≤ c ∧ c ≤ '9' then some (c.toNat - '0'.toNat + 52)
  else if c = '-' then some 62
  else if c = '_' then some 63
  else none

/-! ## Writing -/

/-- The symbols of a sequence of octets. -/
def encode : List UInt8 → List Char
  | [] => []
  | [a] => [symbol (a.toNat / 4), symbol (a.toNat % 4 * 16)]
  | [a, b] =>
    [symbol (a.toNat / 4), symbol (a.toNat % 4 * 16 + b.toNat / 16), symbol (b.toNat % 16 * 4)]
  | a :: b :: c :: rest =>
    symbol (a.toNat / 4) :: symbol (a.toNat % 4 * 16 + b.toNat / 16)
      :: symbol (b.toNat % 16 * 4 + c.toNat / 64) :: symbol (c.toNat % 64) :: encode rest

/-! ## Reading -/

/-- The octets of a sequence of symbol values. -/
def octets? : List Nat → Option (List UInt8)
  | [] => some []
  | [_] => none
  | [a, b] => if b % 16 = 0 then some [UInt8.ofNat (a * 4 + b / 16)] else none
  | [a, b, c] =>
    if c % 4 = 0 then
      some [UInt8.ofNat (a * 4 + b / 16), UInt8.ofNat (b % 16 * 16 + c / 4)]
    else none
  | a :: b :: c :: d :: rest =>
    (octets? rest).map fun octets =>
      UInt8.ofNat (a * 4 + b / 16) :: UInt8.ofNat (b % 16 * 16 + c / 4)
        :: UInt8.ofNat (c % 4 * 64 + d) :: octets

/-- How many equals signs may follow a number of symbols at most. -/
def paddingBound (symbols : Nat) : Nat :=
  if symbols % 4 = 2 then 2 else if symbols % 4 = 3 then 1 else 0

/-- The octets that a text stands for. -/
def decode? (chars : List Char) : Option (List UInt8) :=
  let (symbols, padding) := chars.span (· != '=')
  if padding.all (· == '=') && padding.length ≤ paddingBound symbols.length then
    (symbols.mapM value?).bind octets?
  else none

end ListQuery.Text.Base64Url
