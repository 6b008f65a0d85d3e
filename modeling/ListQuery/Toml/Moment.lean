import ListQuery.Json.Numeral
import ListQuery.Text.Number

/-!
# Points in time in configuration files

A date, a time of day, or both, and then possibly the offset of a time zone.
-/

namespace ListQuery.Toml

/-- The value of two digits. -/
def twoDigits? : List Char → Option (Nat × List Char)
  | a :: b :: rest =>
    if Text.isDigits [a, b] then some (Json.Numeral.digitsValue [a, b], rest) else none
  | _ => none

/-- The value of two digits after a mark. -/
def twoDigitsAfter? (mark : Char) : List Char → Option (Nat × List Char)
  | c :: rest => if c = mark then twoDigits? rest else none
  | [] => none

/-- How many days a month has. -/
def daysOfMonth (year month : Nat) : Nat :=
  if month = 2 then
    if year % 4 = 0 ∧ (year % 100 ≠ 0 ∨ year % 400 = 0) then 29 else 28
  else if month = 4 ∨ month = 6 ∨ month = 9 ∨ month = 11 then 30
  else 31

/-- What follows a date. -/
def afterDate? (chars : List Char) : Option (List Char) := do
  let (century, rest) ← twoDigits? chars
  let (year, rest) ← twoDigits? rest
  let (month, rest) ← twoDigitsAfter? '-' rest
  let (day, rest) ← twoDigitsAfter? '-' rest
  if 1 ≤ month ∧ month ≤ 12 ∧ 1 ≤ day ∧ day ≤ daysOfMonth (century * 100 + year) month then
    return rest
  else failure

/-- What follows the fraction of a second, if there is one. -/
def afterFraction? : List Char → Option (List Char)
  | '.' :: rest =>
    match rest.span Char.isDigit with
    | ([], _) => none
    | (_, rest) => some rest
  | chars => some chars

/-- What follows a time of day.  The seconds may be left out. -/
def afterTime? (chars : List Char) : Option (List Char) := do
  let (hour, rest) ← twoDigits? chars
  let (minute, rest) ← twoDigitsAfter? ':' rest
  if 23 < hour ∨ 59 < minute then failure
  match rest with
  | ':' :: seconds =>
    let (second, rest) ← twoDigits? seconds
    if 60 < second then failure
    afterFraction? rest
  | rest => return rest

/-- Whether a text is the offset of a time zone, or empty. -/
def isOffset : List Char → Bool
  | [] | ['Z'] | ['z'] => true
  | sign :: rest =>
    (sign == '+' || sign == '-') &&
      match twoDigits? rest with
      | some (hours, rest) =>
        match twoDigitsAfter? ':' rest with
        | some (minutes, []) => hours ≤ 23 && minutes ≤ 59
        | _ => false
      | none => false

/-- Whether a text is a date, a time of day, or both. -/
def isMoment (chars : List Char) : Bool :=
  match afterDate? chars with
  | some [] => true
  | some (mark :: time) =>
    (mark == 'T' || mark == 't' || mark == ' ') && (afterTime? time).any isOffset
  | none => (afterTime? chars).any List.isEmpty

end ListQuery.Toml
