import ListQuery.Json.Grammar
import Mathlib.Data.List.TakeDrop
import Mathlib.Data.List.TakeWhile

/-!
# Numerals are read as they are written

A numeral is written as its sign, its digits, its fraction and its exponent
(`Numeral.chars`).  If each part has the form that the grammar asks for, reading takes
in all of it and stops there, as long as what follows cannot continue a numeral.
-/

namespace ListQuery.Json

namespace Numeral

/-! ## Written numerals -/

/-- The characters of a fraction. -/
def fractionChars : Option (List Char) → List Char
  | some digits => '.' :: digits
  | none => []

/-- The characters of an exponent, which always has a sign. -/
def exponentChars : Option (Bool × List Char) → List Char
  | some (negative, digits) => 'e' :: (if negative then '-' else '+') :: digits
  | none => []

/-- The characters of a sign, which is written if it is negative. -/
def signChars (negative : Bool) : List Char :=
  if negative then ['-'] else []

/-- The characters of a numeral. -/
def chars (n : Numeral) : List Char :=
  signChars n.negative ++ (n.whole ++ (fractionChars n.fraction ++ exponentChars n.exponent))

/-- Digits, at least one of them. -/
def IsDigits (chars : List Char) : Prop :=
  chars ≠ [] ∧ ∀ c ∈ chars, c.isDigit = true

/-- The numerals of the grammar: digits in every part, and no leading zero that could be
left out. -/
structure IsWritten (n : Numeral) : Prop where
  whole : IsDigits n.whole
  leading : ∀ digit rest, n.whole ≠ '0' :: digit :: rest
  fraction : ∀ digits ∈ n.fraction, IsDigits digits
  exponent : ∀ signed ∈ n.exponent, IsDigits signed.2

/-- Whether the characters after a numeral do not continue it. -/
def endsBefore : List Char → Bool
  | [] => true
  | c :: _ => !(c.isDigit || c == '.' || c == 'e' || c == 'E')

end Numeral

namespace Doc

open Numeral

/-! ## The parts of a numeral -/

/-- Whether the first of some characters is no digit. -/
def startsWithoutDigit : List Char → Bool
  | [] => true
  | c :: _ => !c.isDigit

theorem endsBefore_cons_iff {c : Char} {tail : List Char} : endsBefore (c :: tail) = true ↔
    c.isDigit = false ∧ c ≠ '.' ∧ c ≠ 'e' ∧ c ≠ 'E' := by
  simp [endsBefore, and_assoc]

theorem digits_append {found rest : List Char} (hfound : ∀ c ∈ found, c.isDigit = true)
    (hrest : startsWithoutDigit rest = true) : digits (found ++ rest) = (found, rest) := by
  have hstop : rest.takeWhile Char.isDigit = [] ∧ rest.dropWhile Char.isDigit = rest := by
    cases rest with
    | nil => exact ⟨rfl, rfl⟩
    | cons c tail =>
        have hc : c.isDigit = false := by simpa [startsWithoutDigit] using hrest
        exact ⟨List.takeWhile_cons_of_neg (by simp [hc]),
          List.dropWhile_cons_of_neg (by simp [hc])⟩
  rw [digits, List.span_eq_takeWhile_dropWhile, List.takeWhile_append_of_pos hfound,
    List.dropWhile_append_of_pos hfound, hstop.1, hstop.2, List.append_nil]

theorem startsWithoutDigit_of_endsBefore {rest : List Char} (hrest : endsBefore rest = true) :
    startsWithoutDigit rest = true := by
  cases rest with
  | nil => rfl
  | cons c tail =>
      obtain ⟨hdigit, -⟩ := endsBefore_cons_iff.mp hrest
      simp [startsWithoutDigit, hdigit]

theorem whole?_append {whole rest : List Char} (hwhole : IsDigits whole)
    (hleading : ∀ digit others, whole ≠ '0' :: digit :: others)
    (hrest : startsWithoutDigit rest = true) : whole? (whole ++ rest) = some (whole, rest) := by
  unfold whole?
  rw [digits_append hwhole.2 hrest]
  split
  next hnil => exact absurd (Prod.mk.inj hnil).1 hwhole.1
  next hzero => exact absurd (Prod.mk.inj hzero).1 (hleading _ _)
  next => rfl

theorem fraction?_append {fraction : Option (List Char)} {rest : List Char}
    (hfraction : ∀ digits ∈ fraction, IsDigits digits)
    (hrest : startsWithoutDigit rest = true) (hpoint : rest.head? ≠ some '.') :
    fraction? (fractionChars fraction ++ rest) = some (fraction, rest) := by
  cases fraction with
  | none =>
      rw [fractionChars, List.nil_append]
      unfold fraction?
      split
      next => exact absurd rfl hpoint
      next => rfl
  | some found =>
      obtain ⟨hne, hdigits⟩ := hfraction found rfl
      rw [fractionChars, List.cons_append, fraction?, digits_append hdigits hrest]
      split
      next hnil => exact absurd (Prod.mk.inj hnil).1 hne
      next hfound =>
        obtain ⟨rfl, rfl⟩ := Prod.mk.inj hfound
        rfl

theorem exponent?_append {exponent : Option (Bool × List Char)} {rest : List Char}
    (hexponent : ∀ signed ∈ exponent, IsDigits signed.2) (hrest : endsBefore rest = true) :
    exponent? (exponentChars exponent ++ rest) = some (exponent, rest) := by
  cases exponent with
  | none =>
      rw [exponentChars, List.nil_append]
      cases rest with
      | nil => rfl
      | cons c tail =>
          obtain ⟨-, -, hsmall, hlarge⟩ := endsBefore_cons_iff.mp hrest
          rw [exponent?, if_neg (by simp [hsmall, hlarge])]
  | some signed =>
      obtain ⟨negative, found⟩ := signed
      obtain ⟨hne, hdigits⟩ := hexponent _ rfl
      -- The sign of an exponent is written even if it is a plus.
      have hsign : exponentSign ((if negative then '-' else '+') :: (found ++ rest)) =
          (negative, found ++ rest) := by
        cases negative <;> rfl
      rw [exponentChars, List.cons_append, List.cons_append, exponent?, if_pos (by simp), hsign]
      simp only
      rw [digits_append hdigits (startsWithoutDigit_of_endsBefore hrest)]
      split
      next hnil => exact absurd (Prod.mk.inj hnil).1 hne
      next hfound =>
        obtain ⟨rfl, rfl⟩ := Prod.mk.inj hfound
        rfl

/-! ## Whole numerals -/

theorem startsWithoutDigit_exponentChars (exponent : Option (Bool × List Char)) {rest : List Char}
    (hrest : endsBefore rest = true) :
    startsWithoutDigit (exponentChars exponent ++ rest) = true ∧
      (exponentChars exponent ++ rest).head? ≠ some '.' := by
  cases exponent with
  | some signed => exact ⟨rfl, by simp [exponentChars]⟩
  | none =>
      refine ⟨startsWithoutDigit_of_endsBefore hrest, ?_⟩
      cases rest with
      | nil => simp [exponentChars]
      | cons c tail =>
          obtain ⟨-, hpoint, -⟩ := endsBefore_cons_iff.mp hrest
          simp [exponentChars, hpoint]

theorem unsignedNumeral?_append {n : Numeral} {rest : List Char} (hn : n.IsWritten)
    (hrest : endsBefore rest = true) :
    unsignedNumeral? n.negative
        (n.whole ++ (fractionChars n.fraction ++ (exponentChars n.exponent ++ rest))) =
      some (n, rest) := by
  obtain ⟨hexponent, hpoint⟩ := startsWithoutDigit_exponentChars n.exponent hrest
  have hfraction : startsWithoutDigit
      (fractionChars n.fraction ++ (exponentChars n.exponent ++ rest)) = true := by
    cases n.fraction with
    | none => exact hexponent
    | some digits => rfl
  unfold unsignedNumeral?
  rw [whole?_append hn.whole hn.leading hfraction]
  simp only [Option.bind_eq_bind, Option.bind_some]
  rw [fraction?_append hn.fraction hexponent hpoint]
  simp only [Option.bind_some]
  rw [exponent?_append hn.exponent hrest]
  rfl

/-- A numeral starts with a minus sign or a digit. -/
theorem chars_eq_cons {n : Numeral} (hn : n.IsWritten) :
    ∃ c tail, n.chars = c :: tail ∧ (c = '-' ∨ c.isDigit = true) := by
  obtain ⟨hne, hdigits⟩ := hn.whole
  cases hwhole : n.whole with
  | nil => exact absurd hwhole hne
  | cons digit digits =>
      unfold Numeral.chars
      cases hnegative : n.negative with
      | true => exact ⟨'-', _, rfl, .inl rfl⟩
      | false =>
          refine ⟨digit, _, by rw [hwhole]; rfl, .inr (hdigits digit ?_)⟩
          rw [hwhole]
          exact List.mem_cons_self

/-- No other character starts a numeral. -/
theorem ne_of_starts {c other : Char} (hc : c = '-' ∨ c.isDigit = true) (hminus : other ≠ '-')
    (hdigit : other.isDigit = false) : c ≠ other := by
  rintro rfl
  rcases hc with rfl | hc
  · exact hminus rfl
  · rw [hc] at hdigit
    cases hdigit

/-- A written numeral is read as itself, whatever follows that does not continue it. -/
theorem numeral?_append {n : Numeral} {rest : List Char} (hn : n.IsWritten)
    (hrest : endsBefore rest = true) : numeral? (n.chars ++ rest) = some (n, rest) := by
  have hunsigned := unsignedNumeral?_append hn hrest
  unfold Numeral.chars
  simp only [List.append_assoc]
  cases hnegative : n.negative with
  | true =>
      rw [hnegative] at hunsigned
      exact hunsigned
  | false =>
      rw [hnegative] at hunsigned
      obtain ⟨hne, hdigits⟩ := hn.whole
      unfold numeral?
      split
      next hminus =>
        -- The first digit is no minus sign.
        cases hwhole : n.whole with
        | nil => exact absurd hwhole hne
        | cons digit digits =>
            rw [hwhole] at hminus hdigits
            obtain ⟨rfl, -⟩ := List.cons.inj hminus
            exact absurd (hdigits _ List.mem_cons_self) (by decide)
      next => exact hunsigned

end Doc

end ListQuery.Json
