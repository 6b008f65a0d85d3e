import ListQuery.Json.Numeral
import ListQuery.Text.Decimal

/-!
# Digits of natural numbers

The decimal of a natural number has at least one digit, no leading zero unless it is the
number zero, and the value of the number.
-/

namespace ListQuery

namespace Text

/-- A character of a class, such as a digit, is none of those outside of it. -/
theorem ne_of_class {p : Char → Bool} {c : Char} (hc : p c = true) (other : Char)
    (hother : p other = false) : c ≠ other := by
  rintro rfl
  rw [hother] at hc
  cases hc

theorem natDigits_ne_nil (n : Nat) : natDigits n ≠ [] :=
  Nat.toDigits_ne_nil

theorem isDigit_natDigits (n : Nat) : ∀ c ∈ natDigits n, c.isDigit = true :=
  fun _ hc => Nat.isDigit_of_mem_toDigits (by decide) (by decide) hc

theorem natDigits_of_lt {n : Nat} (hn : n < 10) : natDigits n = [Nat.digitChar n] :=
  Nat.toDigits_of_lt_base hn

theorem natDigits_of_le {n : Nat} (hn : 10 ≤ n) :
    natDigits n = natDigits (n / 10) ++ [Nat.digitChar (n % 10)] :=
  Nat.toDigits_of_base_le (by decide) hn

private theorem digitChar_ne_zero : ∀ n < 10, n ≠ 0 → Nat.digitChar n ≠ '0' := by
  decide

/-- A positive number has no leading zero. -/
theorem natDigits_ne_zero_cons {n : Nat} (hn : n ≠ 0) (rest : List Char) :
    natDigits n ≠ '0' :: rest := by
  induction n using Nat.strongRecOn generalizing rest with
  | ind n ih =>
      by_cases hsmall : n < 10
      · rw [natDigits_of_lt hsmall]
        intro heq
        exact digitChar_ne_zero n hsmall hn (List.cons.inj heq).1
      · -- The leading digit is the one of the number without its last digit.
        rw [natDigits_of_le (by omega)]
        intro heq
        rcases List.append_eq_cons_iff.mp heq with ⟨hnil, -⟩ | ⟨front, hfront, -⟩
        · exact natDigits_ne_nil _ hnil
        · exact ih (n / 10) (by omega) (by omega) front hfront

end Text

namespace Json.Numeral

/-- The digits of a number have its value. -/
theorem digitsValue_natDigits (n : Nat) : digitsValue (Text.natDigits n) = n := by
  have hvalue : Nat.ofDigitChars 10 (Nat.toDigits 10 n) 0 = n := Nat.ofDigitChars_ten_toDigits
  rw [Nat.ofDigitChars] at hvalue
  have hstep : (fun (value : Nat) (digit : Char) => value * 10 + digitValue digit) =
      fun value digit => 10 * value + (digit.toNat - '0'.toNat) := by
    funext value digit
    rw [digitValue, Nat.mul_comm]
  unfold digitsValue Text.natDigits
  rw [hstep]
  exact hvalue

end Json.Numeral

end ListQuery
