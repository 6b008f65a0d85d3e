import ListQuery.Binary64.Text
import ListQuery.Proofs.Json.Numeral
import ListQuery.Proofs.Text.Decimal

/-!
# Doubles are written as numerals

The text of a finite double has the form of a JSON numeral.  For this the shortest
decimal of zero must not have trailing zeros, and it has none because the digit zero is
chosen for zero only: no other double has zero among the numbers that round to it
(`onGrid?_digits_ne_zero`).
-/

namespace ListQuery.Binary64

open Json (Numeral)
open Json.Numeral

/-! ## The digits of the shortest decimal -/

/-- The interval of a positive double does not reach down to zero. -/
theorem lower_interval_pos {x : Binary64} (hx : x.units ≠ 0) : 0 < x.interval.lower := by
  have hsignificand : x.significand ≠ 0 := by
    intro hzero
    simp [units, hzero] at hx
  have hpower : 0 < Nat.pow 2 x.shift := Nat.pow_pos (by decide)
  have hunits : Nat.pow 2 x.shift ≤ x.units := Nat.le_mul_of_pos_left _ (by omega)
  unfold interval
  simp only
  split <;> omega

theorem contains_zero {i : Interval} (hlower : 0 < i.lower) {denominator : Nat}
    (hdenominator : 0 < denominator) : i.contains 0 denominator = false := by
  have hproduct : 0 < i.lower * denominator := Nat.mul_pos hlower hdenominator
  unfold Interval.contains
  split
  · simp only [Bool.and_eq_false_imp, decide_eq_true_eq]
    omega
  · simp

/-- A decimal that is found on a grid lies in the interval of the double. -/
theorem contains_of_onGrid? {tie : TieRule} {x : Binary64} {exponent : Int} {d : Decimal}
    (hd : x.onGrid? tie exponent = some d) :
    x.interval.contains (d.digits * (4 * unitsPerOne * Nat.pow 10 exponent.toNat))
      (Nat.pow 10 (-exponent).toNat) = true := by
  unfold onGrid? at hd
  simp only at hd
  generalize 4 * unitsPerOne * Nat.pow 10 exponent.toNat = unit at hd ⊢
  generalize Nat.pow 10 (-exponent).toNat = denominator at hd ⊢
  split at hd
  next hboth =>
    obtain ⟨hbelow, habove⟩ := Bool.and_eq_true_iff.mp hboth
    -- Whichever of the two grid points is nearer, it has been found to fit.
    split at hd
    · cases hd
      exact hbelow
    · split at hd
      · cases hd
        exact habove
      · cases tie with
        | even =>
            simp only at hd
            split at hd <;> cases hd
            · exact hbelow
            · exact habove
        | up =>
            cases hd
            exact habove
  next =>
    split at hd
    next hbelow =>
      cases hd
      exact hbelow
    next =>
      split at hd
      next habove =>
        cases hd
        exact habove
      next => cases hd

/-- Zero is not taken for any other number. -/
theorem onGrid?_digits_ne_zero {tie : TieRule} {x : Binary64} {exponent : Int} {d : Decimal}
    (hx : x.units ≠ 0) (hd : x.onGrid? tie exponent = some d) : d.digits ≠ 0 := by
  intro hzero
  have hcontains := contains_of_onGrid? hd
  have hdenominator : 0 < Nat.pow 10 (-exponent).toNat := Nat.pow_pos (by decide)
  rw [hzero, Nat.zero_mul, contains_zero (lower_interval_pos hx) hdenominator] at hcontains
  cases hcontains

/-- A decimal without the exponent that zero cannot have. -/
def Decimal.IsShort (d : Decimal) : Prop :=
  d.digits = 0 → d.exponent = 0

theorem Decimal.digits_trim_ne_zero {fuel : Nat} {d : Decimal} (hd : d.digits ≠ 0) :
    (d.trim fuel).digits ≠ 0 := by
  induction fuel generalizing d with
  | zero => exact hd
  | succ fuel ih =>
      rw [Decimal.trim]
      split
      · exact ih (by simp only; omega)
      · exact hd

theorem Decimal.trim_zero (fuel : Nat) : (⟨0, 0⟩ : Decimal).trim fuel = ⟨0, 0⟩ := by
  cases fuel <;> simp [Decimal.trim]

theorem isShort_shortest (tie : TieRule) (x : Binary64) : (x.shortest tie).IsShort := by
  unfold shortest
  split
  · exact fun _ => rfl
  next hx =>
    cases hfound : (List.range 17).findSome? fun (place : Nat) =>
        x.onGrid? tie (x.leadingExponent - place) with
    | none =>
        simp only [hfound, Option.getD_none, Decimal.trim_zero]
        exact fun _ => rfl
    | some d =>
        obtain ⟨place, -, hd⟩ := List.exists_of_findSome?_eq_some hfound
        simp only [hfound, Option.getD_some]
        exact fun hzero =>
          absurd hzero (Decimal.digits_trim_ne_zero (onGrid?_digits_ne_zero hx hd))

/-! ## Decimals as numerals -/

/-- Positional notation with a sign. -/
def Decimal.positionalNumeral (negative : Bool) (d : Decimal) : Numeral :=
  let digits := Text.natDigits d.digits
  if 0 ≤ d.exponent then
    ⟨negative, digits ++ List.replicate d.exponent.toNat '0', some ['0'], none⟩
  else
    let places := d.exponent.natAbs
    let padded := List.replicate (places + 1 - digits.length) '0' ++ digits
    ⟨negative, padded.take (padded.length - places), some (padded.drop (padded.length - places)),
      none⟩

/-- Scientific notation with a sign. -/
def Decimal.scientificNumeral (negative : Bool) (d : Decimal) (exponent : Int) : Numeral :=
  let digits := Text.natDigits d.digits
  ⟨negative, digits.take 1, if (digits.drop 1).isEmpty then none else some (digits.drop 1),
    some (exponent < 0, Text.natDigits exponent.natAbs)⟩

theorem Decimal.chars_positionalNumeral (negative : Bool) (d : Decimal) :
    (d.positionalNumeral negative).chars = signChars negative ++ d.positional ['.', '0'] := by
  unfold positionalNumeral positional
  simp only
  split <;> simp [Numeral.chars, fractionChars, exponentChars]

theorem Decimal.chars_scientificNumeral (negative : Bool) (d : Decimal) (exponent : Int) :
    (d.scientificNumeral negative exponent).chars =
      signChars negative ++ d.scientific exponent := by
  unfold scientificNumeral scientific
  have hsign : (if decide (exponent < 0) = true then '-' else '+') =
      if exponent < 0 then '-' else '+' := by
    by_cases hexponent : exponent < 0 <;> simp [hexponent]
  simp only [Numeral.chars, exponentChars, hsign]
  rcases hdigits : Text.natDigits d.digits with _ | ⟨digit, _ | ⟨next, rest⟩⟩ <;>
    simp [fractionChars]

private theorem isDigit_replicate_zero {count : Nat} :
    ∀ c ∈ List.replicate count '0', c.isDigit = true := by
  intro c hc
  rw [List.eq_of_mem_replicate hc]
  rfl

/-- Zeros that only follow the digits of a positive number do not give it a leading zero. -/
private theorem natDigits_append_ne_zero_cons {n : Nat} {zeros : List Char}
    (hzeros : n = 0 → zeros = []) (digit : Char) (rest : List Char) :
    Text.natDigits n ++ zeros ≠ '0' :: digit :: rest := by
  intro heq
  by_cases hn : n = 0
  · rw [hn, hzeros hn] at heq
    simp [Text.natDigits] at heq
  · rcases List.append_eq_cons_iff.mp heq with ⟨hnil, -⟩ | ⟨front, hfront, -⟩
    · exact Text.natDigits_ne_nil n hnil
    · exact Text.natDigits_ne_zero_cons hn front hfront

/-- What stands before the point is a single zero that was put there, or it has no leading
zero. -/
private theorem take_padded_ne_zero_cons {n places : Nat} {padded : List Char}
    (hplaces : 0 < places)
    (hpadded : List.replicate (places + 1 - (Text.natDigits n).length) '0' ++ Text.natDigits n =
      padded) (digit : Char) (rest : List Char) :
    padded.take (padded.length - places) ≠ '0' :: digit :: rest := by
  subst hpadded
  intro heq
  by_cases hlong : (Text.natDigits n).length ≤ places
  · have hcount := congrArg List.length heq
    simp only [List.length_take, List.length_append, List.length_replicate,
      List.length_cons] at hcount
    omega
  · have hpositive : n ≠ 0 := by
      rintro rfl
      simp [Text.natDigits] at hlong
      omega
    rw [show places + 1 - (Text.natDigits n).length = 0 by omega, List.replicate_zero,
      List.nil_append] at heq
    have hfront := List.take_append_drop ((Text.natDigits n).length - places) (Text.natDigits n)
    rw [heq] at hfront
    exact Text.natDigits_ne_zero_cons hpositive _ hfront.symm

theorem Decimal.isWritten_positionalNumeral {d : Decimal} (hd : d.IsShort) (negative : Bool) :
    (d.positionalNumeral negative).IsWritten := by
  have hdigits := Text.isDigit_natDigits d.digits
  have hne := Text.natDigits_ne_nil d.digits
  have hlength : 0 < (Text.natDigits d.digits).length := List.length_pos_iff.mpr hne
  unfold positionalNumeral
  simp only
  split
  next hexponent =>
    refine ⟨⟨by simp [hne], ?_⟩, ?_, ?_, by simp⟩
    · exact List.forall_mem_append.mpr ⟨hdigits, isDigit_replicate_zero⟩
    · exact natDigits_append_ne_zero_cons fun hzero => by simp [hd hzero]
    · rintro digits ⟨⟩
      exact ⟨by simp, by simp⟩
  next hexponent =>
    have hplaces : 0 < d.exponent.natAbs := by omega
    generalize d.exponent.natAbs = places at hplaces ⊢
    generalize hpadded : List.replicate (places + 1 - (Text.natDigits d.digits).length) '0' ++
      Text.natDigits d.digits = padded
    have hdigit : ∀ c ∈ padded, c.isDigit = true :=
      hpadded ▸ List.forall_mem_append.mpr ⟨isDigit_replicate_zero, hdigits⟩
    -- The padding leaves a digit before the point.
    have hbefore : places < padded.length := by
      rw [← hpadded, List.length_append, List.length_replicate]
      omega
    refine ⟨⟨?_, fun c hc => hdigit c (List.mem_of_mem_take hc)⟩,
      take_padded_ne_zero_cons hplaces hpadded, ?_, by simp⟩
    · rw [ne_eq, List.take_eq_nil_iff]
      have hsome : padded ≠ [] := List.ne_nil_of_length_pos (by omega)
      simp only [hsome, or_false]
      omega
    · rintro digits ⟨⟩
      refine ⟨?_, fun c hc => hdigit c (List.mem_of_mem_drop hc)⟩
      rw [ne_eq, List.drop_eq_nil_iff]
      omega

theorem Decimal.isWritten_scientificNumeral (negative : Bool) (d : Decimal) (exponent : Int) :
    (d.scientificNumeral negative exponent).IsWritten := by
  have hdigits := Text.isDigit_natDigits d.digits
  have hne := Text.natDigits_ne_nil d.digits
  refine ⟨⟨?_, fun c hc => hdigits c (List.mem_of_mem_take hc)⟩, ?_, ?_, ?_⟩
  · simp [scientificNumeral, hne]
  · intro digit rest heq
    have hcount := congrArg List.length heq
    simp only [scientificNumeral, List.length_take, List.length_cons] at hcount
    omega
  · intro digits hfraction
    simp only [scientificNumeral, Option.mem_def] at hfraction
    split at hfraction
    · cases hfraction
    next hrest =>
      cases hfraction
      exact ⟨by simpa using hrest, fun c hc => hdigits c (List.mem_of_mem_drop hc)⟩
  · rintro signed ⟨⟩
    exact ⟨Text.natDigits_ne_nil _, Text.isDigit_natDigits _⟩

/-! ## Doubles as numerals -/

/-- The numeral of a double. -/
def numeral (x : Binary64) : Numeral :=
  let d := x.shortest .even
  if -5 ≤ d.leading ∧ d.leading ≤ 15 then d.positionalNumeral x.isNegative
  else d.scientificNumeral x.isNegative d.leading

theorem toList_toNumeral (x : Binary64) : x.toNumeral.toList = x.numeral.chars := by
  unfold toNumeral numeral
  simp only [String.toList_ofList]
  split
  · rw [Decimal.chars_positionalNumeral]
    rfl
  · rw [Decimal.chars_scientificNumeral]
    rfl

theorem isWritten_numeral (x : Binary64) : x.numeral.IsWritten := by
  unfold numeral
  simp only
  split
  · exact Decimal.isWritten_positionalNumeral (isShort_shortest _ _) _
  · exact Decimal.isWritten_scientificNumeral _ _ _

end ListQuery.Binary64
