import ListQuery.Predicate

/-!
# Values in the form of their column

A value that is compared with a column is first brought to the form of the column's values
(`ColumnType.holds`): a number, a truth value or a text.  What comes out of this has that form
unless it is null (`holds_of_coerce`), what has the form stays as it is (`coerce_of_holds`),
and so bringing a value to the form twice is bringing it there once (`coerce_of_coerce`).
A double stays finite, also one that is read from a text.
-/

namespace ListQuery

/-- Whether a value has the form in which columns of a type are compared: an integer or a double
for numbers, a truth value for truth values, and a text for all others. -/
def ColumnType.holds : ColumnType → Scalar → Bool
  | .number, .int _ | .number, .float _ => true
  | .boolean, .bool _ => true
  | .string, .text _ | .datetime, .text _ | .date, .text _ | .enumeration, .text _
  | .reference, .text _ | .json, .text _ => true
  | _, _ => false

/-- The double that a text writes is finite. -/
theorem Text.isFinite_of_finite? {chars : List Char} {x : Binary64}
    (hread : finite? chars = some x) : x.isFinite = true := by
  unfold finite? at hread
  dsimp only at hread
  -- With a fraction or without, the double is only given if it is finite.
  split at hread
  all_goals
    split at hread
    · cases hread
    · split at hread
      · cases hread
      · split at hread
        next hfinite =>
          cases hread
          exact hfinite
        next => cases hread

namespace Scalar

variable {type : ColumnType} {value result : Scalar} {text : String}

theorem isNull_iff : value.isNull = true ↔ value = .null := by
  cases value <;> simp [isNull]

theorem isNull_of_holds (hholds : type.holds value = true) : value.isNull = false := by
  cases value with
  | null => cases type <;> cases hholds
  | bool | int | float | text => rfl

/-! ## Texts of numbers and truth values -/

theorem holds_ofNumberText? (hvalue : ofNumberText? text = some value) :
    ColumnType.number.holds value = true ∧ value.isNonFinite = false := by
  unfold ofNumberText? at hvalue
  dsimp only at hvalue
  split at hvalue
  · cases hvalue
    exact ⟨rfl, rfl⟩
  · obtain ⟨x, hx, rfl⟩ := Option.map_eq_some_iff.mp hvalue
    exact ⟨rfl, by simp [isNonFinite, Text.isFinite_of_finite? hx]⟩

theorem holds_ofBoolText? (hvalue : ofBoolText? text = some value) :
    ColumnType.boolean.holds value = true ∧ value.isNonFinite = false := by
  unfold ofBoolText? at hvalue
  split at hvalue <;> cases hvalue <;> exact ⟨rfl, rfl⟩

/-! ## Bringing values to the form of a column -/

theorem coerce_null : coerce type .null = .ok .null := by
  cases type <;> rfl

/-- What is no null comes out in the form of the column, and no double of it ceases to be
finite. -/
theorem holds_of_coerce (hvalue : value.isNull = false) (hresult : value.coerce type = .ok result) :
    type.holds result = true ∧ (value.isNonFinite = false → result.isNonFinite = false) := by
  -- Only a text can be brought to another type than text, and then it is read.
  cases value with
  | null => cases hvalue
  | bool | int | float =>
      cases type <;> cases hresult <;> first | exact ⟨rfl, id⟩ | exact ⟨rfl, fun _ => rfl⟩
  | text written =>
      cases type with
      | number =>
          simp only [coerce] at hresult
          split at hresult <;> cases hresult
          next hnumber => exact (holds_ofNumberText? hnumber).imp_right fun hfinite _ => hfinite
      | boolean =>
          simp only [coerce] at hresult
          split at hresult <;> cases hresult
          next htruth => exact (holds_ofBoolText? htruth).imp_right fun hfinite _ => hfinite
      | string | datetime | date | enumeration | reference | json =>
          cases hresult
          exact ⟨rfl, fun _ => rfl⟩

/-- What has the form of the column stays as it is. -/
theorem coerce_of_holds (hholds : type.holds value = true) : value.coerce type = .ok value := by
  cases type <;> cases value <;> first | rfl | cases hholds

/-- Bringing a value to the form of a column again changes nothing. -/
theorem coerce_of_coerce (hresult : value.coerce type = .ok result) :
    result.coerce type = .ok result := by
  cases hnull : value.isNull with
  | true =>
      obtain rfl := isNull_iff.mp hnull
      rw [coerce_null] at hresult
      cases hresult
      exact coerce_null
  | false => exact coerce_of_holds (holds_of_coerce hnull hresult).1

/-- What a column holds of a value is null if the value is. -/
theorem isNull_coerce (hresult : value.coerce type = .ok result) :
    result.isNull = value.isNull := by
  cases hnull : value.isNull with
  | true =>
      obtain rfl := isNull_iff.mp hnull
      rw [coerce_null] at hresult
      cases hresult
      rfl
  | false => exact isNull_of_holds (holds_of_coerce hnull hresult).1

end Scalar

end ListQuery
