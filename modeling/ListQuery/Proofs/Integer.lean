import ListQuery.Proofs.Binary64.Nearest
import ListQuery.Proofs.Binding

/-!
# Integers that are written as texts

A caller may write an integer for a column of numbers as a text: digits after an optional sign,
between blanks (`Text.Writes`).  An integer that fits in a word is taken as it is.  Any other
becomes the nearest double, which is another number unless the integer happens to be one of the
doubles, and is rejected where the doubles end (`Scalar.ReadsInteger`).

A filter brings each value it compares its field with to the column's form on its own
(`MappedField.values_of_compares`), so this is what its condition binds for every integer
that is written in a comparison, a list or a range.
-/

namespace ListQuery

open Json.Numeral (IsDigits digitsValue)
open Sql

/-! ## Texts that write an integer -/

namespace Text

/-- The texts that write an integer: digits, with a sign before them or without one. -/
inductive Writes : List Char → Int → Prop
  | unsigned {digits : List Char} (hdigits : IsDigits digits) :
      Writes digits (digitsValue digits)
  | plus {digits : List Char} (hdigits : IsDigits digits) :
      Writes ('+' :: digits) (digitsValue digits)
  | minus {digits : List Char} (hdigits : IsDigits digits) :
      Writes ('-' :: digits) (-digitsValue digits)

variable {chars digits : List Char} {n : Int}

theorem isDigits_iff : isDigits digits = true ↔ IsDigits digits := by
  cases digits <;> simp [isDigits, IsDigits]

theorem splitSign_of_isDigits (hdigits : IsDigits digits) : splitSign digits = (false, digits) := by
  unfold splitSign
  split
  · cases hdigits.2 '-' List.mem_cons_self
  · cases hdigits.2 '+' List.mem_cons_self
  · rfl

/-- A text that writes an integer is a sign and the digits of its magnitude. -/
theorem Writes.splitSign (hwrites : Writes chars n) : ∃ negative digits,
    Text.splitSign chars = (negative, digits) ∧ IsDigits digits ∧
      n = Binary64.signed negative (digitsValue digits) := by
  cases hwrites with
  | unsigned hdigits => exact ⟨false, chars, splitSign_of_isDigits hdigits, hdigits, rfl⟩
  | plus hdigits => exact ⟨false, _, rfl, hdigits, rfl⟩
  | minus hdigits => exact ⟨true, _, rfl, hdigits, rfl⟩

theorem int?_of_writes (hwrites : Writes chars n) : int? chars = some n := by
  obtain ⟨negative, digits, hsplit, hdigits, rfl⟩ := hwrites.splitSign
  rw [int?, hsplit]
  simp only [isDigits_iff.mpr hdigits, if_true, Binary64.signed]

/-- The integers that fit in a word. -/
def IsWord (n : Int) : Prop :=
  -0x8000000000000000 ≤ n ∧ n < 0x8000000000000000

instance : Decidable (IsWord n) :=
  inferInstanceAs (Decidable (_ ∧ _))

theorem int64?_of_writes (hwrites : Writes chars n) (hword : IsWord n) :
    int64? chars = some (Int64.ofInt n) := by
  rw [int64?, int?_of_writes hwrites]
  exact if_pos hword

theorem int64?_eq_none_of_writes (hwrites : Writes chars n) (hword : ¬IsWord n) :
    int64? chars = none := by
  rw [int64?, int?_of_writes hwrites]
  exact if_neg hword

theorem toInt_ofInt_of_isWord (hword : IsWord n) : (Int64.ofInt n).toInt = n :=
  Int64.toInt_ofInt_of_le hword.1 hword.2

/-- Without a fraction and an exponent the double of a text is the one of its digits. -/
theorem finite?_of_writes (hwrites : Writes chars n) : ∃ negative magnitude,
    n = Binary64.signed negative magnitude ∧
      finite? chars = if (Binary64.ofDecimal negative magnitude 0).isFinite then
        some (Binary64.ofDecimal negative magnitude 0) else none := by
  obtain ⟨negative, digits, hsplit, hdigits, rfl⟩ := hwrites.splitSign
  refine ⟨negative, digitsValue digits, rfl, ?_⟩
  have hspan : digits.span Char.isDigit = (digits, []) := by
    have happend : Json.Doc.digits (digits ++ []) = (digits, []) :=
      Json.Doc.digits_append hdigits.2 rfl
    rwa [List.append_nil] at happend
  rw [finite?, hsplit]
  simp only [hspan]
  simp [hdigits.1, exponent?]

end Text

/-! ## Integers in a column of numbers -/

namespace Scalar

/-- What a column of numbers makes of an integer that is written as a text. -/
inductive ReadsInteger (n : Int) : Except FilterFault Scalar → Prop
  | word {value : Int64} (hvalue : value.toInt = n) : ReadsInteger n (.ok (.int value))
  | double {x : Binary64} (hword : ¬Text.IsWord n) (hrange : n.natAbs < Binary64.overflow)
      (hnearest : x.IsNearest n 1) : ReadsInteger n (.ok (.float x))
  | outOfRange (hrange : Binary64.overflow ≤ n.natAbs) :
      ReadsInteger n (.error (.value "a number" "string"))

variable {text : String} {n : Int}

/-- Coercion takes an integer as it is only if it fits in a word. -/
theorem readsInteger_coerce (hwrites : Text.Writes (Text.trimChars text.toList) n) :
    ReadsInteger n (coerce .number (.text text)) := by
  unfold coerce ofNumberText?
  dsimp only
  by_cases hword : Text.IsWord n
  · rw [Text.int64?_of_writes hwrites hword]
    exact .word (Text.toInt_ofInt_of_isWord hword)
  · rw [Text.int64?_eq_none_of_writes hwrites hword]
    obtain ⟨negative, magnitude, rfl, hfinite⟩ := Text.finite?_of_writes hwrites
    have hzero : magnitude ≠ 0 := by
      rintro rfl
      cases negative <;> exact hword (by decide)
    rw [hfinite]
    rcases Nat.lt_or_ge magnitude Binary64.overflow with hrange | hrange
    · have hnearest := Binary64.isNearest_ofDecimal_whole negative hzero hrange
      rw [if_pos hnearest.isFinite]
      exact .double hword ((Binary64.natAbs_signed _ _).trans_lt hrange) hnearest
    · rw [if_neg (by rw [Binary64.isFinite_ofDecimal_whole_of_le hrange]; exact Bool.false_ne_true)]
      exact .outOfRange (hrange.trans_eq (Binary64.natAbs_signed _ _).symm)

/-- Whether a value is a number, and which integer it is. -/
def IsExactly : Scalar → Int → Prop
  | .int value, n => value.toInt = n
  | .float x, n => x.isFinite = true ∧ x.signedUnits = n * Binary64.unitsPerOne
  | .null, _ | .bool _, _ | .text _, _ => False

/-- An integer is taken exactly if it fits in a word or is one of the doubles. -/
theorem ReadsInteger.isExactly_iff {result : Scalar} (hreads : ReadsInteger n (.ok result)) :
    result.IsExactly n ↔ Text.IsWord n ∨
      ∃ y : Binary64, y.isFinite = true ∧ y.signedUnits = n * Binary64.unitsPerOne := by
  cases hreads with
  | @word value hvalue =>
      refine iff_of_true hvalue (.inl ?_)
      rw [← hvalue]
      exact ⟨value.le_toInt, value.toInt_lt⟩
  | @double x hword _ hnearest =>
      rw [or_iff_right hword]
      refine ⟨fun hexact => ⟨x, hexact⟩, fun ⟨y, hfinite, hy⟩ => ⟨hnearest.isFinite, ?_⟩⟩
      -- Nothing is nearer to an integer than the integer itself.
      have hdistance := hnearest.distance_le y hfinite
      unfold Binary64.distance at hdistance
      rw [hy] at hdistance
      omega

end Scalar

/-! ## Integers in a filter -/

/-- The values that a filter compares its field with: the one of a comparison, the members of a
list or the two bounds of a range.  With null there is no comparison, only a test for null. -/
inductive Filter.Compares (filter : Filter) : List Scalar → Prop
  | single {value : Scalar} (hnull : value.isNull = false) (sign : Comparison)
      (hoperator : filter.operator = sign.operator)
      (hvalue : filter.value = some (.scalar value)) : Compares filter [value]
  | members {first : Scalar} {rest : List Scalar}
      (hoperator : filter.operator = .within ∨ filter.operator = .notWithin)
      (hvalue : filter.value = some (.list (first :: rest))) : Compares filter (first :: rest)
  | bounds {lower upper : Scalar} (hoperator : filter.operator = .between)
      (hbounds : filter.givenBounds = .ok (lower, upper)) : Compares filter [lower, upper]

namespace MappedField

variable {field : MappedField} {filter : Filter} {values : List Scalar}

/-- A comparison binds what its value is brought to. -/
theorem values_of_single {value : Scalar} (hnull : value.isNull = false) (sign : Comparison)
    (hoperator : filter.operator = sign.operator) (hvalue : filter.value = some (.scalar value)) :
    (field.condition? filter).map (Option.map Fragment.values) =
      (value.coerce field.type).map fun result => some [result] := by
  have hoperand : filter.scalarOperand field.type = value.coerce field.type := by
    rw [Filter.scalarOperand, hvalue]
  unfold condition?
  rw [hoperator]
  cases hresult : value.coerce field.type with
  | error fault =>
      cases sign <;>
        simp [Comparison.operator, Filter.nonNullOperand, hoperand, hresult, bind, Except.bind,
          Except.map]
  | ok result =>
      -- What a value that is not null is brought to is not null either.
      have hsome : result.isNull = false := by rw [Scalar.isNull_coerce hresult, hnull]
      cases result with
      | null => cases hsome
      | bool | int | float | text =>
          cases sign <;>
            simp [Comparison.operator, Filter.nonNullOperand, hoperand, hresult, bind, pure,
              Except.bind, Except.pure, Except.map]

/-- A filter brings each value that it compares with to the form of the column and binds what
comes out, or it fails as the first value does that cannot be brought there. -/
theorem values_of_compares (field : MappedField) (hcompares : filter.Compares values)
    (hnull : ∀ value ∈ values, value.isNull = false) :
    (field.condition? filter).map (Option.map Fragment.values) =
      (values.mapM (Scalar.coerce field.type)).map some := by
  cases hcompares with
  | single hvalueNull sign hoperator hvalue =>
      rw [values_of_single hvalueNull sign hoperator hvalue, List.mapM_cons, List.mapM_nil]
      cases Scalar.coerce field.type _ <;> rfl
  | @members first rest hoperator hvalue =>
      have hmembers : filter.listOperand field.type =
          (first :: rest).mapM (Scalar.coerce field.type) := by
        rw [Filter.listOperand, hvalue]
        refine mapM_congr fun member hmember => ?_
        rw [Filter.memberOperand, hnull member hmember]
        rfl
      unfold condition?
      rcases hoperator with hoperator | hoperator <;> rw [hoperator, ← hmembers] <;>
        cases filter.listOperand field.type <;>
          simp [bind, pure, Except.bind, Except.pure, Except.map]
  | @bounds lower upper hoperator hbounds =>
      have hlower : lower.isNull = false := hnull lower List.mem_cons_self
      have hupper : upper.isNull = false := hnull upper (by simp)
      unfold condition? Filter.boundsOperand
      rw [hoperator, hbounds, List.mapM_cons, List.mapM_cons, List.mapM_nil]
      cases hfirst : lower.coerce field.type with
      | error fault =>
          simp [hlower, hupper, hfirst, bind, Except.bind, Except.map]
      | ok first =>
          cases hsecond : upper.coerce field.type <;>
            simp [hlower, hupper, hfirst, hsecond, bind, pure, Except.bind, Except.pure, Except.map]

/-- A filter with a null in its list or among its bounds is rejected. -/
theorem exists_fault_of_null (field : MappedField) (hcompares : filter.Compares values)
    {value : Scalar} (hmem : value ∈ values) (hnull : value.isNull = true) :
    ∃ fault, field.condition? filter = .error fault := by
  unfold condition?
  cases hcompares with
  | single hsome sign hoperator hvalue =>
      rw [List.mem_singleton.mp hmem, hsome] at hnull
      cases hnull
  | @members first rest hoperator hvalue =>
      -- One member without a result leaves the list without one.
      have hfails : ¬∃ results, filter.listOperand field.type = .ok results := by
        rw [Filter.listOperand, hvalue]
        simp only [exists_mapM_iff]
        intro hall
        obtain ⟨result, hresult⟩ := hall value hmem
        simp [Filter.memberOperand, hnull, Filter.operandFault] at hresult
      cases hoperand : filter.listOperand field.type with
      | ok results => exact absurd ⟨results, hoperand⟩ hfails
      | error fault =>
          rcases hoperator with hoperator | hoperator <;> rw [hoperator] <;> exact ⟨fault, rfl⟩
  | @bounds lower upper hoperator hbounds =>
      have heither : (lower.isNull || upper.isNull) = true := by
        rcases List.mem_pair.mp hmem with rfl | rfl <;> simp [hnull]
      unfold Filter.boundsOperand
      rw [hoperator, hbounds]
      exact ⟨.operand filter.operator .nonNullBounds, by
        simp [heither, Filter.operandFault, bind, Except.bind]⟩

/-- Where no value is null, the condition binds what the values are brought to, or there is none
because one of them cannot be brought there. -/
theorem bound_or_fault_of_compares (field : MappedField) (hcompares : filter.Compares values)
    (hnull : ∀ value ∈ values, value.isNull = false) :
    (∃ condition, field.condition? filter = .ok (some condition) ∧
      List.Forall₂ (fun given result => Scalar.coerce field.type given = .ok result) values
        condition.values) ∨
    ∃ fault, field.condition? filter = .error fault ∧
      ∃ given ∈ values, Scalar.coerce field.type given = .error fault := by
  have hvalues := values_of_compares field hcompares hnull
  cases hresults : values.mapM (Scalar.coerce field.type) with
  | error fault =>
      rw [hresults] at hvalues
      obtain ⟨given, hmem, hgiven⟩ := exists_of_mapM_eq_error hresults
      exact .inr ⟨fault, map_eq_error_iff.mp hvalues, given, hmem, hgiven⟩
  | ok results =>
      rw [hresults] at hvalues
      obtain ⟨found, hcondition, hbound⟩ := map_eq_ok_iff.mp hvalues
      obtain ⟨condition, rfl, rfl⟩ := Option.map_eq_some_iff.mp hbound
      exact .inl ⟨condition, hcondition, mapM_eq_ok_iff.mp hresults⟩

/-- The integers that are written for a column of numbers are taken as words or as nearest
doubles, and so are the ones in a comparison, a list or a range: its condition binds what its
values, none of them null, are brought to, and there is no condition if a null is in the list or
among the bounds or a value cannot be brought there. -/
theorem readsInteger_of_compares (hnumber : field.type = .number) :
    (∀ text n, Text.Writes (Text.trimChars text.toList) n →
      Scalar.ReadsInteger n (Scalar.coerce field.type (.text text)) ∧
        ∀ result, Scalar.coerce field.type (.text text) = .ok result →
          (result.IsExactly n ↔ Text.IsWord n ∨
            ∃ y : Binary64, y.isFinite = true ∧ y.signedUnits = n * Binary64.unitsPerOne)) ∧
    ∀ filter values, Filter.Compares filter values →
      (∃ condition, field.condition? filter = .ok (some condition) ∧
        (∀ value ∈ values, value.isNull = false) ∧
        List.Forall₂ (fun given result => Scalar.coerce field.type given = .ok result) values
          condition.values) ∨
      ∃ fault, field.condition? filter = .error fault ∧
        ∃ given ∈ values, given.isNull = true ∨ Scalar.coerce field.type given = .error fault := by
  refine ⟨fun text n hwrites => ?_, fun filter values hcompares => ?_⟩
  · rw [hnumber]
    have hreads := Scalar.readsInteger_coerce hwrites
    exact ⟨hreads, fun result hresult => (hresult ▸ hreads).isExactly_iff⟩
  · by_cases hnull : ∃ value ∈ values, value.isNull = true
    · obtain ⟨value, hmem, hvalue⟩ := hnull
      obtain ⟨fault, hfault⟩ := exists_fault_of_null field hcompares hmem hvalue
      exact .inr ⟨fault, hfault, value, hmem, .inl hvalue⟩
    · have hsome : ∀ value ∈ values, value.isNull = false := fun value hmem =>
        Bool.eq_false_iff.mpr fun hvalue => hnull ⟨value, hmem, hvalue⟩
      rcases bound_or_fault_of_compares field hcompares hsome with
        ⟨condition, hcondition, hbound⟩ | ⟨fault, hfault, given, hmem, hgiven⟩
      · exact .inl ⟨condition, hcondition, hsome, hbound⟩
      · exact .inr ⟨fault, hfault, given, hmem, .inr hgiven⟩

/-- A range test on prices whose lower bound is the least integer above the words. -/
def aboveWords : Filter :=
  ⟨"price", .between, some (.list [.text " +9223372036854775808", .text "9223372036854775809 "]),
    false, none⟩

private theorem writes_upper :
    Text.Writes (Text.trimChars "9223372036854775809 ".toList) 9223372036854775809 := by
  rw [show Text.trimChars "9223372036854775809 ".toList = "9223372036854775809".toList by
    decide +kernel]
  exact .unsigned (Text.isDigits_iff.mp (by decide +kernel))

private theorem coerce_upper : Scalar.coerce Database.price.type (.text "9223372036854775809 ") =
    .ok (.float ⟨0x43E0000000000000⟩) := by
  decide +kernel

/-- Its bounds become the same double, which only the lower one is. -/
theorem readsInteger_of_compares_aboveWords :
    Scalar.ReadsInteger 9223372036854775809
        (Scalar.coerce Database.price.type (.text "9223372036854775809 ")) ∧
      ∃ condition, Database.price.condition? aboveWords = .ok (some condition) ∧
        condition.values = [.float ⟨0x43E0000000000000⟩, .float ⟨0x43E0000000000000⟩] := by
  have hnumber : Database.price.type = .number := rfl
  obtain ⟨hreads, hconditions⟩ := readsInteger_of_compares hnumber
  have hlower : Scalar.coerce Database.price.type (.text " +9223372036854775808") =
      .ok (.float ⟨0x43E0000000000000⟩) := by decide +kernel
  refine ⟨(hreads _ _ writes_upper).1, ?_⟩
  rcases hconditions aboveWords _ (.bounds rfl rfl) with
    ⟨condition, hcondition, -, hvalues⟩ | ⟨fault, -, given, hgiven, hfault⟩
  · refine ⟨condition, hcondition, ?_⟩
    rw [← mapM_eq_ok_iff, List.mapM_cons, List.mapM_cons, List.mapM_nil, hlower, coerce_upper]
      at hvalues
    exact (Except.ok.inj hvalues).symm
  · rcases List.mem_pair.mp hgiven with rfl | rfl
    · rw [hlower] at hfault
      exact absurd hfault (by simp [Scalar.isNull])
    · rw [coerce_upper] at hfault
      exact absurd hfault (by simp [Scalar.isNull])

/-- An integer may be taken as another number. -/
theorem not_isExactly_price : ¬∀ text n, Text.Writes (Text.trimChars text.toList) n →
    (∃ fault, Scalar.coerce Database.price.type (.text text) = .error fault) ∨
      ∃ result, Scalar.coerce Database.price.type (.text text) = .ok result ∧
        result.IsExactly n := by
  intro hall
  rcases hall _ _ writes_upper with ⟨fault, hfault⟩ | ⟨result, hresult, hexact⟩
  · rw [coerce_upper] at hfault
    cases hfault
  · rw [coerce_upper] at hresult
    cases hresult
    exact absurd hexact.2 (by decide +kernel)

end MappedField

end ListQuery
