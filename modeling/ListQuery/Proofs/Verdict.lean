import ListQuery.Proofs.Derivation

/-!
# What filters say of a row

A filter on a field says of a row that its condition is true, false or unknown
(`Sql.Database.verdict?`).  The condition is read the way a database reads it, so that what the
filter says is computed from the tests it is written with: one lemma for each form of a
condition, and one for negation.  Every filter that has a condition says something
(`isSome_verdict?`).
-/

namespace ListQuery

open Sql Sql.Condition

namespace Sql.Truth

/-- Any of several things. -/
def any (truths : List Truth) : Truth :=
  truths.foldr Truth.or .false

/-- All of several things. -/
def all (truths : List Truth) : Truth :=
  truths.foldr Truth.and .true

end Sql.Truth

/-- The value of a field on a row. -/
def MappedField.valueOn {V : Type} (field : MappedField) (record : Record V) : Option V :=
  record field.table field.column

namespace Sql.Database

variable {V : Type} [LinearOrder V] (database : Database V) (record : Record V)

/-- What a fragment says of a row, if it is a condition. -/
def truthOf? (fragment : Fragment) : Option Truth :=
  (Condition.read? fragment).map (database.truth record)

/-- What a filter on a field says of a row, if it has a condition. -/
def verdict? (field : MappedField) (filter : Filter) : Option Truth :=
  (field.predicate? filter).toOption.join.bind (database.truthOf? record)

/-- What a bound value stands for where it is compared with a field. -/
def operand (field : MappedField) (value : Scalar) : Option V :=
  database.bound value field.type.parameterCast

/-- A row satisfies what is true of it. -/
theorem satisfies_iff_truthOf? {fragment : Fragment} :
    database.satisfies record fragment = true ↔
      database.truthOf? record fragment = some .true := by
  unfold satisfies truthOf?
  cases Condition.read? fragment <;> simp

/-! ## Forms of conditions -/

section

variable {field : MappedField} {fragment : Fragment} {condition : Condition}

theorem truthOf?_of_readsAs (hplain : fragment.IsPlain)
    (hreads : ReadsAs .factor fragment condition) :
    database.truthOf? record fragment = some (database.truth record condition) := by
  rw [truthOf?, read?_of_readsAs hplain hreads.alone, Option.map_some]

variable (field)

theorem truthOf?_isNull :
    database.truthOf? record field.isNull = some (.ofBool (field.valueOn record).isNone) :=
  truthOf?_of_readsAs database record (MappedField.readable_form .isNull).plain
    (readsAs_isNull (termReads_plainColumn field.table field.column))

theorem truthOf?_isNotNull :
    database.truthOf? record field.isNotNull = some (.ofBool (field.valueOn record).isSome) := by
  rw [truthOf?_of_readsAs database record (MappedField.readable_form .isNotNull).plain
    (readsAs_isNotNull (termReads_plainColumn field.table field.column))]
  show some (Truth.ofBool (field.valueOn record).isNone).not = _
  rw [Truth.not_ofBool, Option.not_isNone]

theorem truthOf?_compare (sign : Comparison) (value : Scalar) :
    database.truthOf? record (field.compare sign value) =
      some (sign.truth (field.valueOn record) (database.operand field value)) :=
  truthOf?_of_readsAs database record (MappedField.readable_form (.compare sign value)).plain
    (readsAs_compare sign (termReads_plainColumn field.table field.column)
      (termReads_parameter value field.type.parameterCast))

theorem truthOf?_between (lower upper : Scalar) :
    database.truthOf? record (field.between lower upper) =
      some ((Comparison.ge.truth (field.valueOn record) (database.operand field lower)).and
        (Comparison.le.truth (field.valueOn record) (database.operand field upper))) :=
  truthOf?_of_readsAs database record (MappedField.readable_form (.between lower upper)).plain
    (readsAs_between (termReads_plainColumn field.table field.column)
      (termReads_parameter lower field.type.parameterCast)
      (termReads_parameter upper field.type.parameterCast))

/-- The comparison with the members of a list that is not empty is that with any of them. -/
theorem truthOf?_compareEach_any (sign : Comparison) (value : Scalar) (values : List Scalar) :
    database.truthOf? record (field.compareEach sign .any (value :: values)) =
      some (Truth.any ((value :: values).map fun member =>
        sign.truth (field.valueOn record) (database.operand field member))) := by
  rw [truthOf?_of_readsAs database record
    (MappedField.readable_form (.compareEach sign (.inl rfl) value values)).plain
    (readsAs_compareEach sign (termReads_plainColumn field.table field.column) value values
      field.type.parameterCast (.inl ⟨rfl, rfl⟩)), truth, List.map_map]
  rfl

/-- It is the comparison with all of them where this is asked for. -/
theorem truthOf?_compareEach_all (sign : Comparison) (value : Scalar) (values : List Scalar) :
    database.truthOf? record (field.compareEach sign .all (value :: values)) =
      some (Truth.all ((value :: values).map fun member =>
        sign.truth (field.valueOn record) (database.operand field member))) := by
  rw [truthOf?_of_readsAs database record
    (MappedField.readable_form (.compareEach sign (.inr rfl) value values)).plain
    (readsAs_compareEach sign (termReads_plainColumn field.table field.column) value values
      field.type.parameterCast (.inr ⟨rfl, rfl⟩)), truth, List.map_map]
  rfl

end

/-! ## Filters -/

section

variable {field : MappedField} {fragment : Fragment}

/-- The negation of a test in parentheses says the opposite. -/
theorem truthOf?_not (hreadable : Readable .factor fragment) :
    database.truthOf? record (Fragment.word .not ++ fragment.parenthesized) =
      (database.truthOf? record fragment).map Truth.not := by
  obtain ⟨condition, hreads⟩ := hreadable.reads
  have hnegated := hreadable.alone.parenthesized.negated
  rw [truthOf?_of_readsAs database record hreadable.plain hreads,
    truthOf?_of_readsAs database record hnegated.plain hreads.alone.parenthesized.not]
  rfl

variable (field) in
/-- What a filter says is said by its test, and the opposite if it is negated. -/
theorem verdict?_eq (filter : Filter) :
    database.verdict? record field filter =
      ((field.condition? filter).toOption.join.bind (database.truthOf? record)).map
        (if filter.negate then Truth.not else id) := by
  unfold verdict? MappedField.predicate?
  cases hcondition : field.condition? filter with
  | error fault => rfl
  | ok found =>
      cases found with
      | none => rfl
      | some inner =>
          have hreadable := MappedField.readable_form (MappedField.condition_form hcondition)
          cases filter.negate with
          | false => simp [bind, pure, Except.bind, Except.pure, Except.toOption]
          | true =>
              simpa [bind, pure, Except.bind, Except.pure, Except.toOption] using
                truthOf?_not database record hreadable

/-- Every filter that has a condition says something, and no other filter does. -/
theorem isSome_verdict? {filter : Filter} :
    (database.verdict? record field filter).isSome ↔
      ∃ condition, field.predicate? filter = .ok (some condition) := by
  unfold verdict?
  cases hpredicate : field.predicate? filter with
  | error fault => simp [Except.toOption]
  | ok found =>
      cases found with
      | none => simp [Except.toOption]
      | some condition =>
          obtain ⟨inner, hform, hcondition⟩ := MappedField.predicate_cases hpredicate
          have hreadable : Readable .factor condition := by
            have hinner := MappedField.readable_form hform
            rcases hcondition with rfl | rfl
            · exact hinner
            · exact hinner.alone.parenthesized.negated
          simpa [Except.toOption, truthOf?] using hreadable.alone.isSome_read?

end

end Sql.Database

end ListQuery
