import ListQuery.Proofs.Coercion
import ListQuery.Proofs.Sql.After
import ListQuery.Proofs.Verdict

/-!
# The algebra of the filter operators

Some operators of filters say what others say together: a membership test is the disjunction
of the equalities with the members, a range test the conjunction of the comparisons with its
bounds, and the negation of a comparison is the opposite comparison.  All this holds in
three-valued logic, whatever the column holds, and the two sides have a condition or have none
together (`verdict?_algebra`).

The laws are laws of truth values once it is known what each operator says.  That depends on
the operand in two steps: the values that it gives in the form of the column, and what the
database makes of these.  The first step may fail, but in the same cases for all operators
that take the same operands (`toOption_scalarOperand`, `toOption_listOperand`); the second is
the same for all of them.
-/

namespace ListQuery

open Sql

/-! ## Truth values -/

namespace Sql.Truth

theorem not_or (first second : Truth) : (first.or second).not = first.not.and second.not := by
  cases first <;> cases second <;> rfl

/-- It is not any of several things if it is the opposite of all. -/
theorem not_any (truths : List Truth) : (any truths).not = all (truths.map Truth.not) := by
  induction truths with
  | nil => rfl
  | cons truth rest ih =>
      rw [any, List.foldr_cons, not_or]
      exact congrArg truth.not.and ih

end Sql.Truth

namespace Sql.Comparison

/-- The comparison that holds where this one does not. -/
def opposite : Comparison → Comparison
  | .eq => .ne
  | .ne => .eq
  | .lt => .ge
  | .ge => .lt
  | .gt => .le
  | .le => .gt

variable {V : Type} [LinearOrder V]

theorem not_holds (sign : Comparison) (left right : V) :
    (!sign.holds left right) = sign.opposite.holds left right := by
  cases sign <;> cases hcompare : compare left right <;> simp [holds, opposite, hcompare]

/-- Nothing is known of the opposite either if a value is missing. -/
theorem not_truth (sign : Comparison) (left right : Option V) :
    (sign.truth left right).not = sign.opposite.truth left right := by
  cases left with
  | none => rfl
  | some left =>
      cases right with
      | none => rfl
      | some right => rw [truth, truth, Truth.not_ofBool, not_holds]

end Sql.Comparison

/-! ## Results that may be missing -/

section

variable {ε α β γ : Type}

theorem toOption_eq_some_iff {result : Except ε α} {value : α} :
    result.toOption = some value ↔ result = .ok value := by
  cases result <;> simp [Except.toOption]

theorem toOption_mapM (compute : α → Except ε β) (items : List α) :
    (items.mapM compute).toOption = items.mapM fun item => (compute item).toOption := by
  induction items with
  | nil => rfl
  | cons item rest ih =>
      rw [List.mapM_cons, List.mapM_cons, ← ih]
      cases compute item with
      | error fault => rfl
      | ok first => cases rest.mapM compute <;> rfl

theorem mapM_map_option (compute : α → Option β) (change : β → γ) (items : List α) :
    (items.mapM fun item => (compute item).map change) =
      (items.mapM compute).map (List.map change) := by
  induction items with
  | nil => rfl
  | cons item rest ih =>
      rw [List.mapM_cons, List.mapM_cons, ih]
      cases compute item with
      | none => rfl
      | some first => cases rest.mapM compute <;> rfl

theorem mapM_congr {m : Type → Type} [Monad m] [LawfulMonad m] {compute other : α → m β}
    {items : List α}
    (hsame : ∀ item ∈ items, compute item = other item) :
    items.mapM compute = items.mapM other := by
  induction items with
  | nil => rfl
  | cons item rest ih =>
      obtain ⟨hfirst, hrest⟩ := List.forall_mem_cons.mp hsame
      rw [List.mapM_cons, List.mapM_cons, hfirst, ih hrest]

end

/-! ## Operands -/

namespace Filter

variable (filter : Filter) (operator : FilterOperator) (operand : Option Operand)
variable (type : ColumnType)

/-- A filter with another operator and operand, as it stands and not negated. -/
def asking : Filter :=
  { filter with operator := operator, value := operand, negate := false }

/-- The negation of a filter that is not negated. -/
def negated : Filter :=
  { filter with negate := true }

/-- What a comparison compares with depends on its operand alone. -/
theorem toOption_scalarOperand :
    ((filter.asking operator operand).scalarOperand type).toOption =
      match operand with
      | none => some .null
      | some (.scalar value) => (value.coerce type).toOption
      | some (.list _) | some (.record _) => none := by
  rcases operand with _ | (value | values | entries) <;> rfl

theorem toOption_nonNullOperand :
    ((filter.asking operator operand).nonNullOperand type).toOption =
      ((filter.asking operator operand).scalarOperand type).toOption.filter (!·.isNull) := by
  unfold nonNullOperand
  cases (filter.asking operator operand).scalarOperand type with
  | error fault => rfl
  | ok value => cases value <;> rfl

theorem toOption_memberOperand (value : Scalar) :
    ((filter.asking operator operand).memberOperand type value).toOption =
      if value.isNull then none else (value.coerce type).toOption := by
  unfold memberOperand
  split <;> rfl

/-- So do the members that a membership test looks for. -/
theorem toOption_listOperand :
    ((filter.asking operator operand).listOperand type).toOption =
      match operand with
      | some (.list (value :: rest)) =>
        (value :: rest).mapM fun member =>
          if member.isNull then none else (member.coerce type).toOption
      | _ => none := by
  rcases operand with _ | (value | (_ | ⟨value, rest⟩) | entries) <;> try rfl
  exact (toOption_mapM _ _).trans
    (mapM_congr fun member _ => toOption_memberOperand filter operator _ type member)

variable {filter operator operand type} {lower upper : Scalar}

/-- The bounds of a range may be given as a list or by their names. -/
theorem toOption_boundsOperand
    (hgiven : (filter.asking operator operand).givenBounds = .ok (lower, upper))
    (hlower : lower.isNull = false) (hupper : upper.isNull = false) :
    ((filter.asking operator operand).boundsOperand type).toOption =
      (lower.coerce type).toOption.bind fun first =>
        (upper.coerce type).toOption.map fun second => (first, second) := by
  unfold boundsOperand
  rw [hgiven]
  cases hfirst : lower.coerce type with
  | error fault => simp [hlower, hupper, hfirst, bind, Except.bind, Except.toOption]
  | ok first =>
      cases hsecond : upper.coerce type <;>
        simp [hlower, hupper, hfirst, hsecond, bind, pure, Except.bind, Except.pure,
          Except.toOption]

end Filter

/-! ## What the operators say -/

namespace Sql.Database

variable {V : Type} [LinearOrder V] (database : Database V) (record : Record V)
variable (field : MappedField) (filter : Filter)

theorem verdict?_asking (operator : FilterOperator) (operand : Option Operand) :
    database.verdict? record field (filter.asking operator operand) =
      (field.condition? (filter.asking operator operand)).toOption.join.bind
        (database.truthOf? record) := by
  rw [verdict?_eq]
  exact Option.map_id_apply

theorem verdict?_negated (operator : FilterOperator) (operand : Option Operand) :
    database.verdict? record field (filter.asking operator operand).negated =
      (database.verdict? record field (filter.asking operator operand)).map Truth.not := by
  rw [verdict?_asking, verdict?_eq]
  rfl

/-! ### Comparisons -/

/-- An equality with null asks whether the field has no value. -/
theorem verdict?_equals (operand : Option Operand) :
    database.verdict? record field (filter.asking .equals operand) =
      ((filter.asking .equals operand).scalarOperand field.type).toOption.map fun value =>
        if value.isNull then .ofBool (field.valueOn record).isNone
        else Comparison.eq.truth (field.valueOn record) (database.operand field value) := by
  rw [verdict?_asking, MappedField.condition?]
  simp only [Filter.asking]
  cases Filter.scalarOperand field.type _ with
  | error fault => rfl
  | ok value =>
      cases value with
      | null => exact truthOf?_isNull database record field
      | bool | int | float | text => exact truthOf?_compare database record field .eq _

theorem verdict?_notEquals (operand : Option Operand) :
    database.verdict? record field (filter.asking .notEquals operand) =
      ((filter.asking .notEquals operand).scalarOperand field.type).toOption.map fun value =>
        if value.isNull then .ofBool (field.valueOn record).isSome
        else Comparison.ne.truth (field.valueOn record) (database.operand field value) := by
  rw [verdict?_asking, MappedField.condition?]
  simp only [Filter.asking]
  cases Filter.scalarOperand field.type _ with
  | error fault => rfl
  | ok value =>
      cases value with
      | null => exact truthOf?_isNotNull database record field
      | bool | int | float | text => exact truthOf?_compare database record field .ne _

/-- The other comparisons have no condition for null. -/
theorem verdict?_ordered {sign : Comparison} (hsign : sign ≠ .eq ∧ sign ≠ .ne)
    (operand : Option Operand) :
    database.verdict? record field (filter.asking sign.operator operand) =
      ((filter.asking sign.operator operand).nonNullOperand field.type).toOption.map fun value =>
        sign.truth (field.valueOn record) (database.operand field value) := by
  rw [verdict?_asking, MappedField.condition?]
  cases sign with
  | eq => exact absurd rfl hsign.1
  | ne => exact absurd rfl hsign.2
  | lt | le | gt | ge =>
      simp only [Filter.asking, Comparison.operator]
      cases Filter.nonNullOperand field.type _ with
      | error fault => rfl
      | ok value => exact truthOf?_compare database record field _ value

/-- What a comparison with a value says, unless the value is null. -/
theorem verdict?_comparison (sign : Comparison) {value : Scalar} (hvalue : value.isNull = false) :
    database.verdict? record field (filter.asking sign.operator (some (.scalar value))) =
      (value.coerce field.type).toOption.map fun result =>
        sign.truth (field.valueOn record) (database.operand field result) := by
  have hequality : sign.operator = .equals ∧ sign = .eq ∨ sign.operator = .notEquals ∧ sign = .ne ∨
      (sign ≠ .eq ∧ sign ≠ .ne) := by
    cases sign <;> simp [Comparison.operator]
  have hresult : ∀ result, (value.coerce field.type).toOption = some result →
      result.isNull = false := fun result hsome =>
    (Scalar.isNull_coerce (toOption_eq_some_iff.mp hsome)).trans hvalue
  rcases hequality with ⟨hoperator, rfl⟩ | ⟨hoperator, rfl⟩ | hsign
  · rw [hoperator, verdict?_equals, Filter.toOption_scalarOperand]
    exact Option.map_congr fun result hsome => if_neg (by simp [hresult result hsome])
  · rw [hoperator, verdict?_notEquals, Filter.toOption_scalarOperand]
    exact Option.map_congr fun result hsome => if_neg (by simp [hresult result hsome])
  · rw [verdict?_ordered database record field filter hsign, Filter.toOption_nonNullOperand,
      Filter.toOption_scalarOperand]
    dsimp only
    cases hsome : (value.coerce field.type).toOption with
    | none => rfl
    | some result => simp [hresult result hsome]

/-! ### Membership tests and ranges -/

theorem verdict?_within (operand : Option Operand) :
    database.verdict? record field (filter.asking .within operand) =
      ((filter.asking .within operand).listOperand field.type).toOption.map fun values =>
        Truth.any (values.map fun value =>
          Comparison.eq.truth (field.valueOn record) (database.operand field value)) := by
  rw [verdict?_asking, MappedField.condition?]
  simp only [Filter.asking]
  cases hvalues : Filter.listOperand field.type _ with
  | error fault => rfl
  | ok values =>
      obtain ⟨value, rest, rfl⟩ := MappedField.listOperand_cases hvalues
      exact truthOf?_compareEach_any database record field .eq value rest

theorem verdict?_notWithin (operand : Option Operand) :
    database.verdict? record field (filter.asking .notWithin operand) =
      ((filter.asking .notWithin operand).listOperand field.type).toOption.map fun values =>
        Truth.all (values.map fun value =>
          Comparison.ne.truth (field.valueOn record) (database.operand field value)) := by
  rw [verdict?_asking, MappedField.condition?]
  simp only [Filter.asking]
  cases hvalues : Filter.listOperand field.type _ with
  | error fault => rfl
  | ok values =>
      obtain ⟨value, rest, rfl⟩ := MappedField.listOperand_cases hvalues
      exact truthOf?_compareEach_all database record field .ne value rest

theorem verdict?_between (operand : Option Operand) :
    database.verdict? record field (filter.asking .between operand) =
      ((filter.asking .between operand).boundsOperand field.type).toOption.map fun bounds =>
        (Comparison.ge.truth (field.valueOn record) (database.operand field bounds.1)).and
          (Comparison.le.truth (field.valueOn record) (database.operand field bounds.2)) := by
  rw [verdict?_asking, MappedField.condition?]
  simp only [Filter.asking]
  cases Filter.boundsOperand field.type _ with
  | error fault => rfl
  | ok bounds => exact truthOf?_between database record field bounds.1 bounds.2

/-! ## Laws -/

section

variable {values : List Scalar}

/-- The members of a list without nulls, in the form of the column. -/
private theorem toOption_listOperand_of_list (operator : FilterOperator) (hsome : values ≠ [])
    (hnulls : ∀ value ∈ values, value.isNull = false) :
    ((filter.asking operator (some (.list values))).listOperand field.type).toOption =
      values.mapM fun value => (value.coerce field.type).toOption := by
  rw [Filter.toOption_listOperand]
  cases values with
  | nil => exact absurd rfl hsome
  | cons value rest => exact mapM_congr fun member hmember => by simp [hnulls member hmember]

/-- What the comparisons with the members of a list say one by one. -/
private theorem mapM_verdict?_comparison (sign : Comparison)
    (hnulls : ∀ value ∈ values, value.isNull = false) :
    (values.mapM fun value =>
        database.verdict? record field (filter.asking sign.operator (some (.scalar value)))) =
      (values.mapM fun value : Scalar => (value.coerce field.type).toOption).map
        (List.map fun result =>
          sign.truth (field.valueOn record) (database.operand field result)) := by
  rw [← mapM_map_option]
  exact mapM_congr fun value hvalue =>
    verdict?_comparison database record field filter sign (hnulls value hvalue)

theorem verdict?_within_list (hsome : values ≠ [])
    (hnulls : ∀ value ∈ values, value.isNull = false) :
    database.verdict? record field (filter.asking .within (some (.list values))) =
      (values.mapM fun value =>
        database.verdict? record field (filter.asking .equals (some (.scalar value)))).map
          Truth.any := by
  rw [verdict?_within, toOption_listOperand_of_list field filter _ hsome hnulls,
    show FilterOperator.equals = Comparison.eq.operator from rfl,
    mapM_verdict?_comparison database record field filter .eq hnulls, Option.map_map]
  rfl

theorem verdict?_notWithin_list (hsome : values ≠ [])
    (hnulls : ∀ value ∈ values, value.isNull = false) :
    database.verdict? record field (filter.asking .notWithin (some (.list values))) =
      (values.mapM fun value =>
        database.verdict? record field (filter.asking .notEquals (some (.scalar value)))).map
          Truth.all := by
  rw [verdict?_notWithin, toOption_listOperand_of_list field filter _ hsome hnulls,
    show FilterOperator.notEquals = Comparison.ne.operator from rfl,
    mapM_verdict?_comparison database record field filter .ne hnulls, Option.map_map]
  rfl

end

section

variable (operand : Option Operand)

theorem verdict?_within_negated :
    database.verdict? record field (filter.asking .within operand).negated =
      database.verdict? record field (filter.asking .notWithin operand) := by
  rw [verdict?_negated, verdict?_within, verdict?_notWithin, Filter.toOption_listOperand,
    Filter.toOption_listOperand, Option.map_map]
  congr 1
  funext values
  rw [Function.comp_apply, Truth.not_any, List.map_map]
  exact congrArg Truth.all (List.map_congr_left fun value _ => Comparison.not_truth .eq _ _)

theorem verdict?_equals_negated :
    database.verdict? record field (filter.asking .equals operand).negated =
      database.verdict? record field (filter.asking .notEquals operand) := by
  rw [verdict?_negated, verdict?_equals, verdict?_notEquals, Filter.toOption_scalarOperand,
    Filter.toOption_scalarOperand, Option.map_map]
  congr 1
  funext value
  rw [Function.comp_apply]
  split
  · rw [Truth.not_ofBool, Option.not_isNone]
  · exact Comparison.not_truth .eq _ _

/-- The negation of one of the other comparisons is the opposite one, for null as well: then
neither has a condition. -/
theorem verdict?_ordered_negated {sign : Comparison} (hsign : sign ≠ .eq ∧ sign ≠ .ne) :
    database.verdict? record field (filter.asking sign.operator operand).negated =
      database.verdict? record field (filter.asking sign.opposite.operator operand) := by
  have hopposite : sign.opposite ≠ .eq ∧ sign.opposite ≠ .ne := by
    revert hsign
    cases sign <;> decide
  rw [verdict?_negated, verdict?_ordered database record field filter hsign,
    verdict?_ordered database record field filter hopposite, Filter.toOption_nonNullOperand,
    Filter.toOption_nonNullOperand, Filter.toOption_scalarOperand, Filter.toOption_scalarOperand,
    Option.map_map]
  congr 1
  funext value
  exact Comparison.not_truth sign _ _

theorem verdict?_isNull_negated :
    database.verdict? record field (filter.asking .isNull operand).negated =
      database.verdict? record field (filter.asking .isNotNull operand) := by
  have hnull : database.verdict? record field (filter.asking .isNull operand) =
      some (.ofBool (field.valueOn record).isNone) := by
    rw [verdict?_asking]
    exact truthOf?_isNull database record field
  have hnotNull : database.verdict? record field (filter.asking .isNotNull operand) =
      some (.ofBool (field.valueOn record).isSome) := by
    rw [verdict?_asking]
    exact truthOf?_isNotNull database record field
  rw [verdict?_negated, hnull, hnotNull, Option.map_some, Truth.not_ofBool, Option.not_isNone]

end

end Sql.Database

/-- The operands that give the bounds of a range: a list of both, or a record with their
names. -/
inductive Operand.Ranges (lower upper : Scalar) : Operand → Prop
  | list : Ranges lower upper (.list [lower, upper])
  | record {entries : List (String × Scalar)} (hlower : entries.lookup "from" = some lower)
      (hupper : entries.lookup "to" = some upper) : Ranges lower upper (.record entries)

theorem Filter.givenBounds_of_ranges {filter : Filter} {operator : FilterOperator}
    {operand : Operand} {lower upper : Scalar} (hranges : operand.Ranges lower upper) :
    (filter.asking operator (some operand)).givenBounds = .ok (lower, upper) := by
  cases hranges with
  | list => rfl
  | record hlower hupper => simp [asking, givenBounds, hlower, hupper]

namespace Sql.Database

variable {V : Type} [LinearOrder V] (database : Database V) (record : Record V)
variable (field : MappedField) (filter : Filter)

theorem verdict?_between_ranges {lower upper : Scalar} (hlower : lower.isNull = false)
    (hupper : upper.isNull = false) {operand : Operand} (hranges : operand.Ranges lower upper) :
    database.verdict? record field (filter.asking .between (some operand)) =
      (database.verdict? record field
          (filter.asking .greaterOrEqual (some (.scalar lower)))).bind fun first =>
        (database.verdict? record field
          (filter.asking .lessOrEqual (some (.scalar upper)))).map fun second =>
            first.and second := by
  rw [verdict?_between,
    Filter.toOption_boundsOperand (Filter.givenBounds_of_ranges hranges) hlower hupper,
    show FilterOperator.greaterOrEqual = Comparison.ge.operator from rfl,
    show FilterOperator.lessOrEqual = Comparison.le.operator from rfl,
    verdict?_comparison database record field filter .ge hlower,
    verdict?_comparison database record field filter .le hupper]
  cases (lower.coerce field.type).toOption <;> cases (upper.coerce field.type).toOption <;> rfl

end Sql.Database

namespace Sql.Database

variable {V : Type} [LinearOrder V] (database : Database V) (record : Record V)
variable (field : MappedField)

/-- A filter that is not left to an amendment says something unless it is faulty. -/
theorem isSome_verdict?_eq_isOk {filter : Filter} (hoperator : filter.operator ≠ .custom) :
    (database.verdict? record field filter).isSome = (field.predicate? filter).isOk := by
  rw [Bool.eq_iff_iff, isSome_verdict?]
  constructor
  · rintro ⟨condition, hpredicate⟩
    rw [hpredicate]
    rfl
  · intro hok
    obtain ⟨found, hpredicate⟩ := exists_ok_of_isOk hok
    obtain ⟨condition, hcondition, hfound⟩ := bind_eq_ok_iff.mp hpredicate
    cases condition with
    | none => exact absurd (MappedField.condition?_eq_none_iff.mp hcondition) hoperator
    | some inner =>
        cases hfound
        exact ⟨_, hpredicate⟩

/-- A membership test says what the equalities with the members say together, a range test what
the comparisons with its bounds do, and a negated test what the opposite test does.  Where one
side has no condition because of a faulty operand the other has none either. -/
theorem verdict?_algebra (filter : Filter) {lower upper : Scalar} {values : List Scalar}
    (hlower : lower ≠ .null) (hupper : upper ≠ .null) (hsome : values ≠ [])
    (hnulls : .null ∉ values) :
    let asked := fun operator operand =>
      database.verdict? record field (filter.asking operator operand)
    let denied := fun operator operand =>
      database.verdict? record field (filter.asking operator operand).negated
    (∀ other : Filter, other.operator ≠ .custom →
      (database.verdict? record field other).isSome = (field.predicate? other).isOk) ∧
    asked .within (some (.list values)) =
      (values.mapM fun value => asked .equals (some (.scalar value))).map Truth.any ∧
    asked .notWithin (some (.list values)) =
      (values.mapM fun value => asked .notEquals (some (.scalar value))).map Truth.all ∧
    (∀ operand, denied .within operand = asked .notWithin operand) ∧
    (∀ operand, denied .equals operand = asked .notEquals operand) ∧
    (∀ operand, denied .less operand = asked .greaterOrEqual operand) ∧
    (∀ operand, denied .lessOrEqual operand = asked .greater operand) ∧
    (∀ operand, denied .isNull operand = asked .isNotNull operand) ∧
    ∀ operand : Operand, operand.Ranges lower upper →
      asked .between (some operand) =
        (asked .greaterOrEqual (some (.scalar lower))).bind fun first =>
          (asked .lessOrEqual (some (.scalar upper))).map fun second => first.and second := by
  intro asked denied
  have hmembers : ∀ value ∈ values, value.isNull = false := by
    intro value hvalue
    cases hnull : value.isNull with
    | false => rfl
    | true => exact absurd (Scalar.isNull_iff.mp hnull ▸ hvalue) hnulls
  have hbound : ∀ value : Scalar, value ≠ .null → value.isNull = false := by
    intro value hvalue
    rwa [Bool.eq_false_iff, Ne, Scalar.isNull_iff]
  exact ⟨fun other => isSome_verdict?_eq_isOk database record field,
    verdict?_within_list database record field filter hsome hmembers,
    verdict?_notWithin_list database record field filter hsome hmembers,
    verdict?_within_negated database record field filter,
    verdict?_equals_negated database record field filter,
    fun operand => verdict?_ordered_negated database record field filter operand
      (show Comparison.lt ≠ .eq ∧ Comparison.lt ≠ .ne by decide),
    fun operand => verdict?_ordered_negated database record field filter operand
      (show Comparison.le ≠ .eq ∧ Comparison.le ≠ .ne by decide),
    verdict?_isNull_negated database record field filter,
    fun operand => verdict?_between_ranges database record field filter (hbound lower hlower)
      (hbound upper hupper)⟩

/-- The price of the sample entity. -/
def price : MappedField :=
  FieldDefinition.mapped ⟨"price", "Price", .number, false, none⟩

/-- Of an item for five, a range test with bounds that are given as texts by their names says
what the comparisons say. -/
theorem verdict?_algebra_price :
    let filter : Filter := ⟨"price", .custom, none, false, none⟩
    let asked := fun operator operand =>
      numbers.verdict? (fun _ _ => some 5) price (filter.asking operator operand)
    asked .between (some (.record [("from", .text " 3 "), ("to", .int 4)])) =
        (asked .greaterOrEqual (some (.scalar (.text " 3 ")))).bind (fun first =>
          (asked .lessOrEqual (some (.scalar (.int 4)))).map fun second => first.and second) ∧
      asked .between (some (.record [("from", .text " 3 "), ("to", .int 4)])) = some .false := by
  obtain ⟨-, -, -, -, -, -, -, -, hbetween⟩ := verdict?_algebra numbers (fun _ _ => some 5) price
    ⟨"price", .custom, none, false, none⟩ (show Scalar.text " 3 " ≠ .null by decide)
    (show Scalar.int 4 ≠ .null by decide) (show [Scalar.int 3] ≠ [] by decide) (by decide)
  exact ⟨hbetween _ (.record rfl rfl), by decide +kernel⟩

end Sql.Database

end ListQuery
