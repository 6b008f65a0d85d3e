import ListQuery.Proofs.Coercion
import ListQuery.Proofs.Matching
import ListQuery.Proofs.Security
import ListQuery.Proofs.Sql.Placeholders
import ListQuery.Proofs.Walk
import ListQuery.Proofs.Wire.Context

/-!
# The values that a statement binds

Null can come in as an operand that is missing or null, as a member of a list, as a bound of a
range and as a value of a cursor.  None of these is bound: a comparison with null becomes a
test for it, and other operands with a null are rejected.  What a comparison does bind has been
brought to the form of its column, in which a second conversion would change nothing.

The parts of a statement bind their values one after another, so it is enough to look at what
each of them binds: a filter (`values_of_predicate?`), the search, whose values are all texts,
and the condition of a cursor, which tests for values that are not null
(`null_notMem_strictlyAfter`).  Columns, joins and the ordering bind nothing.
-/

namespace ListQuery

open Sql Wire

/-! ## Operands -/

/-- Whether a value can be compared with those of a column as it is: it has their form, and if
it is a double it is finite. -/
structure ColumnType.Takes (type : ColumnType) (value : Scalar) : Prop where
  holds : type.holds value = true
  finite : value.isNonFinite = false

namespace Filter

variable {filter : Filter} {type : ColumnType}

theorem ne_null_of_takes {value : Scalar} (htakes : type.Takes value) : value ≠ .null := by
  rintro rfl
  cases Scalar.isNull_of_holds htakes.holds

/-- Conversion gives what the column takes, of anything but null. -/
theorem takes_of_coerce {value result : Scalar} (hvalue : value.isNull = false)
    (hfinite : value.isNonFinite = false) (hresult : value.coerce type = .ok result) :
    type.Takes result :=
  have hholds := Scalar.holds_of_coerce hvalue hresult
  ⟨hholds.1, hholds.2 hfinite⟩

theorem takes_of_scalarOperand (hnormal : filter.IsNormal) {value : Scalar}
    (hvalue : filter.scalarOperand type = .ok value) (hnull : value ≠ .null) :
    type.Takes value := by
  unfold scalarOperand at hvalue
  split at hvalue
  next =>
    cases hvalue
    exact absurd rfl hnull
  next given hgiven =>
    have hresult : given.isNull = false := by
      rw [← Scalar.isNull_coerce hvalue, Bool.eq_false_iff, Ne, Scalar.isNull_iff]
      exact hnull
    exact takes_of_coerce hresult (hnormal _ hgiven).1 hvalue
  next => cases hvalue

theorem takes_of_listOperand (hnormal : filter.IsNormal) {values : List Scalar}
    (hvalues : filter.listOperand type = .ok values) : ∀ value ∈ values, type.Takes value := by
  unfold listOperand at hvalues
  split at hvalues
  next first rest hgiven =>
    intro value hvalue
    obtain ⟨member, hmember, hresult⟩ := (results_of_mapM hvalues).2 value hvalue
    unfold memberOperand at hresult
    split at hresult
    next => cases hresult
    next hnull =>
      exact takes_of_coerce (Bool.not_eq_true _ ▸ hnull) ((hnormal _ hgiven).1 member hmember)
        hresult
  next => cases hvalues

private theorem mem_of_lookup {entries : List (String × Scalar)} {name : String}
    {value : Scalar} (hvalue : entries.lookup name = some value) : (name, value) ∈ entries := by
  obtain ⟨before, after, rfl, -⟩ := List.lookup_eq_some_iff.mp hvalue
  exact List.mem_append_right before List.mem_cons_self

/-- The bounds that an operand gives are finite if it has been read. -/
theorem isNonFinite_of_givenBounds (hnormal : filter.IsNormal) {lower upper : Scalar}
    (hgiven : filter.givenBounds = .ok (lower, upper)) :
    lower.isNonFinite = false ∧ upper.isNonFinite = false := by
  unfold givenBounds at hgiven
  split at hgiven
  next first second hvalue =>
    cases hgiven
    have hfinite := (hnormal _ hvalue).1
    exact ⟨hfinite lower (by simp), hfinite upper (by simp)⟩
  next entries hvalue =>
    obtain ⟨-, hfinite⟩ := (hnormal _ hvalue).1
    split at hgiven
    next first second hfirst hsecond =>
      cases hgiven
      exact ⟨hfinite _ (mem_of_lookup hfirst), hfinite _ (mem_of_lookup hsecond)⟩
    next => cases hgiven
  next => cases hgiven

theorem takes_of_boundsOperand (hnormal : filter.IsNormal) {lower upper : Scalar}
    (hbounds : filter.boundsOperand type = .ok (lower, upper)) :
    type.Takes lower ∧ type.Takes upper := by
  obtain ⟨⟨first, second⟩, hgiven, hrest⟩ := bind_eq_ok_iff.mp hbounds
  obtain ⟨hfirst, hsecond⟩ := isNonFinite_of_givenBounds hnormal hgiven
  cases hnull : first.isNull || second.isNull with
  | true => simp [hnull, operandFault, bind, Except.bind] at hrest
  | false =>
      obtain ⟨hfirstNull, hsecondNull⟩ := Bool.or_eq_false_iff.mp hnull
      simp only [hnull, Bool.false_eq_true, if_false, bind, pure, bind_eq_ok_iff] at hrest
      obtain ⟨low, hlow, high, hhigh, hresult⟩ := hrest
      cases hresult
      exact ⟨takes_of_coerce hfirstNull hfirst hlow, takes_of_coerce hsecondNull hsecond hhigh⟩

end Filter

/-! ## Conditions of filters -/

namespace MappedField

variable {field : MappedField} {filter : Filter} {condition : Fragment}

@[simp] theorem values_expression : field.expression.values = [] :=
  Fragment.values_column field.table field.column

@[simp] theorem values_isNull : field.isNull.values = [] := by
  simp [isNull]

@[simp] theorem values_isNotNull : field.isNotNull.values = [] := by
  simp [isNotNull]

@[simp] theorem values_compare (sign : Comparison) (value : Scalar) :
    (field.compare sign value).values = [value] := by
  simp [compare]

@[simp] theorem values_compareEach (sign : Comparison) (quantifier : Callee)
    (values : List Scalar) : (field.compareEach sign quantifier values).values = values := by
  simp [compareEach]

@[simp] theorem values_between (lower upper : Scalar) :
    (field.between lower upper).values = [lower, upper] := by
  simp [between]

@[simp] theorem values_matchesPattern (pattern : String) :
    (field.matchesPattern pattern).values = [.text pattern] := by
  simp [matchesPattern]

/-- A text match binds a text. -/
theorem exists_text_of_condition? (hoperator : filter.operator.position?.isSome)
    (hcondition : field.condition? filter = .ok (some condition)) :
    ∃ pattern, condition.values = [.text pattern] := by
  cases condition?_eq_ok_iff.mp hcondition with
  | matchesPattern => exact ⟨_, values_matchesPattern _⟩
  | compare hother => simp [hother] at hoperator
  | isNull hother | isNotNull hother | equalsNull hother | notEqualsNull hother
  | within hother | notWithin hother | between hother =>
      simp [hother, FilterOperator.position?] at hoperator

/-- Every other filter binds what its column takes. -/
theorem takes_of_condition? (hnormal : filter.IsNormal)
    (hoperator : filter.operator.position? = none)
    (hcondition : field.condition? filter = .ok (some condition)) :
    ∀ value ∈ condition.values, field.type.Takes value := by
  cases condition?_eq_ok_iff.mp hcondition with
  | isNull | isNotNull | equalsNull | notEqualsNull => simp
  | compare _ hoperand hvalue =>
      simpa using Filter.takes_of_scalarOperand hnormal hoperand hvalue
  | within _ hoperand | notWithin _ hoperand =>
      rw [values_compareEach]
      exact Filter.takes_of_listOperand hnormal hoperand
  | between _ hoperand => simpa using Filter.takes_of_boundsOperand hnormal hoperand
  | matchesPattern hposition =>
      rw [hposition] at hoperator
      cases hoperator

/-- The negation of a condition binds what the condition does. -/
theorem values_of_predicate? (hpredicate : field.predicate? filter = .ok (some condition)) :
    ∃ inner, field.condition? filter = .ok (some inner) ∧ condition.values = inner.values := by
  obtain ⟨found, hfound, hcondition⟩ := bind_eq_ok_iff.mp hpredicate
  cases found with
  | none => cases hcondition
  | some inner =>
      refine ⟨inner, hfound, ?_⟩
      cases hcondition
      split <;> simp

end MappedField

namespace Mapping

variable {mapping : Mapping} {filter : Filter}

/-- The values that a filter binds, none if it has no condition. -/
def filterValues (mapping : Mapping) (filter : Filter) : List Scalar :=
  match mapping.filterCondition? filter with
  | .ok (some condition) => condition.values
  | .ok none | .error _ => []

/-- A filter binds values if its field may be filtered and it has a condition there. -/
theorem filterValues_cases {value : Scalar} (hvalue : value ∈ mapping.filterValues filter) :
    ∃ field condition, mapping.filterableField? filter.field = some field ∧
      field.condition? filter = .ok (some condition) ∧ value ∈ condition.values := by
  unfold filterValues at hvalue
  split at hvalue
  next condition hcondition =>
    unfold filterCondition? at hcondition
    split at hcondition
    next => cases hcondition
    next field hfield =>
      obtain ⟨inner, hinner, hvalues⟩ := MappedField.values_of_predicate? hcondition
      exact ⟨field, inner, hfield, hinner, hvalues ▸ hvalue⟩
  all_goals cases hvalue

/-- A comparison, a membership test or a range test binds what its column takes. -/
theorem takes_of_mem_filterValues (hnormal : filter.IsNormal)
    (hoperator : filter.operator.position? = none) {field : MappedField}
    (hfield : mapping.filterableField? filter.field = some field) {value : Scalar}
    (hvalue : value ∈ mapping.filterValues filter) : field.type.Takes value := by
  obtain ⟨found, condition, hfound, hcondition, hmem⟩ := filterValues_cases hvalue
  obtain rfl : found = field := Option.some.inj (hfound.symm.trans hfield)
  exact MappedField.takes_of_condition? hnormal hoperator hcondition value hmem

theorem null_notMem_filterValues (hnormal : filter.IsNormal) :
    .null ∉ mapping.filterValues filter := by
  intro hnull
  obtain ⟨field, condition, hfield, hcondition, hmem⟩ := filterValues_cases hnull
  cases hoperator : filter.operator.position? with
  | none =>
      have htakes := takes_of_mem_filterValues hnormal hoperator hfield hnull
      exact Filter.ne_null_of_takes htakes rfl
  | some position =>
      obtain ⟨pattern, hvalues⟩ :=
        MappedField.exists_text_of_condition? (by rw [hoperator]; rfl) hcondition
      rw [hvalues] at hmem
      cases List.mem_singleton.mp hmem

theorem flatMap_values_filterConditions {filters : List Filter} {conditions : List Fragment}
    (hconditions : (mapping.filterConditions filters).outcome = .ok conditions) :
    conditions.flatMap Fragment.values = filters.flatMap mapping.filterValues := by
  induction filters generalizing conditions with
  | nil =>
      obtain rfl : conditions = [] := by simpa [filterConditions, eq_comm] using hconditions
      rfl
  | cons filter rest ih =>
      obtain ⟨found, others, hfound, hothers, rfl⟩ :=
        filterConditions_cons_eq_ok_iff.mp hconditions
      rw [List.flatMap_append, List.flatMap_cons, ih hothers]
      congr 1
      rw [filterValues, hfound]
      cases found <;> simp

/-! ## The other parts of a statement -/

theorem values_of_mem_columns {column : Column} (hcolumn : column ∈ mapping.columns) :
    column.expression.values = [] := by
  -- No part of a key text binds anything.
  have hexpression : ∀ name, (mapping.keyExpression name).values = [] := by
    intro name
    unfold keyExpression
    split <;> simp
  have hliteral : ∀ text, Fragment.values [.verbatim text] = [] := fun _ => rfl
  have hpart : ∀ name ∈ mapping.keyFields, (mapping.keyPart name).values = [] := by
    intro name _
    rw [keyPart, Fragment.values_call]
    simp [hexpression, hliteral]
  rcases List.mem_append.mp hcolumn with hfield | hkey
  · obtain ⟨field, -, rfl⟩ := List.mem_map.mp hfield
    exact MappedField.values_expression
  · obtain rfl := List.mem_singleton.mp hkey
    have hparts : (mapping.keyFields.map mapping.keyPart).flatMap Fragment.values = [] := by
      rw [List.flatMap_map, List.flatMap_eq_nil_iff]
      exact hpart
    rw [keyText, Fragment.values_call]
    simp [hparts, hliteral]

/-- A search binds its pattern once for each field. -/
theorem null_notMem_searchCondition {search : Option Search} {found : Option (Fragment × String)}
    (hsearch : (mapping.searchCondition search).outcome = .ok found) :
    .null ∉ (found.map Prod.fst).toList.flatMap Fragment.values := by
  cases found with
  | none => simp
  | some found =>
      obtain ⟨fields, pattern, -, -, hcondition⟩ := searchCondition_cases hsearch
      simp [hcondition]

end Mapping

/-- What a cursor adds tests for no null. -/
theorem Sql.Order.null_notMem_strictlyAfter {ordering : List Order}
    (hordering : ∀ order ∈ ordering, order.expression.values = []) (values : List Scalar) :
    .null ∉ (Order.strictlyAfter ordering values).values := by
  refine Order.strictlyAfter_of_closed (fun fragment => .null ∉ fragment.values) (by simp) ?_ ?_ ?_
  · intro order horder test htest
    have hexpression := hordering order horder
    have hne : ∀ value : Scalar, value.isNull = false → .null ≠ value := by
      rintro value hvalue rfl
      cases hvalue
    cases htest with
    | isNull => simp [Order.isNull, hexpression]
    | isNotNull => simp [Order.isNotNull, hexpression]
    | matchesValue value hvalue =>
        simpa [Order.matchesValue, hexpression] using hne value hvalue
    | exceeds value hvalue => simpa [Order.exceeds, hexpression] using hne value hvalue
    | exceedsOrNull value hvalue =>
        simpa [Order.exceeds, Order.isNull, hexpression] using hne value hvalue
  · intro tests _ htests
    simpa using htests
  · intro branches _ hbranches
    simpa [List.flatMap_map] using hbranches

namespace Mapping

variable {mapping : Mapping} {context : Context} {entityCode : String} {statement : Select}

/-- The values of a page are those of the filters, then those of the security filters, and then
those of the search and the cursor, among which there is no null. -/
theorem parameters_of_paged (hpaged : (mapping.paged context entityCode).outcome = .ok statement) :
    ∃ others, statement.query.parameters =
        context.filters.flatMap mapping.filterValues ++
          (mapping.guards.flatMap Fragment.values ++ others) ∧
      .null ∉ others := by
  obtain ⟨draft, filters, search, ordering, cursor, hdraft, hfilters, hsearch, htotal, hcursor,
    -, hconditions, rfl⟩ := conditions_of_paged hpaged
  have hexpressions : ∀ order ∈ context.page.direction.orient ordering,
      order.expression.values = [] :=
    context.page.direction.forall_mem_orient
      (fun order horder => values_of_mem_columns
        (column_mem_of_arranges ((totalOrdering_arranges hdraft htotal).1 order horder)))
      fun _ hvalues => hvalues
  -- The columns, the joins and the ordering bind nothing, so the conditions bind all values.
  have hcolumns : (mapping.columns.map Column.expression).flatMap Fragment.values = [] := by
    rw [List.flatMap_map, List.flatMap_eq_nil_iff]
    exact fun column => values_of_mem_columns
  have hjoins : (mapping.sqlJoins.map Join.on).flatMap Fragment.values = [] := by
    rw [sqlJoins, List.map_map, List.flatMap_map, List.flatMap_eq_nil_iff]
    exact fun _ _ => rfl
  have hordering : ((context.page.direction.orient ordering).map Order.expression).flatMap
      Fragment.values = [] := by
    rw [List.flatMap_map, List.flatMap_eq_nil_iff]
    exact hexpressions
  refine ⟨(search.map Prod.fst).toList.flatMap Fragment.values ++ cursor.flatMap Fragment.values,
    ?_, ?_⟩
  · refine (draft.statement.cut cursor _ _).embeds_fragment.values_eq.trans ?_
    obtain ⟨_, _, _, _, -, -, -, -, rfl⟩ := draft_eq_ok_iff.mp hdraft
    dsimp only at hconditions
    simp [Select.parts, Select.cut, hconditions, hcolumns, hjoins, hordering,
      flatMap_values_filterConditions hfilters]
  · rw [List.mem_append]
    rintro (hnull | hnull)
    · exact null_notMem_searchCondition hsearch hnull
    · obtain ⟨condition, hcondition, hnull⟩ := List.mem_flatMap.mp hnull
      obtain ⟨values, rfl⟩ := mem_cursorConditions hcursor condition hcondition
      exact Order.null_notMem_strictlyAfter hexpressions values hnull

end Mapping

namespace Planner

variable {planner : Planner} {applicationCode entityCode : String} {context : Context}
variable {plan : Plan}

/-- No null is bound, the values of the filters come first, and those of a comparison, a
membership test or a range test are such as the column takes; converting a value that has been
converted changes nothing. -/
theorem parameters_of_plan {σ : Type} [JsonDocument σ] {document : σ}
    (hread : Context.read? document = some context)
    (hplan : (planner.plan applicationCode entityCode context).outcome = .ok plan)
    (hunamended : planner.amendments.find? (context.resolvedListCode entityCode) = none) :
    .null ∉ plan.query.parameters ∧
    (∃ others, plan.query.parameters =
      context.filters.flatMap plan.mapping.filterValues ++ others) ∧
    (∀ filter ∈ context.filters, filter.operator.position? = none →
      ∀ field, plan.mapping.filterableField? filter.field = some field →
        ∀ value ∈ plan.mapping.filterValues filter, field.type.Takes value) ∧
    ∀ (type : ColumnType) (value result : Scalar),
      value.coerce type = .ok result → result.coerce type = .ok result := by
  have hnormal := Context.isNormal_filters_of_read? hread
  obtain ⟨hmapping, hpaged⟩ := paged_of_plan hplan hunamended
  obtain ⟨entity, hentity⟩ := Catalog.exists_mapping hmapping
  obtain ⟨others, hparameters, hothers⟩ := Mapping.parameters_of_paged hpaged
  have hguards : plan.mapping.guards.flatMap Fragment.values = [] := by
    rw [hentity, Mapping.guards_mapping, List.flatMap_singleton,
      SecurityFilter.values_condition (by decide)]
    rfl
  rw [hguards, List.nil_append] at hparameters
  refine ⟨?_, ⟨others, hparameters⟩, fun filter hfilter hoperator field hfield value hvalue => ?_,
    fun type value result => Scalar.coerce_of_coerce⟩
  · rw [Plan.query, hparameters, List.mem_append, List.mem_flatMap]
    rintro (⟨filter, hfilter, hnull⟩ | hnull)
    · exact Mapping.null_notMem_filterValues (hnormal filter hfilter) hnull
    · exact hothers hnull
  · exact Mapping.takes_of_mem_filterValues (hnormal filter hfilter) hoperator hfield hvalue

end Planner

/-- A request for the items up to a price that is given as a text, of a page that continues
after an item without a price. -/
def Shelf.cheap : Context :=
  { Context.standard with
    filters := [⟨"price", .lessOrEqual, some (.scalar (.text " 3.5 ")), false, none⟩,
      ⟨"name", .notEquals, none, false, none⟩]
    sorts := [⟨"price", .descending, none, none⟩]
    page := { PageRequest.standard with
      after := some "eyJlbnRpdHkiOiJpdGVtIiwia2V5IjpbIjciXSwic29ydCI6W251bGwsIjciXX0" } }

namespace Planner

theorem parameters_of_plan_cheap :
    Context.read? Shelf.cheap.toJson = some Shelf.cheap ∧
      ∃ plan, (Shelf.planner.plan "shop" "item" Shelf.cheap).outcome = .ok plan ∧
        .null ∉ plan.query.parameters ∧
        ∀ filter ∈ Shelf.cheap.filters, filter.operator.position? = none →
          ∀ field, plan.mapping.filterableField? filter.field = some field →
            ∀ value ∈ plan.mapping.filterValues filter, field.type.Takes value := by
  have hread : Context.read? Shelf.cheap.toJson = some Shelf.cheap := rfl
  obtain ⟨plan, hplan⟩ := exists_ok_of_isOk
    (show (Shelf.planner.plan "shop" "item" Shelf.cheap).outcome.isOk = true by decide +kernel)
  obtain ⟨hnull, -, htakes, -⟩ := parameters_of_plan hread hplan rfl
  exact ⟨hread, plan, hplan, hnull, htakes⟩

/-- The price is bound as a number, and of the cursor the identifier alone. -/
example :
    ((Shelf.planner.plan "shop" "item" Shelf.cheap).outcome.toOption.map fun plan =>
      plan.query.parameters) = some [.float ⟨0x400c000000000000⟩, .text "7"] := by
  decide +kernel

end Planner

end ListQuery
