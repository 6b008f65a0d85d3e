import ListQuery.Draft
import ListQuery.Proofs.Statement

/-!
# The forms of a condition

What a filter asks of its field depends on the family of its operator: a test for null, a
comparison, a membership test, a range test or a text match (`condition?_eq_ok_iff`).  So
whatever the operator and the operand are, the condition has one of six forms, negated or
not (`predicate_cases`).  With the security filters, which are clauses of the mapping, and
the one search, a disjunction of pattern matches, this lists every condition of a draft:
`mem_conditions_cases`.  A fact about all the conditions of a list is proved by going
through this list.
-/

namespace ListQuery

open Sql

/-! ## Families of operators -/

/-- The filter operator for a comparison. -/
def Sql.Comparison.operator : Comparison → FilterOperator
  | .eq => .equals
  | .ne => .notEquals
  | .lt => .less
  | .le => .lessOrEqual
  | .gt => .greater
  | .ge => .greaterOrEqual

/-- Where in a text something is looked for. -/
inductive Position where
  | anywhere
  | atStart
  | atEnd
  | whole
deriving DecidableEq

/-- Where the filters with an operator look for their operand. -/
def FilterOperator.position? : FilterOperator → Option Position
  | .contains => some .anywhere
  | .startsWith => some .atStart
  | .endsWith => some .atEnd
  | .equals | .notEquals | .less | .lessOrEqual | .greater | .greaterOrEqual | .within | .notWithin
  | .between | .isNull | .isNotNull | .custom => none

/-- The pattern for an operand. -/
def Position.pattern : Position → String → String
  | .anywhere, operand => "%" ++ operand ++ "%"
  | .atStart, operand => operand ++ "%"
  | .atEnd, operand => "%" ++ operand
  | .whole, operand => operand

@[simp] theorem Sql.Comparison.position?_operator (sign : Comparison) :
    sign.operator.position? = none := by
  cases sign <;> rfl

/-! ## Conditions of filters -/

/-- The forms that the condition of a filter on a field takes before it is negated. -/
inductive MappedField.Form (field : MappedField) : Fragment → Prop
  | isNull : Form field field.isNull
  | isNotNull : Form field field.isNotNull
  | compare (sign : Comparison) (value : Scalar) : Form field (field.compare sign value)
  | compareEach (sign : Comparison) {quantifier : Callee}
      (hquantifier : quantifier = .any ∨ quantifier = .all) (value : Scalar)
      (values : List Scalar) : Form field (field.compareEach sign quantifier (value :: values))
  | between (lower upper : Scalar) : Form field (field.between lower upper)
  | matchesPattern (pattern : String) : Form field (field.matchesPattern pattern)

/-- What a filter asks of its field, by the family of its operator, with the operand that it
takes in.  A filter that is left to an amendment asks for nothing. -/
inductive MappedField.Asks (field : MappedField) (filter : Filter) : Option Fragment → Prop
  | isNull (hoperator : filter.operator = .isNull) : Asks field filter (some field.isNull)
  | isNotNull (hoperator : filter.operator = .isNotNull) :
      Asks field filter (some field.isNotNull)
  /-- To be equal to null is to have no value. -/
  | equalsNull (hoperator : filter.operator = .equals)
      (hoperand : filter.scalarOperand field.type = .ok .null) :
      Asks field filter (some field.isNull)
  | notEqualsNull (hoperator : filter.operator = .notEquals)
      (hoperand : filter.scalarOperand field.type = .ok .null) :
      Asks field filter (some field.isNotNull)
  | compare {sign : Comparison} {value : Scalar} (hoperator : filter.operator = sign.operator)
      (hoperand : filter.scalarOperand field.type = .ok value) (hvalue : value ≠ .null) :
      Asks field filter (some (field.compare sign value))
  | within {value : Scalar} {rest : List Scalar} (hoperator : filter.operator = .within)
      (hoperand : filter.listOperand field.type = .ok (value :: rest)) :
      Asks field filter (some (field.compareEach .eq .any (value :: rest)))
  | notWithin {value : Scalar} {rest : List Scalar} (hoperator : filter.operator = .notWithin)
      (hoperand : filter.listOperand field.type = .ok (value :: rest)) :
      Asks field filter (some (field.compareEach .ne .all (value :: rest)))
  | between {lower upper : Scalar} (hoperator : filter.operator = .between)
      (hoperand : filter.boundsOperand field.type = .ok (lower, upper)) :
      Asks field filter (some (field.between lower upper))
  | matchesPattern {position : Position} {operand : String}
      (hoperator : filter.operator.position? = some position)
      (hoperand : filter.textOperand = .ok operand) :
      Asks field filter (some (field.matchesPattern (position.pattern operand)))
  | custom (hoperator : filter.operator = .custom) : Asks field filter none

/-- A comparison that does not allow null takes the other operands. -/
theorem Filter.nonNullOperand_eq_ok_iff {filter : Filter} {type : ColumnType} {value : Scalar} :
    filter.nonNullOperand type = .ok value ↔
      filter.scalarOperand type = .ok value ∧ value ≠ .null := by
  unfold nonNullOperand
  simp only [bind, bind_eq_ok_iff]
  constructor
  · rintro ⟨given, hgiven, hresult⟩
    cases given <;> cases hresult
    all_goals exact ⟨hgiven, nofun⟩
  · rintro ⟨hgiven, hvalue⟩
    refine ⟨value, hgiven, ?_⟩
    cases value with
    | null => exact absurd rfl hvalue
    | bool | int | float | text => rfl

namespace MappedField

variable {field : MappedField} {filter : Filter} {condition : Fragment} {found : Option Fragment}

/-- The list of a membership test is not empty. -/
theorem listOperand_cases {type : ColumnType} {values : List Scalar}
    (hvalues : filter.listOperand type = .ok values) :
    ∃ value rest, values = value :: rest := by
  unfold Filter.listOperand at hvalues
  split at hvalues
  · rw [List.mapM_cons] at hvalues
    simp only [bind, pure, bind_eq_ok_iff] at hvalues
    obtain ⟨value, -, rest, -, hrest⟩ := hvalues
    cases hrest
    exact ⟨value, rest, rfl⟩
  · cases hvalues

theorem asks_of_condition? (hfound : field.condition? filter = .ok found) :
    field.Asks filter found := by
  unfold condition? at hfound
  cases hoperator : filter.operator <;>
    simp only [hoperator, bind, pure, bind_eq_ok_iff] at hfound
  case equals =>
      obtain ⟨value, hvalue, hresult⟩ := hfound
      split at hresult <;> cases hresult
      · exact .equalsNull hoperator hvalue
      next hsome =>
        have hsign : filter.operator = Comparison.eq.operator := hoperator
        exact .compare hsign hvalue hsome
  case notEquals =>
      obtain ⟨value, hvalue, hresult⟩ := hfound
      split at hresult <;> cases hresult
      · exact .notEqualsNull hoperator hvalue
      next hsome =>
        have hsign : filter.operator = Comparison.ne.operator := hoperator
        exact .compare hsign hvalue hsome
  case less | lessOrEqual | greater | greaterOrEqual =>
      obtain ⟨value, hvalue, hresult⟩ := hfound
      obtain ⟨hgiven, hsome⟩ := Filter.nonNullOperand_eq_ok_iff.mp hvalue
      cases hresult
      exact .compare hoperator hgiven hsome
  case within =>
      obtain ⟨values, hvalues, hresult⟩ := hfound
      obtain ⟨value, rest, rfl⟩ := listOperand_cases hvalues
      cases hresult
      exact .within hoperator hvalues
  case notWithin =>
      obtain ⟨values, hvalues, hresult⟩ := hfound
      obtain ⟨value, rest, rfl⟩ := listOperand_cases hvalues
      cases hresult
      exact .notWithin hoperator hvalues
  case between =>
      obtain ⟨⟨lower, upper⟩, hbounds, hresult⟩ := hfound
      cases hresult
      exact .between hoperator hbounds
  case contains | startsWith | endsWith =>
      obtain ⟨operand, hoperand, hresult⟩ := hfound
      cases hresult
      exact .matchesPattern (by rw [hoperator]; rfl) hoperand
  case isNull =>
      cases hfound
      exact .isNull hoperator
  case isNotNull =>
      cases hfound
      exact .isNotNull hoperator
  case custom =>
      cases hfound
      exact .custom hoperator

/-- The condition of a filter is what the filter asks of its field. -/
theorem condition?_eq_ok_iff : field.condition? filter = .ok found ↔ field.Asks filter found := by
  refine ⟨asks_of_condition?, fun hasks => ?_⟩
  unfold condition?
  cases hasks with
  | isNull hoperator | isNotNull hoperator | custom hoperator => rw [hoperator]
  | equalsNull hoperator hoperand | notEqualsNull hoperator hoperand =>
      rw [hoperator, hoperand]
      rfl
  | @compare sign value hoperator hoperand hvalue =>
      have hnonNull := Filter.nonNullOperand_eq_ok_iff.mpr ⟨hoperand, hvalue⟩
      rw [hoperator]
      cases sign with
      | eq | ne =>
          rw [Comparison.operator, hoperand]
          cases value with
          | null => exact absurd rfl hvalue
          | bool | int | float | text => rfl
      | lt | le | gt | ge =>
          rw [Comparison.operator, hnonNull]
          rfl
  | within hoperator hoperand | notWithin hoperator hoperand | between hoperator hoperand =>
      rw [hoperator, hoperand]
      rfl
  | @matchesPattern position operand hoperator hoperand =>
      cases hcase : filter.operator <;> rw [hcase] at hoperator <;> cases hoperator <;>
        rw [hoperand] <;> rfl

/-- Only filters that are left to an amendment have no condition without being faulty. -/
theorem condition?_eq_none_iff :
    field.condition? filter = .ok none ↔ filter.operator = .custom := by
  rw [condition?_eq_ok_iff]
  constructor
  · intro hasks
    cases hasks with
    | custom hoperator => exact hoperator
  · exact .custom

theorem condition_form (hcondition : field.condition? filter = .ok (some condition)) :
    field.Form condition := by
  cases condition?_eq_ok_iff.mp hcondition with
  | isNull | equalsNull => exact .isNull
  | isNotNull | notEqualsNull => exact .isNotNull
  | compare => exact .compare _ _
  | within => exact .compareEach _ (.inl rfl) _ _
  | notWithin => exact .compareEach _ (.inr rfl) _ _
  | between => exact .between _ _
  | matchesPattern => exact .matchesPattern _

/-- The condition of a filter has one of the forms, or it is the negation of one in
parentheses. -/
theorem predicate_cases (hpredicate : field.predicate? filter = .ok (some condition)) :
    ∃ inner, field.Form inner ∧
      (condition = inner ∨ condition = Fragment.word .not ++ inner.parenthesized) := by
  unfold predicate? at hpredicate
  simp only [bind, pure, bind_eq_ok_iff] at hpredicate
  obtain ⟨found, hfound, hcondition⟩ := hpredicate
  cases found with
  | none => cases hcondition
  | some inner =>
      refine ⟨inner, condition_form hfound, ?_⟩
      simp only [Except.pure, Option.map_some, Except.ok.injEq, Option.some.injEq] at hcondition
      split at hcondition
      · exact Or.inr hcondition.symm
      · exact Or.inl hcondition.symm

end MappedField

namespace Mapping

variable {mapping : Mapping}

theorem mem_fields_of_filterableField? {name : String} {field : MappedField}
    (hfield : mapping.filterableField? name = some field) : field ∈ mapping.fields :=
  List.mem_of_find?_eq_some (Option.filter_eq_some_iff.mp hfield).1

/-- The condition of a filter, if the filter takes effect. -/
def filterCondition? (mapping : Mapping) (filter : Filter) :
    Except FilterFault (Option Fragment) :=
  match mapping.filterableField? filter.field with
  | none => .ok none
  | some field => field.predicate? filter

/-- Whether dropped, left to an amendment or made a condition, a filter changes nothing for
the ones after it. -/
theorem filterConditions_cons_eq_ok_iff {filter : Filter} {rest : List Filter}
    {conditions : List Fragment} :
    (mapping.filterConditions (filter :: rest)).outcome = .ok conditions ↔
      ∃ found others, mapping.filterCondition? filter = .ok found ∧
        (mapping.filterConditions rest).outcome = .ok others ∧
        conditions = found.toList ++ others := by
  rw [filterConditions, filterCondition?]
  cases mapping.filterableField? filter.field with
  | none => simp [Except.bind, eq_comm]
  | some field =>
      cases hpredicate : field.predicate? filter with
      | error fault => simp [hpredicate]
      | ok found =>
          cases found with
          | none => simp [hpredicate]
          | some condition =>
              simp [hpredicate, bind_eq_ok_iff, eq_comm (a := conditions)]

/-- Every condition of the filters is that of a filter on a field of the mapping. -/
theorem filterConditions_cases {filters : List Filter} {conditions : List Fragment}
    (hconditions : (mapping.filterConditions filters).outcome = .ok conditions) :
    ∀ condition ∈ conditions, ∃ field ∈ mapping.fields, ∃ filter ∈ filters,
      field.predicate? filter = .ok (some condition) := by
  induction filters generalizing conditions with
  | nil =>
      obtain rfl : conditions = [] := by simpa [filterConditions, eq_comm] using hconditions
      simp
  | cons filter rest ih =>
      obtain ⟨found, others, hfound, hothers, rfl⟩ :=
        filterConditions_cons_eq_ok_iff.mp hconditions
      intro condition hcondition
      rcases List.mem_append.mp hcondition with hfirst | hlater
      · obtain rfl : found = some condition := Option.mem_toList.mp hfirst
        unfold filterCondition? at hfound
        split at hfound
        · cases hfound
        next field hfield =>
          exact ⟨field, mem_fields_of_filterableField? hfield, filter, List.mem_cons_self, hfound⟩
      · obtain ⟨field, hfield, other, hother, hpredicate⟩ := ih hothers condition hlater
        exact ⟨field, hfield, other, List.mem_cons_of_mem _ hother, hpredicate⟩

/-! ## Conditions of security filters and of the search -/

/-- Every security filter has as many values as its clause asks for, and the ones
whose clause is not empty are conditions, in their order. -/
theorem securityConditions_eq_ok_iff {filters : List SecurityFilter} {conditions : List Fragment} :
    securityConditions filters = .ok conditions ↔
      (∀ filter ∈ filters, filter.placeholders = filter.values.length) ∧
      conditions = (filters.map SecurityFilter.condition).filter (!·.isEmpty) := by
  induction filters generalizing conditions with
  | nil => simp [securityConditions, eq_comm]
  | cons filter rest ih =>
      rw [securityConditions]
      by_cases hcount : filter.placeholders = filter.values.length
      · simp only [hcount, ne_eq, not_true_eq_false, if_false, bind, pure, Except.pure,
          bind_eq_ok_iff, Except.ok.injEq, ih, List.forall_mem_cons, true_and, List.map_cons]
        constructor
        · rintro ⟨_, ⟨hrest, rfl⟩, rfl⟩
          refine ⟨hrest, ?_⟩
          cases hempty : filter.condition.isEmpty <;> simp [hempty]
        · rintro ⟨hrest, rfl⟩
          refine ⟨_, ⟨hrest, rfl⟩, ?_⟩
          cases hempty : filter.condition.isEmpty <;> simp [hempty]
      · simp [hcount, bind, Except.bind, throw, throwThe, MonadExceptOf.throw]

/-- The condition of a search is that a field matches its pattern: one of those that it
covers, of which there is at least one. -/
theorem searchCondition_cases {search : Option Search} {condition : Fragment} {term : String}
    (hcondition : (mapping.searchCondition search).outcome = .ok (some (condition, term))) :
    ∃ fields pattern, fields ≠ [] ∧ (∀ field ∈ fields, field ∈ mapping.fields) ∧
      condition = Fragment.join (.word .or)
        (fields.map fun field => field.matchesPattern pattern) := by
  cases search with
  | none => simp [searchCondition] at hcondition
  | some search =>
      rw [searchCondition] at hcondition
      dsimp only at hcondition
      split at hcondition
      · simp at hcondition
      · cases hfields : mapping.fields.filter search.covers with
        | nil => simp [hfields, Except.bind] at hcondition
        | cons first rest =>
            simp only [hfields, Logged.outcome_pure, Except.ok.injEq, Option.some.injEq,
              Prod.mk.injEq] at hcondition
            refine ⟨first :: rest, _, List.cons_ne_nil _ _, fun field hfield => ?_,
              hcondition.1.symm⟩
            exact (List.mem_filter.mp (hfields ▸ hfield)).1

/-! ## Conditions of a draft -/

/-- The conditions that the statement of a draft can have. -/
inductive Stipulates (mapping : Mapping) : Fragment → Prop
  | filter {field : MappedField} {condition : Fragment} (hfield : field ∈ mapping.fields)
      (hform : field.Form condition) : Stipulates mapping condition
  | negatedFilter {field : MappedField} {condition : Fragment} (hfield : field ∈ mapping.fields)
      (hform : field.Form condition) :
      Stipulates mapping (Fragment.word .not ++ condition.parenthesized)
  | security {filter : SecurityFilter} (hfilter : filter ∈ mapping.securityFilters)
      (hcount : filter.placeholders = filter.values.length) :
      Stipulates mapping filter.condition
  | search {fields : List MappedField} (hfields : ∀ field ∈ fields, field ∈ mapping.fields)
      (hsome : fields ≠ []) (pattern : String) :
      Stipulates mapping
        (Fragment.join (.word .or) (fields.map fun field => field.matchesPattern pattern))

theorem stipulates_of_mem_filterConditions {filters : List Filter} {conditions : List Fragment}
    (hconditions : (mapping.filterConditions filters).outcome = .ok conditions) :
    ∀ condition ∈ conditions, mapping.Stipulates condition := by
  intro condition hcondition
  obtain ⟨field, hfield, filter, -, hpredicate⟩ :=
    filterConditions_cases hconditions condition hcondition
  obtain ⟨inner, hform, rfl | rfl⟩ := MappedField.predicate_cases hpredicate
  · exact .filter hfield hform
  · exact .negatedFilter hfield hform

/-- Every condition of a draft is that of a filter, negated or not, of a security filter
or of the search. -/
theorem mem_conditions_cases {context : Context} {draft : Draft}
    (hdraft : (mapping.draft context).outcome = .ok draft) :
    ∀ condition ∈ draft.statement.conditions, mapping.Stipulates condition := by
  obtain ⟨filters, security, search, ordering, hfilters, hsecurity, hsearch, -, rfl⟩ :=
    draft_eq_ok_iff.mp hdraft
  obtain ⟨hcounts, rfl⟩ := securityConditions_eq_ok_iff.mp hsecurity
  intro condition hcondition
  rcases List.mem_append.mp hcondition with hcondition | hcondition
  · rcases List.mem_append.mp hcondition with hcondition | hcondition
    · exact stipulates_of_mem_filterConditions hfilters condition hcondition
    · obtain ⟨filter, hfilter, rfl⟩ := List.mem_map.mp (List.mem_filter.mp hcondition).1
      exact .security hfilter (hcounts filter hfilter)
  · cases search with
    | none => simp at hcondition
    | some found =>
        obtain rfl : condition = found.1 := by simpa using hcondition
        obtain ⟨fields, pattern, hsome, hfields, hjoin⟩ := searchCondition_cases hsearch
        exact hjoin ▸ .search hfields hsome pattern

end Mapping

end ListQuery
