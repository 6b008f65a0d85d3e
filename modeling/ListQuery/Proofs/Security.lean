import ListQuery.Proofs.Ordering
import ListQuery.Proofs.Predicate
import ListQuery.Proofs.Sql.Clause
import ListQuery.Proofs.Sql.Database
import ListQuery.Proofs.Sql.Nesting

/-!
# Security filters hold of every selected row

Each security filter is a condition of its own, and every other condition of a
statement is balanced: the forms of filters, the disjunction of a search and the
condition of a cursor, whatever values they carry.  So if the clauses of the mapping
are balanced as well, a database reads the conditions back one by one, and no `OR` or
`NOT` of a caller reaches a security filter.  A row on which one of these is not true
is not selected.

For a derived mapping the one security filter is the comparison that hides deleted
rows, and its clause is balanced (`EntityDefinition.balanced_securityFilters`).
-/

namespace ListQuery

open Sql

/-! ## Balanced conditions -/

theorem MappedField.balanced_expression (field : MappedField) : field.expression.Balanced :=
  Fragment.balanced_column field.table field.column

theorem MappedField.balanced_form {field : MappedField} {condition : Fragment}
    (hform : field.Form condition) : condition.Balanced := by
  have hexpression := field.balanced_expression
  cases hform with
  | isNull => exact (hexpression.word .is).word .null
  | isNotNull => exact ((hexpression.word .is).word .not).word .null
  | compare sign value => exact (hexpression.comparison sign).parameter value _
  | compareEach sign hquantifier value values =>
      have hitems := Fragment.balanced_parameters (value :: values) field.type.parameterCast
      refine (hexpression.comparison sign).append (Fragment.Balanced.call ?_ ?_)
      · rcases hquantifier with rfl | rfl <;> rfl
      · rw [List.append_assoc, List.append_assoc]
        exact (Fragment.balanced_word .array).append (by simpa using hitems.bracketed)
  | between lower upper =>
      exact (((hexpression.word .between).parameter lower _).word .and).parameter upper _
  | matchesPattern pattern => exact ((hexpression.castTo _).word .ilike).parameter _ none

namespace Mapping

variable {mapping : Mapping}

/-- The conditions of a draft are balanced if the clauses of the mapping are. -/
theorem balanced_stipulates {condition : Fragment}
    (hclauses : ∀ filter ∈ mapping.securityFilters, filter.condition.Balanced)
    (hcondition : mapping.Stipulates condition) : condition.Balanced := by
  cases hcondition with
  | filter hfield hform => exact MappedField.balanced_form hform
  | negatedFilter hfield hform =>
      exact (Fragment.balanced_word .not).append (MappedField.balanced_form hform).parenthesized
  | security hfilter hcount => exact hclauses _ hfilter
  | search hfields hsome pattern =>
      exact Fragment.balanced_join rfl (List.forall_mem_map.mpr fun field _ =>
        MappedField.balanced_form (.matchesPattern pattern))

theorem balanced_keyText : mapping.keyText.Balanced := by
  have hpart : ∀ name, (mapping.keyPart name).Balanced := by
    intro name
    have hexpression : (mapping.keyExpression name).Balanced := by
      unfold keyExpression
      split
      next field _ => exact field.balanced_expression
      next => exact Fragment.balanced_column _ _
    have hliteral : Fragment.Balanced [.verbatim "''"] := by decide +kernel
    exact Fragment.Balanced.call rfl ((hexpression.castTo _).comma.append hliteral)
  have hparts : (Fragment.join .comma (mapping.keyFields.map mapping.keyPart)).Balanced :=
    Fragment.balanced_join rfl (List.forall_mem_map.mpr fun name _ => hpart name)
  have harray := (Fragment.balanced_word .array).append hparts.bracketed
  have hliteral : Fragment.Balanced [.verbatim "'::'"] := by decide +kernel
  rw [← List.append_assoc, ← List.append_assoc] at harray
  exact Fragment.Balanced.call rfl (harray.comma.append hliteral)

theorem balanced_of_arranges {order : Order} (horder : mapping.Arranges order) :
    order.expression.Balanced := by
  cases horder with
  | sort hfield sort => exact MappedField.balanced_expression _
  | key hcolumn hkey =>
      rcases List.mem_append.mp hcolumn with hcolumn | hcolumn
      · obtain ⟨field, -, rfl⟩ := List.mem_map.mp hcolumn
        exact field.balanced_expression
      · obtain rfl := List.mem_singleton.mp hcolumn
        exact balanced_keyText

end Mapping

/-- Whatever a cursor holds, its condition is balanced if the ordering is. -/
theorem Sql.Order.balanced_strictlyAfter {ordering : List Order} {values : List Scalar}
    (hordering : ∀ order ∈ ordering, order.expression.Balanced) :
    (strictlyAfter ordering values).Balanced := by
  refine strictlyAfter_of_closed Fragment.Balanced rfl ?_ ?_ ?_
  · intro order horder test hform
    have hexpression := hordering order horder
    have hexceeds : ∀ value, (order.exceeds value).Balanced :=
      fun value => (hexpression.comparison _).parameter value _
    cases hform with
    | isNull => exact (hexpression.word .is).word .null
    | isNotNull => exact ((hexpression.word .is).word .not).word .null
    | matchesValue value =>
        exact ((((hexpression.word .is).word .not).word .distinct).word .fromWord).parameter value _
    | exceeds value => exact hexceeds value
    | exceedsOrNull value =>
        refine Fragment.Balanced.parenthesized ?_
        simp only [Order.isNull, ← List.append_assoc]
        exact (((((hexceeds value).word .or).append hexpression).word .is).word .null)
  · exact fun tests _ htests => Fragment.balanced_join rfl htests
  · intro branches _ hbranches
    exact Fragment.balanced_join rfl (List.forall_mem_map.mpr fun branch hbranch =>
      (hbranches branch hbranch).parenthesized)

/-! ## Clauses and their values -/

namespace Sql.Fragment

private theorem ofClauseChars_eq_nil {text chars : List Char} {values : List Scalar} :
    ofClauseChars text chars values = [] ↔ text = [] ∧ chars = [] := by
  have hverbatim : ∀ text : List Char, verbatim text = [] ↔ text = [] := by
    intro text
    cases text <;> simp [verbatim]
  fun_induction ofClauseChars text chars values with
  | case1 text values => simp [hverbatim]
  | case2 text rest value values ih => simp
  | case3 text rest ih => simp
  | case4 text c rest values hvalue hvalues ih => simp [ih]

end Sql.Fragment

namespace SecurityFilter

variable {filter : SecurityFilter}

/-- The condition of a security filter binds the filter's own values. -/
theorem values_condition (hcount : filter.placeholders = filter.values.length) :
    filter.condition.values = filter.values := by
  have hmarks : filter.clause.toList.count '?' = filter.values.length := hcount
  unfold condition Fragment.ofClause
  rw [Fragment.values_ofClauseChars, hmarks, List.take_length]

/-- An empty clause is no condition, and every other one is. -/
theorem isEmpty_condition : filter.condition.isEmpty = filter.clause.isEmpty := by
  rw [Bool.eq_iff_iff, List.isEmpty_iff, String.isEmpty_iff]
  unfold condition Fragment.ofClause
  rw [Fragment.ofClauseChars_eq_nil]
  simp

end SecurityFilter

/-! ## Deleted rows -/

namespace EntityDefinition

/-- The clauses of a derived mapping are balanced. -/
theorem balanced_securityFilters (entity : EntityDefinition) :
    ∀ filter ∈ entity.mapping.securityFilters, filter.condition.Balanced := by
  have hdeletion : deletionFilter.condition.Balanced := by decide +kernel
  exact List.forall_mem_singleton.mpr hdeletion

/-- The clause that hides deleted rows compares their marker with `FALSE`. -/
theorem read?_deletionFilter :
    Condition.read? deletionFilter.condition =
      some (.compare .eq (.column Mapping.baseAlias Mapping.deletionMarker none)
        (.literal false)) := by
  decide +kernel

/-- It is true of the rows whose marker is false. -/
theorem satisfies_deletionFilter {V : Type} [LinearOrder V] {database : Database V}
    {record : Record V} : database.satisfies record deletionFilter.condition = true ↔
      record Mapping.baseAlias Mapping.deletionMarker = some (database.literal false) := by
  rw [Database.satisfies, read?_deletionFilter]
  cases hmarker : record Mapping.baseAlias Mapping.deletionMarker <;>
    simp [Database.truth, Database.term, Comparison.truth, Comparison.holds, hmarker]

end EntityDefinition

/-! ## The conditions of a page -/

namespace Mapping

variable {mapping : Mapping} {context : Context} {entityCode : String} {statement : Select}

/-- The conditions of the security filters that ask for something, in their order. -/
def guards (mapping : Mapping) : List Fragment :=
  (mapping.securityFilters.filter fun filter => !filter.clause.isEmpty).map
    SecurityFilter.condition

theorem guards_mapping (entity : EntityDefinition) :
    entity.mapping.guards = [EntityDefinition.deletionFilter.condition] := by
  have hclause : EntityDefinition.deletionFilter.clause.isEmpty = false := by decide +kernel
  simp [guards, EntityDefinition.mapping, hclause]

theorem guards_eq : mapping.guards =
    (mapping.securityFilters.map SecurityFilter.condition).filter (!·.isEmpty) := by
  rw [guards, List.filter_map]
  congr 1
  exact List.filter_congr fun filter _ => by
    simp [SecurityFilter.isEmpty_condition]

/-- The conditions of a page: those of the filters, then those of the security filters,
then the search and the cursor. -/
theorem conditions_of_paged (hpaged : (mapping.paged context entityCode).outcome = .ok statement) :
    ∃ draft filters search ordering cursor,
      (mapping.draft context).outcome = .ok draft ∧
      (mapping.filterConditions context.filters).outcome = .ok filters ∧
      (mapping.searchCondition context.search).outcome = .ok search ∧
      draft.statement.totalOrdering draft.statement.ordering mapping.keyFields = .ok ordering ∧
      context.cursorConditions? entityCode mapping.keyFields
        (context.page.direction.orient ordering) = some cursor ∧
      (∀ filter ∈ mapping.securityFilters, filter.placeholders = filter.values.length) ∧
      draft.statement.conditions =
        filters ++ mapping.guards ++ (search.map Prod.fst).toList ∧
      statement = draft.statement.cut cursor (context.page.direction.orient ordering)
        context.page.limit := by
  obtain ⟨draft, ordering, cursor, hdraft, htotal, hcursor, hstatement⟩ :=
    paged_eq_ok_iff.mp hpaged
  obtain ⟨filters, security, search, sorted, hfilters, hsecurity, hsearch, -, rfl⟩ :=
    draft_eq_ok_iff.mp hdraft
  obtain ⟨hcounts, rfl⟩ := securityConditions_eq_ok_iff.mp hsecurity
  exact ⟨_, filters, search, ordering, cursor, hdraft, hfilters, hsearch, htotal, hcursor,
    hcounts, by rw [guards_eq], hstatement⟩

/-- All conditions of a page are balanced if the clauses of the mapping are. -/
theorem balanced_of_paged
    (hclauses : ∀ filter ∈ mapping.securityFilters, filter.condition.Balanced)
    (hpaged : (mapping.paged context entityCode).outcome = .ok statement) :
    ∀ condition ∈ statement.conditions, condition.Balanced := by
  obtain ⟨draft, ordering, cursor, hdraft, htotal, hcursor, rfl⟩ := paged_eq_ok_iff.mp hpaged
  have hordering : ∀ order ∈ context.page.direction.orient ordering,
      order.expression.Balanced :=
    context.page.direction.forall_mem_orient
      (fun order horder =>
        balanced_of_arranges ((totalOrdering_arranges hdraft htotal).1 order horder))
      fun _ hbalanced => hbalanced
  intro condition hcondition
  rcases List.mem_append.mp hcondition with hcondition | hcondition
  · exact balanced_stipulates hclauses (mem_conditions_cases hdraft condition hcondition)
  · obtain ⟨values, rfl⟩ := mem_cursorConditions hcursor condition hcondition
    exact Order.balanced_strictlyAfter hordering

/-- What the security filters of a mapping amount to in the statement of a page, which
is cut out of a draft and has the given conditions for filters, search and cursor. -/
structure Secured (mapping : Mapping) (draft statement : Select)
    (filters search cursor : List Fragment) : Prop where
  columns : statement.columns = draft.columns
  source : statement.source = draft.source
  joins : statement.joins = draft.joins
  drafted : draft.conditions = filters ++ mapping.guards ++ search
  kept : statement.conditions = draft.conditions ++ cursor
  /-- The `WHERE` is read back as these conditions and no others. -/
  separate :
    conjuncts? (Select.conditionsFragment statement.conditions) = some statement.conditions
  balanced : ∀ condition ∈ filters ++ search ++ cursor, condition.Balanced
  values : ∀ filter ∈ mapping.securityFilters, filter.condition.values = filter.values
  /-- Whatever the conditions mean, where the `WHERE` holds the security filters do. -/
  enforced : ∀ truth,
    whereTruth? truth (Select.conditionsFragment statement.conditions) = some .true →
    ∀ guard ∈ mapping.guards, truth guard = .true

/-- Every security filter is a condition of its own of every page, after the conditions
of the filters and before those of the search and the cursor, and no row on which it is
not true is selected.  If the mapping is a derived one, no deleted row is selected. -/
theorem secured_of_paged
    (hclauses : ∀ filter ∈ mapping.securityFilters, filter.condition.Balanced)
    (hpaged : (mapping.paged context entityCode).outcome = .ok statement) :
    (∃ draft filters search cursor,
      (mapping.draft context).outcome = .ok draft ∧
      (mapping.filterConditions context.filters).outcome = .ok filters ∧
      (∃ found, (mapping.searchCondition context.search).outcome = .ok found ∧
        search = (found.map Prod.fst).toList) ∧
      cursor.length ≤ 1 ∧
      mapping.Secured draft.statement statement filters search cursor) ∧
    ∀ (V : Type) [LinearOrder V] (database : Database V),
      ∀ record ∈ database.matching statement,
        (∀ guard ∈ mapping.guards, database.satisfies record guard = true) ∧
        ∀ entity : EntityDefinition, mapping = entity.mapping →
          record baseAlias deletionMarker = some (database.literal false) := by
  have hbalanced := balanced_of_paged hclauses hpaged
  obtain ⟨draft, filters, search, ordering, cursor, hdraft, hfilters, hsearch, -, hcursor, hcounts,
    hdrafted, hstatement⟩ := conditions_of_paged hpaged
  have hkept : statement.conditions = draft.statement.conditions ++ cursor := by
    rw [hstatement]
    rfl
  have hguards : ∀ guard ∈ mapping.guards, guard ∈ statement.conditions := by
    intro guard hguard
    rw [hkept, hdrafted]
    exact List.mem_append_left _ (List.mem_append_left _ (List.mem_append_right _ hguard))
  refine ⟨⟨draft, filters, (search.map Prod.fst).toList, cursor, hdraft, hfilters,
    ⟨search, hsearch, rfl⟩, length_cursorConditions hcursor, ?_⟩, ?_⟩
  · refine
      { columns := by rw [hstatement]; rfl
        source := by rw [hstatement]; rfl
        joins := by rw [hstatement]; rfl
        drafted := hdrafted
        kept := hkept
        separate := conjuncts?_conditionsFragment hbalanced
        balanced := fun condition hcondition => hbalanced condition ?_
        values := fun filter hfilter => SecurityFilter.values_condition (hcounts filter hfilter)
        enforced := fun truth htruth guard hguard =>
          (whereTruth?_conditionsFragment hbalanced).mp htruth guard (hguards guard hguard) }
    rw [hkept, hdrafted]
    rcases List.mem_append.mp hcondition with hcondition | hcondition
    · rcases List.mem_append.mp hcondition with hcondition | hcondition
      · exact List.mem_append_left _ (List.mem_append_left _ (List.mem_append_left _ hcondition))
      · exact List.mem_append_left _ (List.mem_append_right _ hcondition)
    · exact List.mem_append_right _ hcondition
  · intro V _ database record hrecord
    have hall := List.all_eq_true.mp (List.mem_filter.mp hrecord).2
    refine ⟨fun guard hguard => hall guard (hguards guard hguard), ?_⟩
    rintro entity rfl
    have hguard : EntityDefinition.deletionFilter.condition ∈ entity.mapping.guards := by
      rw [guards_mapping]
      exact List.mem_singleton_self _
    exact EntityDefinition.satisfies_deletionFilter.mp (hall _ (hguards _ hguard))

/-- A mapping that also restricts rows to a tenant, with an `OR` in the clause. -/
def tenanted : Mapping :=
  { EntityDefinition.sample.mapping with
    securityFilters := [EntityDefinition.deletionFilter,
      ⟨"root.tenant = ? OR root.owner IN (?, 'nobody')", [.int 7, .text "x"]⟩] }

/-- A request with a negated filter, a search and a cursor. -/
def probe : Context :=
  { Context.standard with
    filters := [⟨"markedForDeletion", .equals, some (.scalar (.bool false)), true, none⟩]
    search := some ⟨"a", none, none⟩
    page := ⟨.forward, some "eyJlbnRpdHkiOiJpdGVtIiwia2V5IjpbIjciXSwic29ydCI6WyJiIiwiNyJdfQ",
      none, 50⟩ }

/-- The request meets two security filters and bypasses neither. -/
theorem secured_of_probe : ∃ statement,
    (tenanted.paged probe "item").outcome = .ok statement ∧
    ∃ draft filters search cursor, (tenanted.draft probe).outcome = .ok draft ∧
      tenanted.Secured draft.statement statement filters search cursor := by
  obtain ⟨statement, hpaged⟩ := exists_ok_of_isOk
    (show (tenanted.paged probe "item").outcome.isOk = true by decide +kernel)
  have hclauses : ∀ filter ∈ tenanted.securityFilters, filter.condition.Balanced := by
    decide +kernel
  obtain ⟨⟨draft, filters, search, cursor, hdraft, -, -, -, hsecured⟩, -⟩ :=
    secured_of_paged hclauses hpaged
  exact ⟨statement, hpaged, draft, filters, search, cursor, hdraft, hsecured⟩

end Mapping

end ListQuery
