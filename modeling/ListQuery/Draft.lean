import ListQuery.Event
import ListQuery.Predicate
import ListQuery.Sql.Select

/-!
# The statement of a list before paging

A mapping and a context together give a statement: it selects every mapped field
and a text that identifies the row, under the conditions of the filters, the
security filters and the search, in the order of the sorts.

Filters and sorts on fields that do not allow them are dropped, and so is a
search that has no field to look at; an event tells of each.
-/

namespace ListQuery

open Sql

/-- A statement that is not yet cut into pages, and what went into it. -/
structure Draft where
  statement : Select
  /-- How many filters took effect. -/
  appliedFilters : Nat
  /-- The search term, if the search took effect. -/
  searchTerm : Option String

namespace Mapping

/-! ## Columns and joins -/

/-- The name under which the text that identifies a row is selected. -/
def keyAlias : String := "global_key"

/-- The column of a key field, which need not be one of the mapped fields. -/
def keyExpression (mapping : Mapping) (name : String) : Fragment :=
  match mapping.field? name with
  | some field => field.expression
  | none => Fragment.column mapping.aliasName name

/-- A key field as text, empty if it has no value. -/
def keyPart (mapping : Mapping) (name : String) : Fragment :=
  Fragment.call (.call .coalesce)
    (mapping.keyExpression name ++ Fragment.castTo (some "text") ++ Fragment.ofToken .comma
      ++ [.verbatim "''"])

/-- The text that identifies a row: its key fields with colons between them. -/
def keyText (mapping : Mapping) : Fragment :=
  Fragment.call (.call .arrayToString)
    (Fragment.word .array ++ Fragment.ofToken .openBracket
      ++ Fragment.join .comma (mapping.keyFields.map mapping.keyPart)
      ++ Fragment.ofToken .closeBracket ++ Fragment.ofToken .comma ++ [.verbatim "'::'"])

/-- The selected columns. -/
def columns (mapping : Mapping) : List Column :=
  mapping.fields.map (fun field => ⟨field.expression, field.field⟩) ++ [⟨mapping.keyText, keyAlias⟩]

/-- The table of the entity. -/
def source (mapping : Mapping) : Table :=
  ⟨mapping.schema, mapping.table, mapping.aliasName⟩

/-- The joined tables, which lie in the schema of the entity's own. -/
def sqlJoins (mapping : Mapping) : List Join :=
  mapping.joins.map fun join =>
    { kind := if join.required then .inner else .left
      table := ⟨mapping.schema, join.table, join.aliasName⟩
      on := [.verbatim join.on] }

/-! ## Conditions -/

/-- The field that a filter may be applied to. -/
def filterableField? (mapping : Mapping) (name : String) : Option MappedField :=
  (mapping.field? name).filter MappedField.filterable

/-- The conditions of the filters, in their order. -/
def filterConditions (mapping : Mapping) : List Filter → Logged (List Fragment)
  | [] => pure []
  | filter :: rest =>
    match mapping.filterableField? filter.field with
    | none => do
      Logged.report (.dropped .filter filter.field)
      filterConditions mapping rest
    | some field =>
      match field.predicate? filter with
      | .error fault => Logged.reject (fault.rejection filter.field)
      | .ok none => filterConditions mapping rest
      | .ok (some condition) => do
        let conditions ← filterConditions mapping rest
        return condition :: conditions

end Mapping

/-- How many values a security filter asks for. -/
def SecurityFilter.placeholders (filter : SecurityFilter) : Nat :=
  filter.clause.toList.count '?'

/-- The failure of a security filter that has too many values or too few. -/
def SecurityFilter.mismatch (filter : SecurityFilter) : Failure :=
  .execution ("security filter expects " ++ Text.natText filter.placeholders ++ " parameters, "
    ++ Text.natText filter.values.length ++ " supplied")

/-- The condition of a security filter. -/
def SecurityFilter.condition (filter : SecurityFilter) : Fragment :=
  Fragment.ofClause filter.clause filter.values

namespace Mapping

/-- The conditions of the security filters, in their order; an empty clause is none. -/
def securityConditions : List SecurityFilter → Except Failure (List Fragment)
  | [] => .ok []
  | filter :: rest => do
    if filter.placeholders ≠ filter.values.length then throw filter.mismatch
    let conditions ← securityConditions rest
    return if filter.condition.isEmpty then conditions else filter.condition :: conditions

end Mapping

/-- The pattern of a search for a term. -/
def SearchMode.pattern (mode : SearchMode) (term : String) : String :=
  match mode with
  | .anywhere => "%" ++ term ++ "%"
  | .atStart => term ++ "%"
  | .whole => term

/-- Whether a search looks at a field. -/
def Search.covers (search : Search) (field : MappedField) : Bool :=
  field.searchable && match search.fields with
    | none => true
    | some names => names.contains field.field

namespace Mapping

/-- The condition of a search and its term, if the term is not blank and there is a
field to look at. -/
def searchCondition (mapping : Mapping) : Option Search → Logged (Option (Fragment × String))
  | none => pure none
  | some search =>
    let term := Text.trim search.term
    if term.isEmpty then pure none
    else
      let pattern := (search.mode.getD .anywhere).pattern term
      match mapping.fields.filter search.covers with
      | [] => do
        Logged.report (.dropped .search term)
        return none
      | fields =>
        return some
          (Fragment.join (.word .or) (fields.map fun field => field.matchesPattern pattern), term)

/-! ## Ordering -/

/-- The field that a list may be sorted by. -/
def sortableField? (mapping : Mapping) (name : String) : Option MappedField :=
  (mapping.field? name).filter MappedField.sortable

/-- The entry of the ordering for a sort on a field. -/
def orderOf (field : MappedField) (sort : SortKey) : Order :=
  ⟨field.field, field.expression, sort.direction, sort.nulls, field.type.parameterCast⟩

/-- The ordering for the given sorts; of several sorts on one field the first counts.
`taken` are the fields that the ordering has already. -/
def sortOrdering (mapping : Mapping) (taken : List String) : List SortKey → Logged (List Order)
  | [] => pure []
  | sort :: rest =>
    match mapping.sortableField? sort.field with
    | none => do
      Logged.report (.dropped .sort sort.field)
      sortOrdering mapping taken rest
    | some field =>
      if taken.contains field.field then sortOrdering mapping taken rest
      else do
        let ordering ← sortOrdering mapping (field.field :: taken) rest
        return orderOf field sort :: ordering

/-- The sorts that apply: the caller's, or the entity's own if the caller has none. -/
def effectiveSorts (mapping : Mapping) (context : Context) : List SortKey :=
  if context.sorts.isEmpty then mapping.defaultSort else context.sorts

/-! ## The statement -/

/-- The statement for a context. -/
def draft (mapping : Mapping) (context : Context) : Logged Draft := do
  let filters ← mapping.filterConditions context.filters
  let security ← match securityConditions mapping.securityFilters with
    | .ok conditions => pure conditions
    | .error failure => Logged.fail failure
  let search ← mapping.searchCondition context.search
  let ordering ← mapping.sortOrdering [] (mapping.effectiveSorts context)
  return {
    statement := {
      columns := mapping.columns
      source := mapping.source
      joins := mapping.sqlJoins
      conditions := filters ++ security ++ (search.map Prod.fst).toList
      ordering := ordering
      limit := none }
    appliedFilters := filters.length
    searchTerm := search.map Prod.snd }

end Mapping

end ListQuery
