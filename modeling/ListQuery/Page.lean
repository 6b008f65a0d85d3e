import ListQuery.Plan
import ListQuery.Response

/-!
# From rows to a page

A plan selects one row more than a page holds.  Whether that row came tells
whether there is a further page; it is then dropped.  The rows of a page that
precedes its cursor come in reverse and are turned round.  Each row gets a cursor
of its own.
-/

namespace ListQuery

/-- The failure of a result without a column that is needed. -/
def missingColumn (field : String) : Failure :=
  .execution ("result row is missing column " ++ field)

/-- The failure of a result with a value that a cursor cannot hold. -/
def notScalar (field : String) : Failure :=
  .execution ("Field " ++ field ++ " is not a primitive and cannot be used in cursor encoding")

/-- The scalar that a row has in a column. -/
def Row.scalarAt (row : Row) (field : String) : Except Failure Scalar :=
  match Json.member? field row with
  | none => .error (missingColumn field)
  | some value =>
    match Scalar.ofJson? value with
    | none => .error (notScalar field)
    | some scalar => .ok scalar

namespace Plan

/-- The place of a row in the planned list. -/
def place (plan : Plan) (row : Row) : Except Failure RowKey := do
  let key ← plan.mapping.keyFields.mapM row.scalarAt
  let sort ← plan.statement.ordering.mapM fun order => row.scalarAt order.field
  return ⟨plan.entityCode, key, sort⟩

/-- The cursor of a row in the planned list. -/
def cursor (plan : Plan) (row : Row) : Except Failure String := do
  match (← plan.place row).cursor? with
  | .ok cursor => return cursor
  | .error fault => throw (.execution fault.message)

/-- A row with its cursor. -/
def responseRow (plan : Plan) (row : Row) : Except Failure ResponseRow := do
  return ⟨← plan.cursor row, row⟩

/-- The columns of the list. -/
def responseColumns (plan : Plan) : List ResponseColumn :=
  plan.mapping.visibleFields.map fun field =>
    { field := field.field
      label := field.displayLabel
      type := field.type
      width := none
      sortable := field.sortable
      filterable := field.filterable
      reference := field.reference }

/-- The rows that belong to the page, in the order of the list. -/
def pageRows (context : Context) (fetched : List Row) : List Row :=
  -- The row too many only tells that there is a further page.
  let rows := fetched.take context.page.limit.toNat
  match context.page.direction with
  | .forward => rows
  | .backward => rows.reverse

/-- The page that a context asked for, from the rows that its plan selected. -/
def shape (plan : Plan) (context : Context) (fetched : List Row) : Except Failure Response := do
  let rows ← (pageRows context fetched).mapM plan.responseRow
  return {
    entityCode := plan.entityCode
    listCode := plan.listCode
    columns := plan.responseColumns
    rows := rows
    pageInfo := {
      hasNextPage := context.page.limit.toNat < fetched.length
      hasPreviousPage := context.activeCursor.isSome
      startCursor := rows.head?.map ResponseRow.cursor
      endCursor := rows.getLast?.map ResponseRow.cursor }
    summary := some ⟨UInt64.ofNat plan.appliedFilters, plan.searchTerm⟩
    customQueryApplied := some plan.customQueryApplied
    inlineEditing := some plan.mapping.inlineEditing }

end Plan

end ListQuery
