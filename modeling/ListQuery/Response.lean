import ListQuery.Mapping

/-!
# What a list answers with
-/

namespace ListQuery

/-- A row of a result: the values under the names of its columns. -/
abbrev Row := List (String × Json)

/-- A row with the cursor that stands for its place in the list. -/
structure ResponseRow where
  cursor : String
  values : Row

/-- How the page lies in the list. -/
structure PageInfo where
  hasNextPage : Bool
  hasPreviousPage : Bool
  /-- The cursor of the first row. -/
  startCursor : Option String
  /-- The cursor of the last row. -/
  endCursor : Option String
deriving DecidableEq

/-- A column of the list. -/
structure ResponseColumn where
  field : String
  label : String
  type : ColumnType
  width : Option UInt32
  sortable : Bool
  filterable : Bool
  reference : Option Reference
deriving DecidableEq

/-- What of the request took effect. -/
structure ResponseSummary where
  appliedFilters : UInt64
  searchTerm : Option String
deriving DecidableEq

/-- A page of a list. -/
structure Response where
  entityCode : String
  listCode : String
  columns : List ResponseColumn
  rows : List ResponseRow
  pageInfo : PageInfo
  summary : Option ResponseSummary
  /-- Whether the list's own amendment was applied. -/
  customQueryApplied : Option Bool
  /-- Whether rows may be edited in the list. -/
  inlineEditing : Option Bool

end ListQuery
