import ListQuery.Response
import ListQuery.Wire.Mapping

/-!
# Responses and rejections as documents

The values of a row and the details of an error are kept whatever they are.  In
the text of a response three brackets enclose the values of a row, and in the
text of an error one encloses its details.
-/

namespace ListQuery

open Wire

/-! ## Rows and columns -/

/-- The row that a document is. -/
def ResponseRow.read? {σ : Type} [JsonDocument σ] (value : σ) : Option ResponseRow := do
  let parts ← parts? ["cursor", "values"] value
  let cursor ← parts.required "cursor" text?
  let values ← parts.required "values" (jsonObject? 3)
  return ⟨cursor, values⟩

/-- The JSON value of a row. -/
def ResponseRow.toJson (row : ResponseRow) : Json :=
  .object [("cursor", .text row.cursor), ("values", .object row.values)]

/-- The column that a document is. -/
def ResponseColumn.read? {σ : Type} [Document σ] (value : σ) : Option ResponseColumn := do
  let parts ←
    parts? ["field", "label", "type", "width", "sortable", "filterable", "reference"] value
  let field ← parts.required "field" text?
  let label ← parts.required "label" text?
  let type ← parts.required "type" (choice? ColumnType.all ColumnType.name)
  let width ← parts.optional "width" uint32?
  let sortable ← parts.withDefault "sortable" false bool?
  let filterable ← parts.withDefault "filterable" false bool?
  let reference ← parts.optional "reference" (Reference.read? "entityCode")
  return ⟨field, label, type, width, sortable, filterable, reference⟩

/-- The JSON value of a column. -/
def ResponseColumn.toJson (column : ResponseColumn) : Json :=
  .object ([("field", .text column.field), ("label", .text column.label),
      ("type", .text column.type.name)]
    ++ memberOf? "width" (fun width => .ofNat width.toNat) column.width
    ++ [("sortable", .bool column.sortable), ("filterable", .bool column.filterable)]
    ++ memberOf? "reference" (Reference.toJson "entityCode") column.reference)

/-! ## Pages -/

/-- What a document says about the place of a page. -/
def PageInfo.read? {σ : Type} [Document σ] (value : σ) : Option PageInfo := do
  let parts ← parts? ["hasNextPage", "hasPreviousPage", "startCursor", "endCursor"] value
  let hasNextPage ← parts.required "hasNextPage" bool?
  let hasPreviousPage ← parts.required "hasPreviousPage" bool?
  let startCursor ← parts.optionalByName "startCursor" text?
  let endCursor ← parts.optionalByName "endCursor" text?
  return ⟨hasNextPage, hasPreviousPage, startCursor, endCursor⟩

/-- The JSON value of the place of a page. -/
def PageInfo.toJson (info : PageInfo) : Json :=
  .object [("hasNextPage", .bool info.hasNextPage), ("hasPreviousPage", .bool info.hasPreviousPage),
    ("startCursor", Json.ofText? info.startCursor), ("endCursor", Json.ofText? info.endCursor)]

/-- The summary that a document is. -/
def ResponseSummary.read? {σ : Type} [Document σ] (value : σ) : Option ResponseSummary := do
  let parts ← parts? ["appliedFilters", "searchTerm"] value
  let appliedFilters ← parts.required "appliedFilters" uint64?
  let searchTerm ← parts.optional "searchTerm" text?
  return ⟨appliedFilters, searchTerm⟩

/-- The JSON value of a summary. -/
def ResponseSummary.toJson (summary : ResponseSummary) : Json :=
  .object ([("appliedFilters", .ofNat summary.appliedFilters.toNat)]
    ++ memberOf? "searchTerm" .text summary.searchTerm)

/-- A structure whose only member is a truth value. -/
def flag? {σ : Type} [Document σ] (name : String) (value : σ) : Option Bool := do
  let parts ← parts? [name] value
  parts.required name bool?

/-- The response that a document is. -/
def Response.read? {σ : Type} [JsonDocument σ] (value : σ) : Option Response := do
  let parts ← parts? ["entityCode", "listCode", "columns", "rows", "pageInfo", "summary", "debug",
    "capabilities"] value
  let entityCode ← parts.required "entityCode" text?
  let listCode ← parts.required "listCode" text?
  let columns ← parts.required "columns" (list? ResponseColumn.read?)
  let rows ← parts.required "rows" (list? ResponseRow.read?)
  let pageInfo ← parts.required "pageInfo" PageInfo.read?
  let summary ← parts.optional "summary" ResponseSummary.read?
  let customQueryApplied ← parts.optional "debug" (flag? "customQueryApplied")
  let inlineEditing ← parts.optional "capabilities" (flag? "inlineEditing")
  return ⟨entityCode, listCode, columns, rows, pageInfo, summary, customQueryApplied, inlineEditing⟩

/-- The JSON value of a response. -/
def Response.toJson (response : Response) : Json :=
  .object ([("entityCode", .text response.entityCode), ("listCode", .text response.listCode),
      ("columns", .array (response.columns.map ResponseColumn.toJson)),
      ("rows", .array (response.rows.map ResponseRow.toJson)),
      ("pageInfo", response.pageInfo.toJson)]
    ++ memberOf? "summary" ResponseSummary.toJson response.summary
    ++ memberOf? "debug" (fun applied => .object [("customQueryApplied", .bool applied)])
      response.customQueryApplied
    ++ memberOf? "capabilities" (fun editing => .object [("inlineEditing", .bool editing)])
      response.inlineEditing)

/-! ## Errors -/

/-- The rejection that a document is. -/
def Rejection.read? {σ : Type} [JsonDocument σ] (value : σ) : Option Rejection := do
  let parts ← parts? ["message", "field", "details"] value
  let message ← parts.required "message" text?
  let field ← parts.optional "field" text?
  let details ← parts.optional "details" (json? 1)
  return ⟨message, field, details⟩

/-- The JSON value of a rejection. -/
def Rejection.toJson (rejection : Rejection) : Json :=
  .object ([("message", .text rejection.message)]
    ++ memberOf? "field" .text rejection.field
    ++ memberOf? "details" id rejection.details)

/-- The error body that a document is. -/
def ErrorBody.read? {σ : Type} [JsonDocument σ] (value : σ) : Option ErrorBody := do
  let parts ← parts? ["error", "message", "details"] value
  let error ← parts.required "error" text?
  let message ← parts.required "message" text?
  let details ← parts.optional "details" (json? 1)
  return ⟨error, message, details⟩

/-- The JSON value of an error body. -/
def ErrorBody.toJson (body : ErrorBody) : Json :=
  .object ([("error", .text body.error), ("message", .text body.message)]
    ++ memberOf? "details" id body.details)

end ListQuery
