import ListQuery.Mapping
import ListQuery.Wire.Application
import ListQuery.Wire.Context

/-!
# Mappings as documents
-/

namespace ListQuery

open Wire

namespace ColumnType

/-- Every type. -/
def all : List ColumnType :=
  [.string, .number, .boolean, .datetime, .date, .enumeration, .reference, .json]

/-- The name of a type. -/
def name : ColumnType → String
  | .string => "string"
  | .number => "number"
  | .boolean => "boolean"
  | .datetime => "datetime"
  | .date => "date"
  | .enumeration => "enum"
  | .reference => "reference"
  | .json => "json"

end ColumnType

/-- The mapped field that a document is. -/
def MappedField.read? {σ : Type} [Document σ] (value : σ) : Option MappedField := do
  let parts ← parts? ["field", "column", "tableAlias", "type", "label", "sortable", "filterable",
    "searchable", "reference", "hidden"] value
  let field ← parts.required "field" text?
  let column ← parts.required "column" text?
  let table ← parts.required "tableAlias" text?
  let type ← parts.required "type" (choice? ColumnType.all ColumnType.name)
  let label ← parts.optional "label" text?
  let sortable ← parts.withDefault "sortable" false bool?
  let filterable ← parts.withDefault "filterable" false bool?
  let searchable ← parts.withDefault "searchable" false bool?
  let reference ← parts.optional "reference" (Reference.read? "entityCode")
  let hidden ← parts.withDefault "hidden" false bool?
  return ⟨field, column, table, type, label, sortable, filterable, searchable, reference, hidden⟩

/-- The JSON value of a mapped field. -/
def MappedField.toJson (field : MappedField) : Json :=
  .object ([("field", .text field.field), ("column", .text field.column),
      ("tableAlias", .text field.table), ("type", .text field.type.name)]
    ++ memberOf? "label" .text field.label
    ++ [("sortable", .bool field.sortable), ("filterable", .bool field.filterable),
      ("searchable", .bool field.searchable)]
    ++ memberOf? "reference" (Reference.toJson "entityCode") field.reference
    ++ [("hidden", .bool field.hidden)])

/-- The join that a document is. -/
def MappedJoin.read? {σ : Type} [Document σ] (value : σ) : Option MappedJoin := do
  let parts ← parts? ["alias", "table", "on", "required"] value
  let aliasName ← parts.required "alias" text?
  let table ← parts.required "table" text?
  let on ← parts.required "on" text?
  let required ← parts.withDefault "required" false bool?
  return ⟨aliasName, table, on, required⟩

/-- The JSON value of a join. -/
def MappedJoin.toJson (join : MappedJoin) : Json :=
  .object [("alias", .text join.aliasName), ("table", .text join.table), ("on", .text join.on),
    ("required", .bool join.required)]

/-- The security filter that a document is. -/
def SecurityFilter.read? {σ : Type} [Document σ] (value : σ) : Option SecurityFilter := do
  let parts ← parts? ["clause", "params"] value
  let clause ← parts.required "clause" text?
  let values ← parts.withDefault "params" [] (list? Scalar.read?)
  return ⟨clause, values⟩

/-- The JSON value of a security filter. -/
def SecurityFilter.toJson (filter : SecurityFilter) : Json :=
  .object [("clause", .text filter.clause), ("params", .array (filter.values.map Scalar.toJson))]

/-- The mapping that a document is. -/
def Mapping.read? {σ : Type} [Document σ] (value : σ) : Option Mapping := do
  let parts ← parts? ["schema", "baseTable", "baseAlias", "fields", "joins", "defaultSort",
    "globalKeyFields", "securityFilters", "inlineEditing"] value
  let schema ← parts.required "schema" text?
  let table ← parts.required "baseTable" text?
  let aliasName ← parts.required "baseAlias" text?
  let fields ← parts.required "fields" (list? MappedField.read?)
  let joins ← parts.withDefault "joins" [] (list? MappedJoin.read?)
  let defaultSort ← parts.withDefault "defaultSort" [] (list? SortKey.read?)
  let keyFields ← parts.required "globalKeyFields" (list? text?)
  let securityFilters ← parts.withDefault "securityFilters" [] (list? SecurityFilter.read?)
  let inlineEditing ← parts.withDefault "inlineEditing" false bool?
  return ⟨schema, table, aliasName, fields, joins, defaultSort, keyFields, securityFilters,
    inlineEditing⟩

/-- The JSON value of a mapping. -/
def Mapping.toJson (mapping : Mapping) : Json :=
  .object [("schema", .text mapping.schema), ("baseTable", .text mapping.table),
    ("baseAlias", .text mapping.aliasName),
    ("fields", .array (mapping.fields.map MappedField.toJson)),
    ("joins", .array (mapping.joins.map MappedJoin.toJson)),
    ("defaultSort", .array (mapping.defaultSort.map SortKey.toJson)),
    ("globalKeyFields", Json.ofTexts mapping.keyFields),
    ("securityFilters", .array (mapping.securityFilters.map SecurityFilter.toJson)),
    ("inlineEditing", .bool mapping.inlineEditing)]

end ListQuery
