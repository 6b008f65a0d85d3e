import ListQuery.Mapping
import ListQuery.Text.CamelCase

/-!
# Deriving the mapping of an entity

The table and the columns of an entity are named after the codes that its
definition uses, in camel case.  Every entity has two columns that are not
declared: the identifier of the row, which is its key, and a marker that hides a
deleted row from everyone.  A declared field with the code of one of these is
left out, and so is a field whose code was declared before.
-/

namespace ListQuery

namespace Mapping

/-! ## Fixed names -/

/-- The schema of all tables. -/
def baseSchema : String := "public"

/-- The alias of an entity's own table. -/
def baseAlias : String := "root"

/-- The field that identifies a row. -/
def idField : String := "id"

/-- The field that marks a row as deleted. -/
def deletionMarker : String := "markedForDeletion"

/-- The fields that a list is sorted by if the caller does not say, the first that is
declared. -/
def defaultSortCandidates : List String := ["updatedAt", "createdAt", "name", "code", "id"]

end Mapping

/-- What the column of a declared field holds. -/
def FieldKind.columnType : FieldKind → ColumnType
  | .string => .string
  | .number | .decimal => .number
  | .date => .date
  | .boolean => .boolean
  | .grid => .json
  | .reference => .reference

/-- The mapping of a declared field.  A grid has no order and cannot be part of a
cursor, so a list is not sorted by one. -/
def FieldDefinition.mapped (field : FieldDefinition) : MappedField where
  field := field.code
  column := Text.lowerCamelCase field.code
  table := Mapping.baseAlias
  type := field.kind.columnType
  label := some field.name
  sortable := field.kind.columnType ≠ .json
  filterable := true
  searchable := field.kind.columnType = .string
  reference := field.reference
  hidden := false

/-- The mapping of a field that every entity has. -/
def MappedField.builtIn (name : String) (type : ColumnType) (sortable : Bool) : MappedField where
  field := name
  column := name
  table := Mapping.baseAlias
  type := type
  label := none
  sortable := sortable
  filterable := true
  searchable := false
  reference := none
  hidden := true

/-- The fields of which no earlier one has the same name; `taken` are names that no
field may have. -/
def MappedField.firstOfEachName (taken : List String) : List MappedField → List MappedField
  | [] => []
  | field :: rest =>
    if taken.contains field.field then firstOfEachName taken rest
    else field :: firstOfEachName (field.field :: taken) rest

namespace EntityDefinition

/-- The fields of an entity and their columns. -/
def mappedFields (entity : EntityDefinition) : List MappedField :=
  MappedField.firstOfEachName [] (MappedField.builtIn Mapping.idField .string true
    :: MappedField.builtIn Mapping.deletionMarker .boolean false
    :: entity.fields.map FieldDefinition.mapped)

/-- The sort of an entity's list if the caller does not give one. -/
def defaultSort (entity : EntityDefinition) : List SortKey :=
  let preferred := Mapping.defaultSortCandidates.findSome? entity.field?
  match preferred.or entity.fields.head? with
  | some field => [SortKey.ascending field.code]
  | none => []

/-- The condition that hides deleted rows. -/
def deletionFilter : SecurityFilter :=
  ⟨Mapping.baseAlias ++ ".\"" ++ Mapping.deletionMarker ++ "\" = FALSE", []⟩

/-- The mapping of an entity. -/
def mapping (entity : EntityDefinition) : Mapping where
  schema := Mapping.baseSchema
  table := Text.upperCamelCase entity.code
  aliasName := Mapping.baseAlias
  fields := entity.mappedFields
  joins := []
  defaultSort := entity.defaultSort
  keyFields := [Mapping.idField]
  securityFilters := [deletionFilter]
  inlineEditing := entity.inlineEditing

end EntityDefinition

end ListQuery
