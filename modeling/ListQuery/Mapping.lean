import ListQuery.Application
import ListQuery.Context

/-!
# The physical side of an entity

A mapping says in which table and columns the fields of an entity live, which of
them may be filtered, sorted and searched, and which conditions hold for every
row that anyone may see.
-/

namespace ListQuery

/-- What a column holds. -/
inductive ColumnType where
  | string | number | boolean | datetime | date | enumeration | reference | json
deriving DecidableEq

namespace ColumnType

/-- Whether the column can be matched against a pattern as it is. -/
def isTextual : ColumnType → Bool
  | .string | .enumeration | .reference => true
  | .number | .boolean | .datetime | .date | .json => false

/-- The database type that a value compared with the column is converted to. -/
def parameterCast : ColumnType → Option String
  | .number => some "numeric"
  | .date => some "date"
  | .datetime => some "timestamp"
  | .string | .boolean | .enumeration | .reference | .json => none

end ColumnType

/-- A field and the column it lives in. -/
structure MappedField where
  field : String
  column : String
  /-- The alias of the table that has the column. -/
  table : String
  type : ColumnType
  label : Option String
  sortable : Bool
  filterable : Bool
  searchable : Bool
  reference : Option Reference
  hidden : Bool
deriving DecidableEq

/-- What a list calls the field. -/
def MappedField.displayLabel (field : MappedField) : String :=
  field.label.getD field.field

/-- A table that the list joins. -/
structure MappedJoin where
  aliasName : String
  table : String
  on : String
  /-- Whether rows without a partner are left out. -/
  required : Bool
deriving DecidableEq

/-- A condition that holds for every visible row.  Question marks in the clause
stand for the values. -/
structure SecurityFilter where
  clause : String
  values : List Scalar
deriving DecidableEq

/-- The physical side of an entity. -/
structure Mapping where
  schema : String
  table : String
  aliasName : String
  fields : List MappedField
  joins : List MappedJoin
  defaultSort : List SortKey
  /-- The fields that identify a row. -/
  keyFields : List String
  securityFilters : List SecurityFilter
  inlineEditing : Bool
deriving DecidableEq

/-- The first field with a name. -/
def Mapping.field? (mapping : Mapping) (name : String) : Option MappedField :=
  mapping.fields.find? (·.field == name)

/-- The fields that a list shows. -/
def Mapping.visibleFields (mapping : Mapping) : List MappedField :=
  mapping.fields.filter fun field => !field.hidden

end ListQuery
