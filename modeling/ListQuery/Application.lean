/-!
# Application definitions

An application declares its entities with their fields, and forms that show
them.  It speaks of codes and kinds only; tables and columns are derived from it
when a list is planned.
-/

namespace ListQuery

/-- Another entity that a field points to. -/
structure Reference where
  entity : String
  /-- The field of that entity that stands for it in a list. -/
  labelField : Option String
deriving DecidableEq

/-- What a declared field holds. -/
inductive FieldKind where
  | string | number | decimal | date | boolean | grid | reference
deriving DecidableEq

/-- A declared field of an entity. -/
structure FieldDefinition where
  code : String
  name : String
  kind : FieldKind
  required : Bool
  reference : Option Reference
deriving DecidableEq

/-- A declared entity. -/
structure EntityDefinition where
  code : String
  name : String
  fields : List FieldDefinition
  inlineEditing : Bool
deriving DecidableEq

/-- The first field with a code. -/
def EntityDefinition.field? (entity : EntityDefinition) (code : String) : Option FieldDefinition :=
  entity.fields.find? (·.code == code)

/-- A field as a form shows it. -/
structure FormField where
  entity : String
  field : String
  widget : Option String
deriving DecidableEq

/-- A form. -/
structure Form where
  code : String
  name : String
  layout : List FormField
deriving DecidableEq

/-- An application. -/
structure Application where
  id : String
  name : String
  entities : List EntityDefinition
  forms : List Form
deriving DecidableEq

/-- The first entity with a code. -/
def Application.entity? (application : Application) (code : String) : Option EntityDefinition :=
  application.entities.find? (·.code == code)

end ListQuery
