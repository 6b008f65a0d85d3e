import ListQuery.Application
import ListQuery.Wire.Document

/-!
# Application definitions as documents

Definitions come as JSON texts and as configuration files, and the readers here
serve both.
-/

namespace ListQuery

open Wire

/-! ## Fields -/

namespace FieldKind

/-- Every kind. -/
def all : List FieldKind :=
  [.string, .number, .decimal, .date, .boolean, .grid, .reference]

/-- The name of a kind in a definition. -/
def name : FieldKind → String
  | .string => "string"
  | .number => "number"
  | .decimal => "decimal"
  | .date => "date"
  | .boolean => "boolean"
  | .grid => "grid"
  | .reference => "reference"

end FieldKind

/-- The reference that a document is; `entityName` is the member that holds the
entity. -/
def Reference.read? {σ : Type} [Document σ] (entityName : String) (value : σ) :
    Option Reference := do
  let parts ← parts? [entityName, "labelField"] value
  let entity ← parts.required entityName text?
  let labelField ← parts.optional "labelField" text?
  return ⟨entity, labelField⟩

/-- The JSON value of a reference. -/
def Reference.toJson (entityName : String) (reference : Reference) : Json :=
  .object
    ([(entityName, .text reference.entity)] ++ memberOf? "labelField" .text reference.labelField)

/-- The field that a document declares. -/
def FieldDefinition.read? {σ : Type} [Document σ] (value : σ) : Option FieldDefinition := do
  let parts ← parts? ["code", "name", "type", "required", "reference"] value
  let code ← parts.required "code" text?
  let name ← parts.required "name" text?
  let kind ← parts.withDefault "type" .string (choice? FieldKind.all FieldKind.name)
  let required ← parts.withDefault "required" false bool?
  let reference ← parts.optional "reference" (Reference.read? "entity")
  return ⟨code, name, kind, required, reference⟩

/-- The JSON value of a declared field. -/
def FieldDefinition.toJson (field : FieldDefinition) : Json :=
  .object ([("code", .text field.code), ("name", .text field.name), ("type", .text field.kind.name),
      ("required", .bool field.required)]
    ++ memberOf? "reference" (Reference.toJson "entity") field.reference)

/-! ## Entities and forms -/

/-- The entity that a document declares. -/
def EntityDefinition.read? {σ : Type} [Document σ] (value : σ) : Option EntityDefinition := do
  let parts ← parts? ["code", "name", "fields", "listInlineEditing"] value
  let code ← parts.required "code" text?
  let name ← parts.required "name" text?
  let fields ← parts.required "fields" (list? FieldDefinition.read?)
  let inlineEditing ← parts.withDefault "listInlineEditing" false bool?
  return ⟨code, name, fields, inlineEditing⟩

/-- The JSON value of a declared entity. -/
def EntityDefinition.toJson (entity : EntityDefinition) : Json :=
  .object [("code", .text entity.code), ("name", .text entity.name),
    ("fields", .array (entity.fields.map FieldDefinition.toJson)),
    ("listInlineEditing", .bool entity.inlineEditing)]

/-- The field of a form that a document declares. -/
def FormField.read? {σ : Type} [Document σ] (value : σ) : Option FormField := do
  let parts ← parts? ["entity", "field", "widget"] value
  let entity ← parts.required "entity" text?
  let field ← parts.required "field" text?
  let widget ← parts.optional "widget" text?
  return ⟨entity, field, widget⟩

/-- The JSON value of a field of a form. -/
def FormField.toJson (field : FormField) : Json :=
  .object ([("entity", .text field.entity), ("field", .text field.field)]
    ++ memberOf? "widget" .text field.widget)

/-- The form that a document declares. -/
def Form.read? {σ : Type} [Document σ] (value : σ) : Option Form := do
  let parts ← parts? ["code", "name", "layout"] value
  let code ← parts.required "code" text?
  let name ← parts.required "name" text?
  let layout ← parts.withDefault "layout" [] (list? FormField.read?)
  return ⟨code, name, layout⟩

/-- The JSON value of a form. -/
def Form.toJson (form : Form) : Json :=
  .object [("code", .text form.code), ("name", .text form.name),
    ("layout", .array (form.layout.map FormField.toJson))]

/-! ## Applications -/

/-- The application that a document declares. -/
def Application.read? {σ : Type} [Document σ] (value : σ) : Option Application := do
  let parts ← parts? ["appId", "name", "entities", "forms"] value
  let id ← parts.required "appId" text?
  let name ← parts.required "name" text?
  let entities ← parts.required "entities" (list? EntityDefinition.read?)
  let forms ← parts.withDefault "forms" [] (list? Form.read?)
  return ⟨id, name, entities, forms⟩

/-- The JSON value of an application. -/
def Application.toJson (application : Application) : Json :=
  .object [("appId", .text application.id), ("name", .text application.name),
    ("entities", .array (application.entities.map EntityDefinition.toJson)),
    ("forms", .array (application.forms.map Form.toJson))]

end ListQuery
