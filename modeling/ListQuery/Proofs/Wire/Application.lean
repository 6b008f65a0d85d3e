import ListQuery.Proofs.Wire.Document
import ListQuery.Wire.Application

/-!
# Applications are read back as they are written

Nothing in an application is kept as it is and nothing in it is a number, so every
application is read back (`Application.read?_toDoc`).  There is one such statement for each
of its parts, and each follows from those of the parts it has itself.
-/

namespace ListQuery

open Wire

/-! ## Fields -/

@[simp]
theorem FieldKind.find?_name (kind : FieldKind) :
    FieldKind.all.find? (·.name == kind.name) = some kind := by
  cases kind <;> rfl

@[simp]
theorem Reference.nullable?_toDoc {α : Type} {read : Json.Doc → Option α} {entityName : String}
    (reference : Reference) : nullable? read (reference.toJson entityName).toDoc =
      (read (reference.toJson entityName).toDoc).map some := rfl

/-- A reference is read back, whatever the name of its entity is but that of its label. -/
theorem Reference.read?_toDoc {entityName : String} (hname : entityName ≠ "labelField")
    (reference : Reference) :
    read? entityName (reference.toJson entityName).toDoc = some reference := by
  have hlabel : ("labelField" == entityName) = false := beq_eq_false_iff_ne.mpr hname.symm
  obtain ⟨parts, hparts, hfind, -⟩ := parts?_toDoc (reference.toJson entityName)
    [entityName, "labelField"]
    [(entityName, some (.text reference.entity)), ("labelField", reference.labelField.map .text)]
    (by simp [toJson]) rfl (by simpa using hname)
  rw [read?, hparts]
  simp [hfind, List.lookup_cons, hlabel]

theorem FieldDefinition.read?_toDoc (field : FieldDefinition) :
    read? field.toJson.toDoc = some field := by
  obtain ⟨parts, hparts, hfind, -⟩ := parts?_toDoc field.toJson
    ["code", "name", "type", "required", "reference"]
    [("code", some (.text field.code)), ("name", some (.text field.name)),
      ("type", some (.text field.kind.name)), ("required", some (.bool field.required)),
      ("reference", field.reference.map (Reference.toJson "entity"))]
    (by simp [toJson]) rfl (by decide)
  rw [read?, hparts]
  simp [hfind, List.lookup_cons, choice?_toDoc, Reference.read?_toDoc]

/-! ## Entities and forms -/

theorem EntityDefinition.read?_toDoc (entity : EntityDefinition) :
    read? entity.toJson.toDoc = some entity := by
  obtain ⟨parts, hparts, hfind, -⟩ := parts?_toDoc entity.toJson
    ["code", "name", "fields", "listInlineEditing"]
    [("code", some (.text entity.code)), ("name", some (.text entity.name)),
      ("fields", some (.array (entity.fields.map FieldDefinition.toJson))),
      ("listInlineEditing", some (.bool entity.inlineEditing))]
    (by simp [toJson]) rfl (by decide)
  rw [read?, hparts]
  simp [hfind, List.lookup_cons, list?_toDoc fun field _ => FieldDefinition.read?_toDoc field]

theorem FormField.read?_toDoc (field : FormField) : read? field.toJson.toDoc = some field := by
  obtain ⟨parts, hparts, hfind, -⟩ := parts?_toDoc field.toJson ["entity", "field", "widget"]
    [("entity", some (.text field.entity)), ("field", some (.text field.field)),
      ("widget", field.widget.map .text)]
    (by simp [toJson]) rfl (by decide)
  rw [read?, hparts]
  simp [hfind, List.lookup_cons]

theorem Form.read?_toDoc (form : Form) : read? form.toJson.toDoc = some form := by
  obtain ⟨parts, hparts, hfind, -⟩ := parts?_toDoc form.toJson ["code", "name", "layout"]
    [("code", some (.text form.code)), ("name", some (.text form.name)),
      ("layout", some (.array (form.layout.map FormField.toJson)))]
    (by simp [toJson]) rfl (by decide)
  rw [read?, hparts]
  simp [hfind, List.lookup_cons, list?_toDoc fun field _ => FormField.read?_toDoc field]

/-! ## Applications -/

/-- Every application is read back. -/
theorem Application.read?_toDoc (application : Application) :
    read? application.toJson.toDoc = some application := by
  obtain ⟨parts, hparts, hfind, -⟩ := parts?_toDoc application.toJson
    ["appId", "name", "entities", "forms"]
    [("appId", some (.text application.id)), ("name", some (.text application.name)),
      ("entities", some (.array (application.entities.map EntityDefinition.toJson))),
      ("forms", some (.array (application.forms.map Form.toJson)))]
    (by simp [toJson]) rfl (by decide)
  rw [read?, hparts]
  simp [hfind, List.lookup_cons, list?_toDoc fun entity _ => EntityDefinition.read?_toDoc entity,
    list?_toDoc fun form _ => Form.read?_toDoc form]

end ListQuery
