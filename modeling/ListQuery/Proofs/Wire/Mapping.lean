import ListQuery.Proofs.Wire.Application
import ListQuery.Proofs.Wire.Context
import ListQuery.Wire.Mapping

/-!
# Mappings are read back as they are written

All that can get lost of a mapping are doubles among the values of its security filters.
-/

namespace ListQuery

open Wire

/-! ## Fields and joins -/

@[simp]
theorem ColumnType.find?_name (type : ColumnType) :
    ColumnType.all.find? (·.name == type.name) = some type := by
  cases type <;> rfl

theorem MappedField.read?_toDoc (field : MappedField) : read? field.toJson.toDoc = some field := by
  obtain ⟨parts, hparts, hfind, -⟩ := parts?_toDoc field.toJson
    ["field", "column", "tableAlias", "type", "label", "sortable", "filterable", "searchable",
      "reference", "hidden"]
    [("field", some (.text field.field)), ("column", some (.text field.column)),
      ("tableAlias", some (.text field.table)), ("type", some (.text field.type.name)),
      ("label", field.label.map .text), ("sortable", some (.bool field.sortable)),
      ("filterable", some (.bool field.filterable)),
      ("searchable", some (.bool field.searchable)),
      ("reference", field.reference.map (Reference.toJson "entityCode")),
      ("hidden", some (.bool field.hidden))]
    (by simp [toJson]) rfl (by decide)
  rw [read?, hparts]
  simp [hfind, List.lookup_cons, choice?_toDoc, Reference.read?_toDoc]

theorem MappedJoin.read?_toDoc (join : MappedJoin) : read? join.toJson.toDoc = some join := by
  obtain ⟨parts, hparts, hfind, -⟩ := parts?_toDoc join.toJson ["alias", "table", "on", "required"]
    [("alias", some (.text join.aliasName)), ("table", some (.text join.table)),
      ("on", some (.text join.on)), ("required", some (.bool join.required))]
    (by simp [toJson]) rfl (by decide)
  rw [read?, hparts]
  simp [hfind, List.lookup_cons]

/-! ## Security filters -/

namespace SecurityFilter

/-- Whether a filter has the form that reading gives it. -/
def IsNormal (filter : SecurityFilter) : Prop :=
  ∀ value ∈ filter.values, value.isNonFinite = false

theorem isNormal_of_read? {doc : Json.Doc} {filter : SecurityFilter}
    (hread : read? doc = some filter) : filter.IsNormal := by
  obtain ⟨parts, -, hread⟩ := Option.bind_eq_some_iff.mp hread
  obtain ⟨clause, -, hread⟩ := Option.bind_eq_some_iff.mp hread
  obtain ⟨values, hvalues, hread⟩ := Option.bind_eq_some_iff.mp hread
  cases hread
  obtain rfl | ⟨part, -, hlist⟩ := exists_of_withDefault hvalues
  · exact List.forall_mem_nil _
  · exact Scalar.isNonFinite_of_list? hlist

theorem read?_toDoc {filter : SecurityFilter} (hnormal : filter.IsNormal)
    (hfloats : ∀ x ∈ filter.toJson.floats, x.IsReadBack) :
    read? filter.toJson.toDoc = some filter := by
  obtain ⟨parts, hparts, hfind, hmem⟩ := parts?_toDoc filter.toJson ["clause", "params"]
    [("clause", some (.text filter.clause)),
      ("params", some (.array (filter.values.map Scalar.toJson)))]
    (by simp [toJson]) rfl (by decide)
  have hvalues := Scalar.list?_toDoc hnormal fun x hx =>
    hfloats x (hmem "params" _ (by simp) x hx)
  rw [read?, hparts]
  simp [hfind, List.lookup_cons, hvalues]

end SecurityFilter

/-! ## Mappings -/

namespace Mapping

/-- Whether a mapping has the form that reading gives it. -/
def IsNormal (mapping : Mapping) : Prop :=
  ∀ filter ∈ mapping.securityFilters, filter.IsNormal

theorem isNormal_of_read? {doc : Json.Doc} {mapping : Mapping} (hread : read? doc = some mapping) :
    mapping.IsNormal := by
  obtain ⟨parts, -, hread⟩ := Option.bind_eq_some_iff.mp hread
  obtain ⟨schema, -, hread⟩ := Option.bind_eq_some_iff.mp hread
  obtain ⟨table, -, hread⟩ := Option.bind_eq_some_iff.mp hread
  obtain ⟨aliasName, -, hread⟩ := Option.bind_eq_some_iff.mp hread
  obtain ⟨fields, -, hread⟩ := Option.bind_eq_some_iff.mp hread
  obtain ⟨joins, -, hread⟩ := Option.bind_eq_some_iff.mp hread
  obtain ⟨defaultSort, -, hread⟩ := Option.bind_eq_some_iff.mp hread
  obtain ⟨keyFields, -, hread⟩ := Option.bind_eq_some_iff.mp hread
  obtain ⟨securityFilters, hfilters, hread⟩ := Option.bind_eq_some_iff.mp hread
  obtain ⟨inlineEditing, -, hread⟩ := Option.bind_eq_some_iff.mp hread
  cases hread
  intro filter hfilter
  obtain rfl | ⟨part, -, hlist⟩ := exists_of_withDefault hfilters
  · cases hfilter
  · obtain ⟨items, -, item, -, hitem⟩ := exists_of_list? hlist hfilter
    exact SecurityFilter.isNormal_of_read? hitem

theorem read?_toDoc {mapping : Mapping} (hnormal : mapping.IsNormal)
    (hfloats : ∀ x ∈ mapping.toJson.floats, x.IsReadBack) :
    read? mapping.toJson.toDoc = some mapping := by
  obtain ⟨parts, hparts, hfind, hmem⟩ := parts?_toDoc mapping.toJson
    ["schema", "baseTable", "baseAlias", "fields", "joins", "defaultSort", "globalKeyFields",
      "securityFilters", "inlineEditing"]
    [("schema", some (.text mapping.schema)), ("baseTable", some (.text mapping.table)),
      ("baseAlias", some (.text mapping.aliasName)),
      ("fields", some (.array (mapping.fields.map MappedField.toJson))),
      ("joins", some (.array (mapping.joins.map MappedJoin.toJson))),
      ("defaultSort", some (.array (mapping.defaultSort.map SortKey.toJson))),
      ("globalKeyFields", some (Json.ofTexts mapping.keyFields)),
      ("securityFilters", some (.array (mapping.securityFilters.map SecurityFilter.toJson))),
      ("inlineEditing", some (.bool mapping.inlineEditing))]
    (by simp [toJson]) rfl (by decide)
  -- Each list is read back entry by entry.
  have hfields : list? MappedField.read?
      (Json.array (mapping.fields.map MappedField.toJson)).toDoc = some mapping.fields :=
    list?_toDoc fun field _ => MappedField.read?_toDoc field
  have hjoins : list? MappedJoin.read?
      (Json.array (mapping.joins.map MappedJoin.toJson)).toDoc = some mapping.joins :=
    list?_toDoc fun join _ => MappedJoin.read?_toDoc join
  have hsorts : list? SortKey.read?
      (Json.array (mapping.defaultSort.map SortKey.toJson)).toDoc = some mapping.defaultSort :=
    list?_toDoc fun sort _ => SortKey.read?_toDoc sort
  have hfilters : list? SecurityFilter.read?
      (Json.array (mapping.securityFilters.map SecurityFilter.toJson)).toDoc =
        some mapping.securityFilters := by
    refine list?_toDoc fun filter hfilter => SecurityFilter.read?_toDoc (hnormal filter hfilter) ?_
    exact fun x hx => hfloats x (hmem "securityFilters" _ (by simp) x
      (Json.mem_floats_of_mem_array (List.mem_map_of_mem hfilter) hx))
  rw [read?, hparts]
  simp [hfind, List.lookup_cons, hfields, hjoins, hsorts, hfilters]

end Mapping

end ListQuery
