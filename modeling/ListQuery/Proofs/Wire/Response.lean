import ListQuery.Proofs.Wire.Mapping
import ListQuery.Wire.Response

/-!
# Responses and errors are read back as they are written

The values of a row and the details of an error are kept as they are.  What has been read
of them from a plain document is read again.
-/

namespace ListQuery

open Wire

/-! ## Columns and pages -/

theorem ResponseColumn.read?_toDoc (column : ResponseColumn) :
    read? column.toJson.toDoc = some column := by
  obtain ⟨parts, hparts, hfind, -⟩ := parts?_toDoc column.toJson
    ["field", "label", "type", "width", "sortable", "filterable", "reference"]
    [("field", some (.text column.field)), ("label", some (.text column.label)),
      ("type", some (.text column.type.name)),
      ("width", column.width.map fun width => .ofNat width.toNat),
      ("sortable", some (.bool column.sortable)), ("filterable", some (.bool column.filterable)),
      ("reference", column.reference.map (Reference.toJson "entityCode"))]
    (by simp [toJson]) rfl (by decide)
  rw [read?, hparts]
  simp [hfind, List.lookup_cons, choice?_toDoc, Reference.read?_toDoc]

theorem PageInfo.read?_toDoc (info : PageInfo) : read? info.toJson.toDoc = some info := by
  obtain ⟨parts, hparts, hfind, -⟩ := parts?_toDoc info.toJson
    ["hasNextPage", "hasPreviousPage", "startCursor", "endCursor"]
    [("hasNextPage", some (.bool info.hasNextPage)),
      ("hasPreviousPage", some (.bool info.hasPreviousPage)),
      ("startCursor", some (Json.ofText? info.startCursor)),
      ("endCursor", some (Json.ofText? info.endCursor))]
    (by simp [toJson]) rfl (by decide)
  rw [read?, hparts]
  simp [hfind, List.lookup_cons, Parts.optionalByName_of_find? (hfind "startCursor"),
    Parts.optionalByName_of_find? (hfind "endCursor")]

@[simp]
theorem ResponseSummary.nullable?_toDoc {α : Type} {read : Json.Doc → Option α}
    (summary : ResponseSummary) :
    nullable? read summary.toJson.toDoc = (read summary.toJson.toDoc).map some := rfl

theorem ResponseSummary.read?_toDoc (summary : ResponseSummary) :
    read? summary.toJson.toDoc = some summary := by
  obtain ⟨parts, hparts, hfind, -⟩ := parts?_toDoc summary.toJson ["appliedFilters", "searchTerm"]
    [("appliedFilters", some (.ofNat summary.appliedFilters.toNat)),
      ("searchTerm", summary.searchTerm.map .text)]
    (by simp [toJson]) rfl (by decide)
  rw [read?, hparts]
  simp [hfind, List.lookup_cons]

theorem flag?_toDoc (name : String) (value : Bool) :
    flag? name (Json.object [(name, .bool value)]).toDoc = some value := by
  obtain ⟨parts, hparts, hfind, -⟩ := parts?_toDoc (.object [(name, .bool value)]) [name]
    [(name, some (.bool value))] rfl rfl (by simp)
  rw [flag?, hparts]
  simp [hfind]

/-! ## Rows -/

namespace ResponseRow

/-- Whether the values of a row are plain in a document. -/
def keepsPlain (doc : Json.Doc) : Bool :=
  partIs ["cursor", "values"] "values" Json.Doc.isPlainBelow doc

/-- Whether a row has the form that reading gives it. -/
def IsNormal (row : ResponseRow) : Prop :=
  Json.AreNormal (Json.maximumNesting - 3 - 1) row.values

theorem isNormal_of_read? {doc : Json.Doc} {row : ResponseRow} (hread : read? doc = some row)
    (hplain : keepsPlain doc = true) : row.IsNormal := by
  obtain ⟨parts, hparts, hread⟩ := Option.bind_eq_some_iff.mp hread
  obtain ⟨cursor, -, hread⟩ := Option.bind_eq_some_iff.mp hread
  obtain ⟨values, hvalues, hread⟩ := Option.bind_eq_some_iff.mp hread
  cases hread
  obtain ⟨part, hpart, hvalues⟩ := Option.bind_eq_some_iff.mp hvalues
  exact areNormal_of_jsonObject? (by decide) (of_partIs hplain hparts hpart) hvalues

theorem read?_toDoc {row : ResponseRow} (hnormal : row.IsNormal)
    (hfloats : ∀ x ∈ row.toJson.floats, x.IsReadBack) :
    read? row.toJson.toDoc = some row := by
  obtain ⟨parts, hparts, hfind, hmem⟩ := parts?_toDoc row.toJson ["cursor", "values"]
    [("cursor", some (.text row.cursor)), ("values", some (.object row.values))]
    (by simp [toJson]) rfl (by decide)
  have hvalues : jsonObject? 3 (Json.object row.values).toDoc = some row.values :=
    jsonObject?_toDoc (by decide) hnormal fun x hx => hfloats x (hmem "values" _ (by simp) x hx)
  rw [read?, hparts]
  simp [hfind, List.lookup_cons, hvalues]

end ResponseRow

/-! ## Responses -/

namespace Response

/-- Whether the values of all rows of a response are plain in a document. -/
def keepsPlain (doc : Json.Doc) : Bool :=
  partIs ["entityCode", "listCode", "columns", "rows", "pageInfo", "summary", "debug",
    "capabilities"] "rows"
    (fun rows => match rows with
      | .array rows => rows.all ResponseRow.keepsPlain
      | _ => true)
    doc

/-- Whether a response has the form that reading gives it. -/
def IsNormal (response : Response) : Prop :=
  ∀ row ∈ response.rows, row.IsNormal

theorem isNormal_of_read? {doc : Json.Doc} {response : Response} (hread : read? doc = some response)
    (hplain : keepsPlain doc = true) : response.IsNormal := by
  obtain ⟨parts, hparts, hread⟩ := Option.bind_eq_some_iff.mp hread
  obtain ⟨entityCode, -, hread⟩ := Option.bind_eq_some_iff.mp hread
  obtain ⟨listCode, -, hread⟩ := Option.bind_eq_some_iff.mp hread
  obtain ⟨columns, -, hread⟩ := Option.bind_eq_some_iff.mp hread
  obtain ⟨rows, hrows, hread⟩ := Option.bind_eq_some_iff.mp hread
  obtain ⟨pageInfo, -, hread⟩ := Option.bind_eq_some_iff.mp hread
  obtain ⟨summary, -, hread⟩ := Option.bind_eq_some_iff.mp hread
  obtain ⟨customQueryApplied, -, hread⟩ := Option.bind_eq_some_iff.mp hread
  obtain ⟨inlineEditing, -, hread⟩ := Option.bind_eq_some_iff.mp hread
  cases hread
  intro row hrow
  obtain ⟨part, hpart, hlist⟩ := Option.bind_eq_some_iff.mp hrows
  obtain ⟨items, hview, item, hitem, hread⟩ := exists_of_list? hlist hrow
  obtain rfl := eq_array_of_view? hview
  have hitems := of_partIs hplain hparts hpart
  exact ResponseRow.isNormal_of_read? hread (List.all_eq_true.mp hitems item hitem)

theorem read?_toDoc {response : Response} (hnormal : response.IsNormal)
    (hfloats : ∀ x ∈ response.toJson.floats, x.IsReadBack) :
    read? response.toJson.toDoc = some response := by
  obtain ⟨parts, hparts, hfind, hmem⟩ := parts?_toDoc response.toJson
    ["entityCode", "listCode", "columns", "rows", "pageInfo", "summary", "debug", "capabilities"]
    [("entityCode", some (.text response.entityCode)),
      ("listCode", some (.text response.listCode)),
      ("columns", some (.array (response.columns.map ResponseColumn.toJson))),
      ("rows", some (.array (response.rows.map ResponseRow.toJson))),
      ("pageInfo", some response.pageInfo.toJson),
      ("summary", response.summary.map ResponseSummary.toJson),
      ("debug", response.customQueryApplied.map fun applied =>
        .object [("customQueryApplied", .bool applied)]),
      ("capabilities", response.inlineEditing.map fun editing =>
        .object [("inlineEditing", .bool editing)])]
    (by simp [toJson]) rfl (by decide)
  have hcolumns : list? ResponseColumn.read?
      (Json.array (response.columns.map ResponseColumn.toJson)).toDoc = some response.columns :=
    list?_toDoc fun column _ => ResponseColumn.read?_toDoc column
  have hrows : list? ResponseRow.read?
      (Json.array (response.rows.map ResponseRow.toJson)).toDoc = some response.rows := by
    refine list?_toDoc fun row hrow => ResponseRow.read?_toDoc (hnormal row hrow) ?_
    exact fun x hx => hfloats x (hmem "rows" _ (by simp) x
      (Json.mem_floats_of_mem_array (List.mem_map_of_mem hrow) hx))
  rw [read?, hparts]
  simp [hfind, List.lookup_cons, hcolumns, hrows, PageInfo.read?_toDoc,
    ResponseSummary.read?_toDoc, flag?_toDoc]

end Response

/-! ## Errors -/

namespace Rejection

/-- Whether the details of a rejection are plain in a document. -/
def keepsPlain (doc : Json.Doc) : Bool :=
  partIs ["message", "field", "details"] "details" Json.Doc.isPlain doc

/-- Whether a rejection has the form that reading gives it. -/
def IsNormal (rejection : Rejection) : Prop :=
  KeepsValue 1 rejection.details

theorem isNormal_of_read? {doc : Json.Doc} {rejection : Rejection}
    (hread : read? doc = some rejection) (hplain : keepsPlain doc = true) :
    rejection.IsNormal := by
  obtain ⟨parts, hparts, hread⟩ := Option.bind_eq_some_iff.mp hread
  obtain ⟨message, -, hread⟩ := Option.bind_eq_some_iff.mp hread
  obtain ⟨field, -, hread⟩ := Option.bind_eq_some_iff.mp hread
  obtain ⟨details, hdetails, hread⟩ := Option.bind_eq_some_iff.mp hread
  cases hread
  exact keepsValue_of_optional hplain hparts hdetails

theorem read?_toDoc {rejection : Rejection} (hnormal : rejection.IsNormal)
    (hfloats : ∀ x ∈ rejection.toJson.floats, x.IsReadBack) :
    read? rejection.toJson.toDoc = some rejection := by
  obtain ⟨parts, hparts, hfind, hmem⟩ := parts?_toDoc rejection.toJson
    ["message", "field", "details"]
    [("message", some (.text rejection.message)), ("field", rejection.field.map .text),
      ("details", rejection.details)]
    (by simp [toJson, present_cons_option "details"]) rfl (by decide)
  have hdetails : ∀ details, rejection.details = some details →
      nullable? (json? 1) details.toDoc = some (some details) := fun details hknown =>
    nullable?_json?_toDoc hnormal hknown fun x hx =>
      hfloats x (hmem "details" details (by simp [hknown]) x hx)
  rw [read?, hparts]
  simp +contextual [hfind, List.lookup_cons, hdetails]

end Rejection

namespace ErrorBody

/-- Whether the details of an error are plain in a document. -/
def keepsPlain (doc : Json.Doc) : Bool :=
  partIs ["error", "message", "details"] "details" Json.Doc.isPlain doc

/-- Whether an error has the form that reading gives it. -/
def IsNormal (body : ErrorBody) : Prop :=
  KeepsValue 1 body.details

theorem isNormal_of_read? {doc : Json.Doc} {body : ErrorBody} (hread : read? doc = some body)
    (hplain : keepsPlain doc = true) : body.IsNormal := by
  obtain ⟨parts, hparts, hread⟩ := Option.bind_eq_some_iff.mp hread
  obtain ⟨error, -, hread⟩ := Option.bind_eq_some_iff.mp hread
  obtain ⟨message, -, hread⟩ := Option.bind_eq_some_iff.mp hread
  obtain ⟨details, hdetails, hread⟩ := Option.bind_eq_some_iff.mp hread
  cases hread
  exact keepsValue_of_optional hplain hparts hdetails

theorem read?_toDoc {body : ErrorBody} (hnormal : body.IsNormal)
    (hfloats : ∀ x ∈ body.toJson.floats, x.IsReadBack) :
    read? body.toJson.toDoc = some body := by
  obtain ⟨parts, hparts, hfind, hmem⟩ := parts?_toDoc body.toJson ["error", "message", "details"]
    [("error", some (.text body.error)), ("message", some (.text body.message)),
      ("details", body.details)]
    (by simp [toJson, present_cons_option "details"]) rfl (by decide)
  have hdetails : ∀ details, body.details = some details →
      nullable? (json? 1) details.toDoc = some (some details) := fun details hknown =>
    nullable?_json?_toDoc hnormal hknown fun x hx =>
      hfloats x (hmem "details" details (by simp [hknown]) x hx)
  rw [read?, hparts]
  simp +contextual [hfind, List.lookup_cons, hdetails]

end ErrorBody

end ListQuery
