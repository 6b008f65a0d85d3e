import ListQuery.Cursor
import ListQuery.Proofs.Wire.Response

/-!
# What is read once is read again

Documents come in many forms: structures as arrays, choices as objects, members that are
ignored, null for what is absent.  Writing settles on one of them.  Whatever form a value
has been read from, it is read again from the text that it is written as, provided that
the doubles in this text are (`isRestored_of_read`).

There is one exception.  An object that stands for a text is known by its first member, and
writing may put first what did not come first before.  Therefore in the parts that are kept
as they are, no object may have the name of such a member as the least of its names
(`not_isRestored_embedding`).
-/

namespace ListQuery

open Wire

/-! ## Places -/

namespace RowKey

/-- Whether a place has the form that reading gives it. -/
def IsNormal (place : RowKey) : Prop :=
  ∀ scalar ∈ place.key ++ place.sort, scalar.isNonFinite = false

theorem isNormal_of_read? {doc : Json.Doc} {place : RowKey} (hread : read? doc = some place) :
    place.IsNormal := by
  obtain ⟨parts, -, hread⟩ := Option.bind_eq_some_iff.mp hread
  obtain ⟨entity, -, hread⟩ := Option.bind_eq_some_iff.mp hread
  obtain ⟨key, hkey, hread⟩ := Option.bind_eq_some_iff.mp hread
  obtain ⟨sort, hsort, hread⟩ := Option.bind_eq_some_iff.mp hread
  cases hread
  obtain ⟨part, -, hkey⟩ := Option.bind_eq_some_iff.mp hkey
  refine List.forall_mem_append.mpr ⟨Scalar.isNonFinite_of_list? hkey, ?_⟩
  obtain rfl | ⟨part, -, hlist⟩ := exists_of_withDefault hsort
  · exact List.forall_mem_nil _
  · exact Scalar.isNonFinite_of_list? hlist

/-- The doubles of a place are among those of its JSON value. -/
theorem mem_floats_toJson {place : RowKey} (hnormal : place.IsNormal) {x : Binary64}
    (hx : .float x ∈ place.key ++ place.sort) : x ∈ place.toJson.floats := by
  have hfinite : x.isFinite = true := by simpa [Scalar.isNonFinite] using hnormal _ hx
  have hjson : x ∈ (Scalar.toJson (.float x)).floats := by
    simp [Scalar.toJson, Json.ofBinary64, Json.Number.ofBinary64?, hfinite, Json.floats]
  have hlist : ∀ {scalars : List Scalar}, .float x ∈ scalars →
      x ∈ (Json.array (scalars.map Scalar.toJson)).floats := fun hscalars =>
    Json.mem_floats_of_mem_array (List.mem_map_of_mem hscalars) hjson
  obtain ⟨-, -, -, hmem⟩ := parts?_toDoc place.toJson ["entity", "key", "sort"]
    [("entity", some (.text place.entity)),
      ("key", some (.array (place.key.map Scalar.toJson))),
      ("sort", if place.sort.isEmpty then none else some (.array (place.sort.map Scalar.toJson)))]
    (by cases hsort : place.sort.isEmpty <;> simp [toJson, hsort]) rfl (by decide)
  rcases List.mem_append.mp hx with hkey | hsort
  · exact hmem "key" _ (by simp) x (hlist hkey)
  · have hsome : place.sort.isEmpty = false := by
      simpa using List.ne_nil_of_mem hsort
    exact hmem "sort" _ (by simp [hsome]) x (hlist hsort)

end RowKey

/-! ## All types together -/

namespace Wire

variable {α : Type}

/-- The value that a text is read as. -/
def ofText? (read? : Json.Doc → Option α) (text : String) : Option α :=
  (Json.Doc.read? text).bind read?

/-- Whether a value is read from the text that it is written as, if the doubles in this text
are read back. -/
def IsRestored (read? : Json.Doc → Option α) (toJson : α → Json) (value : α) : Prop :=
  (∀ x ∈ (toJson value).floats, x.IsReadBack) → ofText? read? (toJson value).render = some value

theorem isRestored_of_toDoc {read? : Json.Doc → Option α} {toJson : α → Json} {value : α}
    (hread : (∀ x ∈ (toJson value).floats, x.IsReadBack) →
      read? (toJson value).toDoc = some value) : IsRestored read? toJson value := by
  intro hfloats
  rw [ofText?, Json.Doc.read?_render, Option.bind_some, hread hfloats]

/-- What has been read from a text is read again from the text that it is written as.  What is
kept of the text as it is has to be plain. -/
theorem isRestored_of_read (text : String) :
    (∀ context : Context, ofText? Context.read? text = some context →
      (Json.Doc.read? text).all Context.keepsPlain = true →
      IsRestored Context.read? Context.toJson context) ∧
    (∀ mapping : Mapping, ofText? Mapping.read? text = some mapping →
      IsRestored Mapping.read? Mapping.toJson mapping) ∧
    (∀ application : Application, ofText? Application.read? text = some application →
      IsRestored Application.read? Application.toJson application) ∧
    (∀ response : Response, ofText? Response.read? text = some response →
      (Json.Doc.read? text).all Response.keepsPlain = true →
      IsRestored Response.read? Response.toJson response) ∧
    (∀ body : ErrorBody, ofText? ErrorBody.read? text = some body →
      (Json.Doc.read? text).all ErrorBody.keepsPlain = true →
      IsRestored ErrorBody.read? ErrorBody.toJson body) ∧
    (∀ rejection : Rejection, ofText? Rejection.read? text = some rejection →
      (Json.Doc.read? text).all Rejection.keepsPlain = true →
      IsRestored Rejection.read? Rejection.toJson rejection) ∧
    (∀ place : RowKey, ofText? RowKey.read? text = some place →
      IsRestored RowKey.read? RowKey.toJson place) := by
  cases hdoc : Json.Doc.read? text with
  | none => simp [ofText?, hdoc]
  | some doc =>
      simp only [ofText?, hdoc, Option.bind_some, Option.all_some]
      refine ⟨fun context hread hplain => ?_, fun mapping hread => ?_, fun application _ => ?_,
        fun response hread hplain => ?_, fun body hread hplain => ?_,
        fun rejection hread hplain => ?_, fun place hread => ?_⟩
      · exact isRestored_of_toDoc (Context.read?_toDoc (Context.isNormal_of_read? hread hplain))
      · exact isRestored_of_toDoc (Mapping.read?_toDoc (Mapping.isNormal_of_read? hread))
      · exact isRestored_of_toDoc fun _ => Application.read?_toDoc application
      · exact isRestored_of_toDoc (Response.read?_toDoc (Response.isNormal_of_read? hread hplain))
      · exact isRestored_of_toDoc (ErrorBody.read?_toDoc (ErrorBody.isNormal_of_read? hread hplain))
      · exact isRestored_of_toDoc (Rejection.read?_toDoc (Rejection.isNormal_of_read? hread hplain))
      · have hnormal := RowKey.isNormal_of_read? hread
        refine isRestored_of_toDoc fun hfloats => ?_
        rw [RowKey.read?_toDoc]
        exact RowKey.readBack?_of_isReadBack fun x hx =>
          hfloats x (RowKey.mem_floats_toJson hnormal hx)

/-- A text of an error.  Its details become an object that begins with the name set aside for
objects that stand for a text. -/
def embeddingText : String :=
  "\x7b\"error\":\"e\",\"message\":\"m\",\"details\":"
    ++ "\x7b\"a\":1,\"$serde_json::private::RawValue\":2\x7d\x7d"

/-- The least of its names is in the way of an object that is kept as it is. -/
theorem not_isRestored_embedding :
    ∃ body, ofText? ErrorBody.read? embeddingText = some body ∧
      (∀ x ∈ body.toJson.floats, x.IsReadBack) ∧
      ofText? ErrorBody.read? body.toJson.render = none := by
  have hmap : (ofText? ErrorBody.read? embeddingText).map (fun body =>
      (body.toJson.floats, (ofText? ErrorBody.read? body.toJson.render).isNone)) =
        some ([], true) := by
    decide +kernel
  obtain ⟨body, hbody, hpair⟩ := Option.map_eq_some_iff.mp hmap
  obtain ⟨hfloats, hnone⟩ := Prod.mk.inj hpair
  exact ⟨body, hbody, by simp [hfloats], Option.isNone_iff_eq_none.mp hnone⟩

/-- A text of a context in unusual forms: the context and a filter are arrays, an operator is an
object, a member is ignored, and others are null or left out. -/
def unusualText : String :=
  "[null,[[\"a\",\x7b\"in\":null\x7d,[null,1.5,7]],"
    ++ "\x7b\"operator\":\"between\",\"value\":\x7b\"to\":2,\"from\":-0.5\x7d,"
    ++ "\"field\":\"b\",\"other\":[]\x7d],[],\x7b\"after\":null\x7d,null,"
    ++ "\x7b\"z\":[1.5],\"y\":\x7b\x7d\x7d]"

theorem isRestored_of_read_unusual :
    ∃ context : Context, ofText? Context.read? unusualText = some context ∧
      (Json.Doc.read? unusualText).all Context.keepsPlain = true ∧
      (∀ x ∈ context.toJson.floats, x.IsReadBack) ∧
      ofText? Context.read? context.toJson.render = some context := by
  have hmap : (ofText? Context.read? unusualText).map (fun context => context.toJson.floats) =
      some [⟨0x3ff8000000000000⟩, ⟨0xbfe0000000000000⟩, ⟨0x3ff8000000000000⟩] := by
    decide +kernel
  have hplain : (Json.Doc.read? unusualText).all Context.keepsPlain = true := by decide +kernel
  obtain ⟨context, hcontext, hfloats⟩ := Option.map_eq_some_iff.mp hmap
  have hthreeHalves : Binary64.IsReadBack ⟨0x3ff8000000000000⟩ :=
    Binary64.isReadBack_of_numeral (by decide) (by decide +kernel)
  have hminusHalf : Binary64.IsReadBack ⟨0xbfe0000000000000⟩ :=
    Binary64.isReadBack_of_numeral (by decide) (by decide +kernel)
  have hreadBack : ∀ x ∈ context.toJson.floats, x.IsReadBack := by
    rw [hfloats]
    exact List.forall_mem_cons.mpr ⟨hthreeHalves,
      List.forall_mem_cons.mpr ⟨hminusHalf, List.forall_mem_singleton.mpr hthreeHalves⟩⟩
  exact ⟨context, hcontext, hplain, hreadBack,
    (isRestored_of_read unusualText).1 context hcontext hplain hreadBack⟩

end Wire

end ListQuery
