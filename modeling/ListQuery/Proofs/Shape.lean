import ListQuery.Proofs.Continuation
import ListQuery.Proofs.Wire.Context

/-!
# A page is shaped whole or not at all

A cursor is made of the values that its row has under the key fields and under the fields of
the ordering, so a row without a primitive value under one of them has no cursor.  Such a row
fails the whole page if it belongs to it, and does nothing if it is the one row too many
(`shape_cases`).  Nothing else can go wrong: a primitive value is never an infinity or a NaN,
so every place has a cursor (`exists_cursor_iff`).
-/

namespace ListQuery

/-! ## Primitive values -/

/-- Whether a value is neither an array nor an object. -/
def Json.isPrimitive : Json → Bool
  | .array _ | .object _ => false
  | .null | .bool _ | .number _ | .text _ => true

/-- A scalar stands for every primitive value, and for no other. -/
theorem Json.isPrimitive_eq_isSome (value : Json) :
    value.isPrimitive = (Scalar.ofJson? value).isSome := by
  cases value <;> rfl

namespace Row

variable {row : Row} {field : String} {scalar : Scalar} {failure : Failure}

/-- Whether a row has a primitive value under a field. -/
def HasPrimitive (row : Row) (field : String) : Prop :=
  ∃ value, Json.member? field row = some value ∧ value.isPrimitive = true

theorem exists_scalarAt_iff :
    (∃ scalar, row.scalarAt field = .ok scalar) ↔ row.HasPrimitive field := by
  simp only [scalarAt_eq_ok_iff, Holds, HasPrimitive, Json.isPrimitive_eq_isSome,
    Option.isSome_iff_exists]
  constructor
  · rintro ⟨scalar, value, hvalue, hscalar⟩
    exact ⟨value, hvalue, scalar, hscalar⟩
  · rintro ⟨value, hvalue, scalar, hscalar⟩
    exact ⟨scalar, value, hvalue, hscalar⟩

/-- Whether a failure says what keeps a row from having a primitive value under a field: there
is no value, or one that is an array or an object. -/
def Lacks (row : Row) (field : String) (failure : Failure) : Prop :=
  (Json.member? field row = none ∧ failure = missingColumn field) ∨
    ∃ value, Json.member? field row = some value ∧ value.isPrimitive = false ∧
      failure = notScalar field

theorem lacks_of_scalarAt (hfailure : row.scalarAt field = .error failure) :
    row.Lacks field failure := by
  unfold scalarAt at hfailure
  split at hfailure
  next hmissing => exact .inl ⟨hmissing, (Except.error.inj hfailure).symm⟩
  next value hvalue =>
    split at hfailure
    next hscalar =>
      have hprimitive : value.isPrimitive = false := by
        rw [Json.isPrimitive_eq_isSome, hscalar]
        rfl
      exact .inr ⟨value, hvalue, hprimitive, (Except.error.inj hfailure).symm⟩
    next => cases hfailure

theorem Lacks.exists_execution (hlacks : row.Lacks field failure) :
    ∃ reason, failure = .execution reason := by
  rcases hlacks with ⟨-, rfl⟩ | ⟨-, -, -, rfl⟩ <;> exact ⟨_, rfl⟩

/-- What a row holds is no infinity and no NaN. -/
theorem isNonFinite_of_holds (hholds : row.Holds field scalar) : scalar.isNonFinite = false := by
  obtain ⟨value, -, hscalar⟩ := hholds
  cases value with
  | number value =>
      cases hscalar
      exact Scalar.isNonFinite_ofNumber value
  | null | bool | text =>
      cases hscalar
      rfl
  | array | object => cases hscalar

end Row

namespace Plan

variable {plan : Plan} {row : Row} {cursor : String} {failure : Failure}

/-! ## The cursor of a row -/

/-- The fields that the cursors of a list are made of. -/
def cursorFields (plan : Plan) : List String :=
  plan.mapping.keyFields ++ plan.statement.ordering.map Sql.Order.field

/-- Whether a row can have a cursor. -/
def Admits (plan : Plan) (row : Row) : Prop :=
  ∀ field ∈ plan.cursorFields, row.HasPrimitive field

/-- Whether a cursor is that of the place of a row: the entity with the row's values under the
key fields and under the fields of the ordering, each in their order. -/
def Locates (plan : Plan) (cursor : String) (row : Row) : Prop :=
  ∃ key sort, List.Forall₂ row.Holds plan.mapping.keyFields key ∧
    List.Forall₂ row.Holds (plan.statement.ordering.map Sql.Order.field) sort ∧
    RowKey.cursor? ⟨plan.entityCode, key, sort⟩ = .ok cursor

theorem cursor_eq_ok_iff_locates : plan.cursor row = .ok cursor ↔ plan.Locates cursor row := by
  rw [cursor_eq_ok_iff]
  simp only [mapM_eq_ok_iff, Row.scalarAt_eq_ok_iff, Locates, List.forall₂_map_left_iff]

private theorem isNonFinite_of_forall₂_holds {fields : List String} {scalars : List Scalar}
    (hholds : List.Forall₂ row.Holds fields scalars) :
    ∀ scalar ∈ scalars, scalar.isNonFinite = false := by
  induction hholds with
  | nil => exact List.forall_mem_nil _
  | cons hfirst _ ih => exact List.forall_mem_cons.mpr ⟨Row.isNonFinite_of_holds hfirst, ih⟩

private theorem exists_forall₂_holds {fields : List String}
    (hfields : ∀ field ∈ fields, row.HasPrimitive field) :
    ∃ scalars, List.Forall₂ row.Holds fields scalars := by
  obtain ⟨scalars, hscalars⟩ := exists_mapM_iff.mpr fun field hfield =>
    Row.exists_scalarAt_iff.mpr (hfields field hfield)
  exact ⟨scalars, by simpa only [mapM_eq_ok_iff, Row.scalarAt_eq_ok_iff] using hscalars⟩

private theorem admits_of_place {place : RowKey} (hplace : plan.place row = .ok place) :
    plan.Admits row := by
  obtain ⟨key, hkey, hrest⟩ := bind_eq_ok_iff.mp hplace
  obtain ⟨sort, hsort, -⟩ := bind_eq_ok_iff.mp hrest
  refine List.forall_mem_append.mpr ⟨fun field hfield => ?_, List.forall_mem_map.mpr ?_⟩
  · exact Row.exists_scalarAt_iff.mp (exists_mapM_iff.mp ⟨key, hkey⟩ field hfield)
  · intro order horder
    exact Row.exists_scalarAt_iff.mp (exists_mapM_iff.mp ⟨sort, hsort⟩ order horder)

/-- A row has a cursor if it has a primitive value wherever the cursor needs one. -/
theorem exists_cursor_iff : (∃ cursor, plan.cursor row = .ok cursor) ↔ plan.Admits row := by
  constructor
  · rintro ⟨cursor, hcursor⟩
    obtain ⟨place, hplace, -⟩ := bind_eq_ok_iff.mp hcursor
    exact admits_of_place hplace
  · intro hadmits
    obtain ⟨hkeyFields, hsortFields⟩ := List.forall_mem_append.mp hadmits
    obtain ⟨key, hkey⟩ := exists_forall₂_holds hkeyFields
    obtain ⟨sort, hsort⟩ := exists_forall₂_holds hsortFields
    have hfinite : ∀ scalar ∈ key ++ sort, scalar.isNonFinite = false :=
      List.forall_mem_append.mpr
        ⟨isNonFinite_of_forall₂_holds hkey, isNonFinite_of_forall₂_holds hsort⟩
    exact ⟨_, cursor_eq_ok_iff_locates.mpr
      ⟨key, sort, hkey, hsort, RowKey.cursor?_eq_ok_iff.mpr ⟨hfinite, rfl⟩⟩⟩

/-- A row without a cursor lacks a value that the cursor needs. -/
theorem exists_lacks_of_cursor (hfailure : plan.cursor row = .error failure) :
    ∃ field ∈ plan.cursorFields, row.Lacks field failure := by
  rcases bind_eq_error_iff.mp hfailure with hplace | ⟨place, hplace, hcursor⟩
  · rcases bind_eq_error_iff.mp hplace with hkey | ⟨key, -, hplace⟩
    · obtain ⟨field, hfield, hscalar⟩ := exists_of_mapM_eq_error hkey
      exact ⟨field, List.mem_append_left _ hfield, Row.lacks_of_scalarAt hscalar⟩
    · rcases bind_eq_error_iff.mp hplace with hsort | ⟨sort, -, hpure⟩
      · obtain ⟨order, horder, hscalar⟩ := exists_of_mapM_eq_error hsort
        exact ⟨order.field, List.mem_append_right _ (List.mem_map_of_mem horder),
          Row.lacks_of_scalarAt hscalar⟩
      · cases hpure
  · -- The values of a place are finite, so it has a cursor.
    obtain ⟨cursor, hcursor⟩ := exists_cursor_iff.mpr (admits_of_place hplace)
    rw [hfailure] at hcursor
    cases hcursor

/-! ## Rows with their cursors -/

theorem responseRow_eq_ok_iff {shown : ResponseRow} :
    plan.responseRow row = .ok shown ↔ shown.values = row ∧ plan.Locates shown.cursor row := by
  rw [← cursor_eq_ok_iff_locates]
  obtain ⟨cursor, values⟩ := shown
  have hbind : plan.responseRow row = (plan.cursor row).bind fun cursor => .ok ⟨cursor, row⟩ := rfl
  rw [hbind, bind_eq_ok_iff]
  constructor
  · rintro ⟨found, hfound, heq⟩
    cases heq
    exact ⟨rfl, hfound⟩
  · rintro ⟨rfl, hcursor⟩
    exact ⟨cursor, hcursor, rfl⟩

theorem exists_responseRow_iff : (∃ shown, plan.responseRow row = .ok shown) ↔ plan.Admits row := by
  simp only [responseRow_eq_ok_iff, ← exists_cursor_iff, cursor_eq_ok_iff_locates]
  constructor
  · rintro ⟨shown, -, hlocates⟩
    exact ⟨shown.cursor, hlocates⟩
  · rintro ⟨cursor, hlocates⟩
    exact ⟨⟨cursor, row⟩, rfl, hlocates⟩

/-! ## Pages -/

/-- What a page shows of the rows that were fetched for it. -/
structure Shows (plan : Plan) (context : Context) (fetched : List Row) (response : Response) :
    Prop where
  /-- The first rows, as many as the page may have, in the order of the list. -/
  values : response.rows.map ResponseRow.values =
    context.page.direction.arrange (fetched.take context.page.limit.toNat)
  length : response.rows.length ≤ context.page.limit.toNat
  cursors : ∀ shown ∈ response.rows, plan.Locates shown.cursor shown.values
  hasNextPage : response.pageInfo.hasNextPage = true ↔ context.page.limit.toNat < fetched.length
  hasPreviousPage :
    response.pageInfo.hasPreviousPage = true ↔ ∃ cursor, context.activeCursor = some cursor
  startCursor : response.pageInfo.startCursor = response.rows.head?.map ResponseRow.cursor
  endCursor : response.pageInfo.endCursor = response.rows.getLast?.map ResponseRow.cursor
  noCursor : (response.pageInfo.startCursor = none ↔ response.rows = []) ∧
    (response.pageInfo.endCursor = none ↔ response.rows = [])

variable {context : Context} {fetched : List Row}

theorem forall_mem_pageRows {motive : Row → Prop} :
    (∀ row ∈ pageRows context fetched, motive row) ↔
      ∀ row ∈ fetched.take context.page.limit.toNat, motive row := by
  simp [pageRows_eq]

/-- Rows that are shown one by one show the values they had, each with the cursor of its
place. -/
private theorem values_of_forall₂ {rows : List Row} {shown : List ResponseRow}
    (hshown : List.Forall₂ (fun row shown => plan.responseRow row = .ok shown) rows shown) :
    shown.map ResponseRow.values = rows ∧
      ∀ item ∈ shown, plan.Locates item.cursor item.values := by
  induction hshown with
  | nil => exact ⟨rfl, List.forall_mem_nil _⟩
  | cons hfirst _ ih =>
      obtain ⟨hvalues, hlocates⟩ := responseRow_eq_ok_iff.mp hfirst
      exact ⟨List.cons_eq_cons.mpr ⟨hvalues, ih.1⟩,
        List.forall_mem_cons.mpr ⟨hvalues.symm ▸ hlocates, ih.2⟩⟩

theorem shows_of_shape {response : Response} (hshape : plan.shape context fetched = .ok response) :
    plan.Shows context fetched response := by
  obtain ⟨rows, hrows, hresponse⟩ := bind_eq_ok_iff.mp hshape
  cases hresponse
  obtain ⟨hvalues, hcursors⟩ := values_of_forall₂ (mapM_eq_ok_iff.mp hrows)
  rw [pageRows_eq] at hvalues
  have hlength : rows.length ≤ context.page.limit.toNat := by
    have hsame := congrArg List.length hvalues
    rw [List.length_map, PageDirection.length_arrange, List.length_take] at hsame
    omega
  exact
    { values := hvalues
      length := hlength
      cursors := hcursors
      hasNextPage := decide_eq_true_iff
      hasPreviousPage := Option.isSome_iff_exists
      startCursor := rfl
      endCursor := rfl
      noCursor := by simp }

/-- A page is shaped if each of the first rows, as many as it may have, has a primitive value
under every key field and under every field of the ordering, whatever the row after them is
like.  It then shows exactly these rows, each with the cursor of its place.  Otherwise there
is no page but a failure of the execution, which names what one of these rows lacks. -/
theorem shape_cases (plan : Plan) (context : Context) (fetched : List Row) :
    ((∃ response, plan.shape context fetched = .ok response) ↔
      ∀ row ∈ fetched.take context.page.limit.toNat, plan.Admits row) ∧
    (∀ response, plan.shape context fetched = .ok response →
      plan.Shows context fetched response) ∧
    ∀ failure, plan.shape context fetched = .error failure →
      (∃ reason, failure = .execution reason) ∧
        ∃ row ∈ fetched.take context.page.limit.toNat, ∃ field ∈ plan.cursorFields,
          row.Lacks field failure := by
  refine ⟨?_, fun response => shows_of_shape, fun failure hfailure => ?_⟩
  · calc (∃ response, plan.shape context fetched = .ok response)
        ↔ ∃ rows, (pageRows context fetched).mapM plan.responseRow = .ok rows := by
          constructor
          · rintro ⟨response, hshape⟩
            obtain ⟨rows, hrows, -⟩ := bind_eq_ok_iff.mp hshape
            exact ⟨rows, hrows⟩
          · rintro ⟨rows, hrows⟩
            exact ⟨_, bind_eq_ok_iff.mpr ⟨rows, hrows, rfl⟩⟩
      _ ↔ ∀ row ∈ pageRows context fetched, plan.Admits row := by
          simp only [exists_mapM_iff, exists_responseRow_iff]
      _ ↔ ∀ row ∈ fetched.take context.page.limit.toNat, plan.Admits row := forall_mem_pageRows
  · rcases bind_eq_error_iff.mp hfailure with hrows | ⟨rows, -, hpure⟩
    · obtain ⟨row, hrow, hshown⟩ := exists_of_mapM_eq_error hrows
      rcases bind_eq_error_iff.mp hshown with hcursor | ⟨cursor, -, hpure⟩
      · obtain ⟨field, hfield, hlacks⟩ := exists_lacks_of_cursor hcursor
        have htaken : row ∈ fetched.take context.page.limit.toNat :=
          forall_mem_pageRows (motive := (· ∈ fetched.take context.page.limit.toNat)).mpr
            (fun _ hmem => hmem) row hrow
        exact ⟨hlacks.exists_execution, row, htaken, field, hfield, hlacks⟩
      · cases hpure
    · cases hpure

end Plan

end ListQuery
