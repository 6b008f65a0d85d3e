import ListQuery.Page
import ListQuery.Proofs.Cursor
import ListQuery.Proofs.Derivation

/-!
# Rows and their cursors

A row of a result holds, under the field of every entry of the ordering, the value that
the entry compares.  Its cursor takes these values along, and they come back as values
that mean the same, provided that the database returns every value as a scalar and that
the scalar read back from a cursor stands for the value (`Carries`).  So a cursor leads
back to the tuple by which its row was sorted (`cursor_project`).
-/

namespace ListQuery

open Sql

namespace Row

variable {row : Row} {field : String} {scalar : Scalar}

/-- Whether a row has a value under a field that a scalar stands for. -/
def Holds (row : Row) (field : String) (scalar : Scalar) : Prop :=
  ∃ value, Json.member? field row = some value ∧ Scalar.ofJson? value = some scalar

theorem scalarAt_eq_ok_iff : row.scalarAt field = .ok scalar ↔ row.Holds field scalar := by
  unfold scalarAt Holds
  cases Json.member? field row with
  | none => simp
  | some value => cases hscalar : Scalar.ofJson? value <;> simp [hscalar]

/-- What a row has under the entries of an ordering is what it has under their fields. -/
theorem mapM_scalarAt_field (row : Row) (ordering : List Order) :
    (ordering.mapM fun order => row.scalarAt order.field) =
      (ordering.map Order.field).mapM row.scalarAt := by
  rw [List.mapM_map]
  rfl

end Row

variable {V : Type} {database : Database V} {record : Record V} {columns : List Column}

namespace Sql.Database

/-- Whether the value of a row in an entry survives a cursor: it is returned as a scalar,
and what is read back of the scalar stands for the value. -/
def Carries (database : Database V) (record : Record V) (order : Order) : Prop :=
  ∀ value, database.value record order.expression = some value →
    ∃ scalar read, Scalar.ofJson? (database.output (some value)) = some scalar ∧
      scalar.readBack? = some read ∧ database.meaning order read = some value

/-! ## Values under names -/

variable (database record) in
/-- A row has the value of each column under its name. -/
theorem member?_project (haliases : (columns.map Column.aliasName).Nodup) {column : Column}
    (hcolumn : column ∈ columns) :
    Json.member? column.aliasName (database.project columns record) =
      some (database.output (database.value record column.expression)) := by
  unfold Json.member? project
  induction columns with
  | nil => cases hcolumn
  | cons first rest ih =>
      rw [List.map_cons, List.nodup_cons] at haliases
      rcases List.mem_cons.mp hcolumn with rfl | hrest
      · rw [List.map_cons, List.lookup_cons_self]
      · have hne : column.aliasName ≠ first.aliasName := by
          intro heq
          exact haliases.1 (heq ▸ List.mem_map_of_mem hrest)
        rw [List.map_cons, List.lookup_cons, beq_false_of_ne hne]
        exact ih haliases.2 hrest

/-- What stands under a field of a row: a scalar that is read back as `read`. -/
structure Returns (row : Row) (field : String) (scalar read : Scalar) : Prop where
  found : row.scalarAt field = .ok scalar
  finite : scalar.isNonFinite = false
  readBack : scalar.readBack? = some read

/-- The value of an entry stands under the entry's field, and is read back as a scalar
that means the value. -/
theorem exists_returns (hnone : database.output none = .null)
    (haliases : (columns.map Column.aliasName).Nodup) {order : Order}
    (hcolumn : (⟨order.expression, order.field⟩ : Column) ∈ columns)
    (hcarries : database.Carries record order) :
    ∃ scalar read, Returns (database.project columns record) order.field scalar read ∧
      database.Means order read ∧
      database.meaning order read = database.value record order.expression := by
  have hmember := member?_project database record haliases hcolumn
  -- A missing value is shown as null, and null is what it is read back as.
  cases hvalue : database.value record order.expression with
  | none =>
      refine ⟨.null, .null, ⟨?_, rfl, Scalar.readBack?_of_ne_float (by simp)⟩, ?_, rfl⟩
      · rw [hvalue, hnone] at hmember
        exact Row.scalarAt_eq_ok_iff.mpr ⟨_, hmember, rfl⟩
      · intro hnull
        cases hnull
  | some value =>
      obtain ⟨scalar, read, hscalar, hread, hmeaning⟩ := hcarries value hvalue
      have hnull : read.isNull = false := by
        cases hnull : read.isNull with
        | false => rfl
        | true => simp [meaning, hnull] at hmeaning
      have hbound : database.bound read order.cast = some value := by
        simpa [meaning, hnull] using hmeaning
      refine ⟨scalar, read, ⟨?_, ?_, hread⟩, fun _ => by simp [hbound], hmeaning⟩
      · rw [hvalue] at hmember
        exact Row.scalarAt_eq_ok_iff.mpr ⟨_, hmember, hscalar⟩
      · -- Infinities and NaNs are read back as nulls, which stand for no value.
        cases hfinite : scalar.isNonFinite with
        | false => rfl
        | true =>
            rw [Scalar.readBack?_of_isNonFinite hfinite] at hread
            cases hread
            cases hnull

/-! ## All values of a row -/

/-- What stands under several fields of a row. -/
structure ReturnsAll (row : Row) (fields : List String) (scalars reads : List Scalar) : Prop where
  found : fields.mapM row.scalarAt = .ok scalars
  finite : ∀ scalar ∈ scalars, scalar.isNonFinite = false
  readBack : scalars.mapM Scalar.readBack? = some reads

theorem ReturnsAll.cons {row : Row} {field : String} {fields : List String}
    {scalar read : Scalar} {scalars reads : List Scalar} (hfirst : Returns row field scalar read)
    (hrest : ReturnsAll row fields scalars reads) :
    ReturnsAll row (field :: fields) (scalar :: scalars) (read :: reads) where
  found := by
    rw [List.mapM_cons, hfirst.found, hrest.found]
    rfl
  finite := List.forall_mem_cons.mpr ⟨hfirst.finite, hrest.finite⟩
  readBack := by
    rw [List.mapM_cons, hfirst.readBack, hrest.readBack]
    rfl

/-- Whether values, one for each entry of an ordering, stand for the tuple of a row. -/
structure StandsFor (database : Database V) (record : Record V) (ordering : List Order)
    (values : List Scalar) : Prop where
  length : values.length = ordering.length
  means : ∀ entry ∈ ordering.zip values, database.Means entry.1 entry.2
  tuple : List.zipWith database.meaning ordering values =
    database.tuple (ordering.map Sorting.ofOrder) record

variable {ordering : List Order}

/-- The values of the entries stand in the row, and what is read back of them stands for
the row's tuple. -/
theorem exists_standsFor (hnone : database.output none = .null)
    (haliases : (columns.map Column.aliasName).Nodup)
    (hcolumns : ∀ order ∈ ordering, (⟨order.expression, order.field⟩ : Column) ∈ columns)
    (hcarries : ∀ order ∈ ordering, database.Carries record order) :
    ∃ scalars reads,
      ReturnsAll (database.project columns record) (ordering.map Order.field) scalars reads ∧
      database.StandsFor record ordering reads := by
  induction ordering with
  | nil => exact ⟨[], [], ⟨rfl, by simp, rfl⟩, ⟨rfl, by simp, rfl⟩⟩
  | cons order rest ih =>
      obtain ⟨hcolumn, hcolumns⟩ := List.forall_mem_cons.mp hcolumns
      obtain ⟨hcarry, hcarries⟩ := List.forall_mem_cons.mp hcarries
      obtain ⟨scalar, read, hreturns, hmeans, hmeaning⟩ :=
        exists_returns hnone haliases hcolumn hcarry
      obtain ⟨scalars, reads, hall, hstands⟩ := ih hcolumns hcarries
      refine ⟨scalar :: scalars, read :: reads, hall.cons hreturns, ?_, ?_, ?_⟩
      · simp [hstands.length]
      · exact List.forall_mem_cons.mpr ⟨hmeans, hstands.means⟩
      · rw [List.zipWith_cons_cons, hmeaning, hstands.tuple]
        rfl

/-- Fields of the ordering can be read back in any selection. -/
theorem exists_returnsAll (hnone : database.output none = .null)
    (haliases : (columns.map Column.aliasName).Nodup)
    (hcolumns : ∀ order ∈ ordering, (⟨order.expression, order.field⟩ : Column) ∈ columns)
    (hcarries : ∀ order ∈ ordering, database.Carries record order) {fields : List String}
    (hfields : ∀ field ∈ fields, ∃ order ∈ ordering, order.field = field) :
    ∃ scalars reads, ReturnsAll (database.project columns record) fields scalars reads ∧
      reads.length = fields.length := by
  induction fields with
  | nil => exact ⟨[], [], ⟨rfl, by simp, rfl⟩, rfl⟩
  | cons field rest ih =>
      obtain ⟨⟨order, horder, rfl⟩, hrest⟩ := List.forall_mem_cons.mp hfields
      obtain ⟨scalar, read, hreturns, -, -⟩ :=
        exists_returns hnone haliases (hcolumns order horder) (hcarries order horder)
      obtain ⟨scalars, reads, hall, hlength⟩ := ih hrest
      exact ⟨scalar :: scalars, read :: reads, hall.cons hreturns, by simp [hlength]⟩

/-- The rows that satisfy the condition to come after values that stand for a row are
those that come after the row. -/
theorem satisfies_strictlyAfter_record [LinearOrder V] {other : Record V} {values : List Scalar}
    (hcolumns : ∀ order ∈ ordering, order.IsColumn)
    (hstands : database.StandsFor record ordering values) :
    database.satisfies other (Order.strictlyAfter ordering values) = true ↔
      database.compareRecords (ordering.map Sorting.ofOrder) other record = .gt := by
  rw [satisfies_strictlyAfter hcolumns hstands.length hstands.means, hstands.tuple]
  rfl

end Sql.Database

/-! ## Cursors -/

namespace Plan

open Sql.Database

variable {plan : Plan} {row : Row} {cursor : String}

/-- The cursor of a row depends on the plan only through the fields that it is made of. -/
theorem cursor_congr {other : Plan} (hentity : plan.entityCode = other.entityCode)
    (hkeys : plan.mapping.keyFields = other.mapping.keyFields)
    (hfields : plan.statement.ordering.map Order.field =
      other.statement.ordering.map Order.field) : plan.cursor = other.cursor := by
  funext row
  unfold cursor place
  rw [Row.mapM_scalarAt_field, Row.mapM_scalarAt_field, hentity, hkeys, hfields]

/-- The cursor of a row is that of the values it has under the key fields and under the fields
of the ordering. -/
theorem cursor_eq_ok_iff :
    plan.cursor row = .ok cursor ↔
      ∃ key sort, plan.mapping.keyFields.mapM row.scalarAt = .ok key ∧
        (plan.statement.ordering.mapM fun order => row.scalarAt order.field) = .ok sort ∧
        RowKey.cursor? ⟨plan.entityCode, key, sort⟩ = .ok cursor := by
  have hcursor : plan.cursor row = (plan.place row).bind fun place =>
      place.cursor?.mapError fun fault => .execution fault.message := by
    unfold Plan.cursor
    cases plan.place row with
    | error failure => rfl
    | ok place =>
        simp only [bind, Except.bind]
        cases place.cursor? <;> rfl
  have hplace : plan.place row = (plan.mapping.keyFields.mapM row.scalarAt).bind fun key =>
      (plan.statement.ordering.mapM fun order => row.scalarAt order.field).bind fun sort =>
        .ok ⟨plan.entityCode, key, sort⟩ := rfl
  rw [hcursor, hplace]
  simp only [bind_eq_ok_iff, mapError_eq_ok_iff, Except.ok.injEq]
  constructor
  · rintro ⟨_, ⟨key, hkey, sort, hsort, rfl⟩, hplaced⟩
    exact ⟨key, sort, hkey, hsort, hplaced⟩
  · rintro ⟨key, sort, hkey, hsort, hplaced⟩
    exact ⟨_, ⟨key, hkey, sort, hsort, rfl⟩, hplaced⟩

/-- What is read of the cursor of a row serves every ordering of the list's length. -/
theorem cursorValues?_of_readBack? {key sort keyRead sortRead : List Scalar}
    {keyFields : List String} {ordering : List Order} {entityCode : String}
    (hcursor : RowKey.cursor? ⟨entityCode, key, sort⟩ = .ok cursor)
    (hlength : cursor.utf8ByteSize ≤ RowKey.maximumCursorLength)
    (hread : RowKey.readBack? ⟨entityCode, key, sort⟩ = some ⟨entityCode, keyRead, sortRead⟩)
    (hkey : keyRead.length = keyFields.length) (hsort : sortRead.length = ordering.length) :
    cursorValues? cursor entityCode keyFields ordering = some sortRead := by
  unfold cursorValues?
  rw [RowKey.ofCursor?_of_cursor? hcursor hlength hread]
  simp [RowKey.valuesFor?, hkey, hsort]

variable (record) in
/-- Every row of a planned list has a cursor, and the cursor leads back to values that
stand for the row's tuple unless it is too long. -/
theorem cursor_project (hnone : database.output none = .null)
    (haliases : (plan.statement.columns.map Column.aliasName).Nodup)
    (hcolumns : ∀ order ∈ plan.statement.ordering,
      (⟨order.expression, order.field⟩ : Column) ∈ plan.statement.columns)
    (hkeys : ∀ key ∈ plan.mapping.keyFields, ∃ order ∈ plan.statement.ordering, order.field = key)
    (hcarries : ∀ order ∈ plan.statement.ordering, database.Carries record order) :
    ∃ cursor values,
      plan.cursor (database.project plan.statement.columns record) = .ok cursor ∧
      cursor.isEmpty = false ∧
      database.StandsFor record plan.statement.ordering values ∧
      (cursor.utf8ByteSize ≤ RowKey.maximumCursorLength →
        cursorValues? cursor plan.entityCode plan.mapping.keyFields plan.statement.ordering =
          some values) := by
  obtain ⟨sort, sortRead, hsort, hstands⟩ :=
    exists_standsFor hnone haliases hcolumns hcarries
  obtain ⟨key, keyRead, hkey, hkeyLength⟩ :=
    exists_returnsAll hnone haliases hcolumns hcarries hkeys
  have hfound : (plan.statement.ordering.mapM fun order =>
      Row.scalarAt (database.project plan.statement.columns record) order.field) = .ok sort :=
    (Row.mapM_scalarAt_field _ _).trans hsort.found
  -- No value that is returned is an infinity or a NaN, so there is a cursor.
  obtain ⟨cursor, hcursor⟩ : ∃ cursor, RowKey.cursor? ⟨plan.entityCode, key, sort⟩ = .ok cursor :=
    ⟨_, RowKey.cursor?_eq_ok_iff.mpr
      ⟨List.forall_mem_append.mpr ⟨hkey.finite, hsort.finite⟩, rfl⟩⟩
  have hread : RowKey.readBack? ⟨plan.entityCode, key, sort⟩ =
      some ⟨plan.entityCode, keyRead, sortRead⟩ := by
    unfold RowKey.readBack?
    rw [hkey.readBack, hsort.readBack]
    rfl
  exact ⟨cursor, sortRead, cursor_eq_ok_iff.mpr ⟨key, sort, hkey.found, hfound, hcursor⟩,
    RowKey.isEmpty_of_cursor? hcursor, hstands, fun hlength =>
      cursorValues?_of_readBack? hcursor hlength hread hkeyLength hstands.length⟩

end Plan

end ListQuery
