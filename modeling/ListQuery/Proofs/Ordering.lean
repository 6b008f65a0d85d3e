import ListQuery.Proofs.Statement

/-!
# The entries of an ordering

The ordering of a page has an entry for each sort that applies and one for each key
field that no sort names.  Either way an entry sorts by a column that the statement
selects (`column_mem_of_arranges`), so that a row of the result holds the value that
the entry compares; and every key field has an entry.
-/

namespace ListQuery

open Sql

/-! ## Sorts -/

namespace Mapping

variable {mapping : Mapping}

theorem mem_fields_of_sortableField? {name : String} {field : MappedField}
    (hfield : mapping.sortableField? name = some field) : field ∈ mapping.fields :=
  List.mem_of_find?_eq_some (Option.filter_eq_some_iff.mp hfield).1

/-- Every entry for a sort is by a field of the mapping. -/
theorem sortOrdering_cases {taken : List String} {sorts : List SortKey} {ordering : List Order}
    (hordering : (mapping.sortOrdering taken sorts).outcome = .ok ordering) :
    ∀ order ∈ ordering, ∃ field ∈ mapping.fields, ∃ sort ∈ sorts, order = orderOf field sort := by
  induction sorts generalizing taken ordering with
  | nil =>
      obtain rfl : ordering = [] := by simpa [sortOrdering, eq_comm] using hordering
      simp
  | cons sort rest ih =>
      -- Dropped or not, a sort leaves the later ones to the induction.
      have hlater : ∀ {taken : List String} {others : List Order},
          (mapping.sortOrdering taken rest).outcome = .ok others →
          ∀ order ∈ others, ∃ field ∈ mapping.fields, ∃ other ∈ sort :: rest,
            order = orderOf field other := by
        intro taken others hothers order horder
        obtain ⟨field, hfield, other, hother, rfl⟩ := ih hothers order horder
        exact ⟨field, hfield, other, List.mem_cons_of_mem _ hother, rfl⟩
      rw [sortOrdering] at hordering
      cases hfield : mapping.sortableField? sort.field with
      | none =>
          simp only [hfield, Logged.outcome_bind, Logged.outcome_report, Except.bind] at hordering
          exact hlater hordering
      | some field =>
          simp only [hfield] at hordering
          split at hordering
          · exact hlater hordering
          · simp only [Logged.outcome_bind, Logged.outcome_pure, bind_eq_ok_iff,
              Except.ok.injEq] at hordering
            obtain ⟨others, hothers, rfl⟩ := hordering
            intro order horder
            rcases List.mem_cons.mp horder with rfl | horder
            · exact ⟨field, mem_fields_of_sortableField? hfield, sort, List.mem_cons_self, rfl⟩
            · exact hlater hothers order horder

end Mapping

/-! ## Key fields -/

/-- The entry that breaks ties by a selected column. -/
def Sql.Order.byColumn (column : Column) : Order :=
  ⟨column.aliasName, column.expression, .ascending, none, none⟩

namespace Sql.Select

variable {statement : Select}

theorem column_mem {name : String} {column : Column}
    (hcolumn : statement.column? name = some column) :
    column ∈ statement.columns ∧ column.aliasName = name := by
  refine ⟨List.mem_of_find?_eq_some hcolumn, ?_⟩
  simpa using List.find?_some hcolumn

/-- The ordering is kept, and each key field that it lacks is appended as a selected
column. -/
theorem totalOrdering_eq_ok {ordering result : List Order} {keyFields : List String}
    (hresult : statement.totalOrdering ordering keyFields = .ok result) :
    (∃ appended : List Column, result = ordering ++ appended.map Order.byColumn ∧
      ∀ column ∈ appended, column ∈ statement.columns ∧ column.aliasName ∈ keyFields) ∧
    ∀ key ∈ keyFields, ∃ order ∈ result, order.field = key := by
  -- The entries that earlier keys have appended are part of the ordering for the later ones.
  induction keyFields generalizing ordering with
  | nil =>
      obtain rfl : ordering = result := by simpa [totalOrdering] using hresult
      exact ⟨⟨[], by simp, by simp⟩, by simp⟩
  | cons key rest ih =>
      rw [totalOrdering] at hresult
      split at hresult
      next hpresent =>
        obtain ⟨⟨appended, rfl, hcolumns⟩, hkeys⟩ := ih hresult
        refine ⟨⟨appended, rfl, fun column hcolumn => ?_⟩, List.forall_mem_cons.mpr ⟨?_, hkeys⟩⟩
        · exact ⟨(hcolumns column hcolumn).1, List.mem_cons_of_mem _ (hcolumns column hcolumn).2⟩
        · obtain ⟨order, horder, hfield⟩ := List.any_eq_true.mp hpresent
          exact ⟨order, List.mem_append_left _ horder, by simpa using hfield⟩
      next =>
        cases hcolumn : statement.column? key with
        | none => simp [hcolumn] at hresult
        | some column =>
            obtain ⟨hmem, rfl⟩ := column_mem hcolumn
            simp only [hcolumn] at hresult
            obtain ⟨⟨appended, rfl, hcolumns⟩, hkeys⟩ := ih hresult
            refine ⟨⟨column :: appended, by simp [Order.byColumn], List.forall_mem_cons.mpr
              ⟨⟨hmem, List.mem_cons_self⟩, fun other hother => ?_⟩⟩,
              List.forall_mem_cons.mpr ⟨?_, hkeys⟩⟩
            · exact ⟨(hcolumns other hother).1, List.mem_cons_of_mem _ (hcolumns other hother).2⟩
            · exact ⟨Order.byColumn column, by simp [Order.byColumn], rfl⟩

end Sql.Select

/-! ## The ordering of a page -/

namespace Mapping

/-- The entries that the ordering of a page can have, in the declared direction. -/
inductive Arranges (mapping : Mapping) : Order → Prop
  | sort {field : MappedField} (hfield : field ∈ mapping.fields) (sort : SortKey) :
      Arranges mapping (orderOf field sort)
  | key {column : Column} (hcolumn : column ∈ mapping.columns)
      (hkey : column.aliasName ∈ mapping.keyFields) : Arranges mapping (Order.byColumn column)

variable {mapping : Mapping}

/-- An entry compares what the statement selects under the name of the entry's field. -/
theorem column_mem_of_arranges {order : Order} (horder : mapping.Arranges order) :
    (⟨order.expression, order.field⟩ : Column) ∈ mapping.columns := by
  cases horder with
  | sort hfield sort => exact List.mem_append_left _ (List.mem_map_of_mem hfield)
  | key hcolumn hkey => exact hcolumn

theorem totalOrdering_arranges {context : Context} {draft : Draft} {ordering : List Order}
    (hdraft : (mapping.draft context).outcome = .ok draft)
    (htotal : draft.statement.totalOrdering draft.statement.ordering mapping.keyFields =
      .ok ordering) :
    (∀ order ∈ ordering, mapping.Arranges order) ∧
    ∀ key ∈ mapping.keyFields, ∃ order ∈ ordering, order.field = key := by
  obtain ⟨_, _, _, sorted, -, -, -, hsorted, rfl⟩ := draft_eq_ok_iff.mp hdraft
  obtain ⟨⟨appended, rfl, hcolumns⟩, hkeys⟩ := Select.totalOrdering_eq_ok htotal
  refine ⟨fun order horder => ?_, hkeys⟩
  rcases List.mem_append.mp horder with horder | horder
  · obtain ⟨field, hfield, sort, -, rfl⟩ := sortOrdering_cases hsorted order horder
    exact .sort hfield sort
  · obtain ⟨column, hcolumn, rfl⟩ := List.mem_map.mp horder
    exact .key (hcolumns column hcolumn).1 (hcolumns column hcolumn).2

end Mapping

end ListQuery
