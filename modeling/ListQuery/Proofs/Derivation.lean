import ListQuery.Proofs.Ordering
import ListQuery.Proofs.Security
import ListQuery.Proofs.Sql.After
import Mathlib.Data.List.Nodup

/-!
# Statements of derived mappings

A database can answer the statements of a derived mapping: it can read every condition,
and every entry of the ordering is by a column.  The one clause that comes from the
mapping is the one that hides deleted rows, which is a comparison.

If no two selected columns share a name, a name stands for one expression.  The entry
for the key field is then by the identifier of a row, and not by the text that is
selected beside it.
-/

namespace ListQuery

open Sql

/-! ## Conditions -/

/-- The conditions of filters can be read, whatever their values are. -/
theorem MappedField.readable_form {field : MappedField} {condition : Fragment}
    (hform : field.Form condition) : Readable .factor condition := by
  have hterm : TermReads field.expression (.column field.table field.column none) :=
    termReads_plainColumn field.table field.column
  have hplain : field.expression.IsPlain := Fragment.isPlain_column field.table field.column
  have hbound : ∀ value type, TermReads (Fragment.parameter value type) (.parameter value type) :=
    termReads_parameter
  cases hform with
  | isNull => exact ⟨by simp [isNull, hplain], _, readsAs_isNull hterm⟩
  | isNotNull => exact ⟨by simp [isNotNull, hplain], _, readsAs_isNotNull hterm⟩
  | compare sign value =>
      exact ⟨by simp [compare, hplain], _, readsAs_compare sign hterm (hbound value _)⟩
  | between lower upper =>
      exact ⟨by simp [between, hplain], _, readsAs_between hterm (hbound lower _) (hbound upper _)⟩
  | matchesPattern pattern =>
      refine ⟨by simp [matchesPattern, hplain], _,
        readsAs_ilike (termReads_column field.table field.column _) (hbound _ none)⟩
  | compareEach sign hquantifier value values =>
      refine ⟨by simp [compareEach, hplain], ?_⟩
      rcases hquantifier with rfl | rfl
      · exact ⟨_, readsAs_compareEach sign hterm value values _ (.inl ⟨rfl, rfl⟩)⟩
      · exact ⟨_, readsAs_compareEach sign hterm value values _ (.inr ⟨rfl, rfl⟩)⟩

namespace EntityDefinition

variable {entity : EntityDefinition}

theorem isSome_read?_of_stipulates {condition : Fragment}
    (hcondition : entity.mapping.Stipulates condition) : (Condition.read? condition).isSome := by
  cases hcondition with
  | filter hfield hform =>
      exact (MappedField.readable_form hform).alone.isSome_read?
  | negatedFilter hfield hform =>
      have hinner := (MappedField.readable_form hform).alone
      exact hinner.parenthesized.negated.alone.isSome_read?
  | security hfilter hcount =>
      rw [List.mem_singleton.mp hfilter, read?_deletionFilter]
      rfl
  | search hfields hsome pattern =>
      refine (Readable.join_or (List.forall_mem_map.mpr fun field _ => ?_)
        (by simpa using hsome)).isSome_read?
      exact (MappedField.readable_form (.matchesPattern pattern)).toConjunction

/-- All conditions of a draft can be read. -/
theorem isSome_read?_of_draft {context : Context} {draft : Draft}
    (hdraft : (entity.mapping.draft context).outcome = .ok draft) :
    ∀ condition ∈ draft.statement.conditions, (Condition.read? condition).isSome :=
  fun condition hcondition =>
    isSome_read?_of_stipulates (Mapping.mem_conditions_cases hdraft condition hcondition)

/-! ## Columns -/

/-- The column of the identifier of a row. -/
def idColumn : Column :=
  ⟨Fragment.column Mapping.baseAlias Mapping.idField, Mapping.idField⟩

theorem idColumn_mem : idColumn ∈ entity.mapping.columns := by
  refine List.mem_append_left _ (List.mem_map.mpr
    ⟨MappedField.builtIn Mapping.idField .string true, ?_, rfl⟩)
  exact List.mem_cons_self

/-- A name stands for one column. -/
theorem column_eq_of_aliasName {first second : Column}
    (haliases : (entity.mapping.columns.map Column.aliasName).Nodup)
    (hfirst : first ∈ entity.mapping.columns) (hsecond : second ∈ entity.mapping.columns)
    (hname : first.aliasName = second.aliasName) : first = second :=
  List.inj_on_of_nodup_map haliases hfirst hsecond hname

/-- Every entry of an ordering is by a column of a table. -/
theorem isColumn_of_arranges (haliases : (entity.mapping.columns.map Column.aliasName).Nodup)
    {order : Order} (horder : entity.mapping.Arranges order) : order.IsColumn := by
  cases horder with
  | sort hfield sort => exact ⟨_, _, rfl⟩
  | key hcolumn hkey =>
      obtain rfl :=
        column_eq_of_aliasName haliases hcolumn idColumn_mem (List.mem_singleton.mp hkey)
      exact ⟨_, _, rfl⟩

/-- Some entry of the ordering of a page is by the identifier. -/
theorem exists_order_by_id (haliases : (entity.mapping.columns.map Column.aliasName).Nodup)
    {context : Context} {draft : Draft} {ordering : List Order}
    (hdraft : (entity.mapping.draft context).outcome = .ok draft)
    (htotal : draft.statement.totalOrdering draft.statement.ordering entity.mapping.keyFields =
      .ok ordering) :
    ∃ order ∈ ordering, order.field = Mapping.idField ∧
      order.expression = Fragment.column Mapping.baseAlias Mapping.idField := by
  obtain ⟨harranges, hkeys⟩ := Mapping.totalOrdering_arranges hdraft htotal
  obtain ⟨order, horder, hfield⟩ := hkeys Mapping.idField (List.mem_singleton_self _)
  have hcolumn := Mapping.column_mem_of_arranges (harranges order horder)
  have heq := column_eq_of_aliasName haliases hcolumn idColumn_mem hfield
  exact ⟨order, horder, hfield, congrArg Column.expression heq⟩

end EntityDefinition

end ListQuery
