import ListQuery.Proofs.Derivation
import ListQuery.Proofs.MappedFields

/-!
# The names of selected columns

A statement selects every mapped field under its name and beside them the text that identifies
a row.  No two mapped fields have the same name.  So a name stands for one column, save the name
of the text: a declared field that has it is selected under it as well (`columns_named`).
-/

namespace ListQuery

open Sql

/-! ## Selected columns -/

namespace EntityDefinition

variable {entity : EntityDefinition}

/-- The names of the columns are those of the fields and the one of the key. -/
theorem aliasNames_columns : entity.mapping.columns.map Column.aliasName =
    entity.mapping.fields.map MappedField.field ++ [Mapping.keyAlias] := by
  simp [Mapping.columns]

/-- The columns have different names unless a field is declared with the name of the key. -/
theorem nodup_aliasNames_iff : (entity.mapping.columns.map Column.aliasName).Nodup ↔
    ∀ field ∈ entity.fields, field.code ≠ Mapping.keyAlias := by
  have hid : Mapping.keyAlias ≠ Mapping.idField := by decide
  have hmarker : Mapping.keyAlias ≠ Mapping.deletionMarker := by decide
  rw [aliasNames_columns, List.nodup_append_comm, List.singleton_append, List.nodup_cons,
    and_iff_left nodup_names_mappedFields, mem_names_mappedFields]
  simp [hid, hmarker]

/-- The columns with a name are the mapped field that has it and, if it is the name of the key,
the text of the key. -/
theorem columns_named (name : String) :
    entity.mapping.columns.filter (·.aliasName == name) =
      (entity.mapping.field? name).toList.map (fun field => ⟨field.expression, field.field⟩) ++
        if name = Mapping.keyAlias then [⟨entity.mapping.keyText, Mapping.keyAlias⟩] else [] := by
  rw [Mapping.columns, List.filter_append, List.filter_map]
  congr 1
  · rw [Mapping.field?, ← MappedField.filter_name_eq nodup_names_mappedFields]
    rfl
  · by_cases hname : name = Mapping.keyAlias
    · simp [hname]
    · simp [hname, Ne.symm hname]

/-- No two columns of a statement share a name, unless a field is declared with the name of the
key.  Each entry of an ordering that a cursor is made for is by the one column with its name,
unless this is the name of the key. -/
theorem aliases_of_draft {context : Context} {draft : Draft}
    (hdraft : (entity.mapping.draft context).outcome = .ok draft) :
    ((draft.statement.columns.map Column.aliasName).Nodup ↔
      ∀ field ∈ entity.fields, field.code ≠ Mapping.keyAlias) ∧
    (∀ name, draft.statement.columns.filter (·.aliasName == name) =
      (entity.mapping.field? name).toList.map (fun field => ⟨field.expression, field.field⟩) ++
        if name = Mapping.keyAlias then [⟨entity.mapping.keyText, Mapping.keyAlias⟩] else []) ∧
    ∀ ordering, draft.statement.totalOrdering draft.statement.ordering entity.mapping.keyFields =
      .ok ordering → ∀ order ∈ ordering, order.field ≠ Mapping.keyAlias →
        draft.statement.columns.filter (·.aliasName == order.field) =
          [⟨order.expression, order.field⟩] := by
  rw [Mapping.columns_of_draft hdraft]
  refine ⟨nodup_aliasNames_iff, columns_named, fun ordering htotal order horder hname => ?_⟩
  have hmem := Mapping.column_mem_of_arranges
    ((Mapping.totalOrdering_arranges hdraft htotal).1 order horder)
  have hfilter : (⟨order.expression, order.field⟩ : Column) ∈
      entity.mapping.columns.filter (·.aliasName == order.field) :=
    List.mem_filter.mpr ⟨hmem, beq_self_eq_true _⟩
  -- Only one column can have this name, so it is the one that the entry compares.
  rw [columns_named, if_neg hname, List.append_nil] at hfilter ⊢
  cases hfield : entity.mapping.field? order.field with
  | none => simp [hfield] at hfilter
  | some field =>
      rw [hfield, Option.toList_some, List.map_singleton, List.mem_singleton] at hfilter
      rw [Option.toList_some, List.map_singleton, hfilter]

/-- The columns of the sample entity have different names, and one of them is the identifier. -/
theorem aliases_of_draft_sample :
    ∃ draft, (sample.mapping.draft Context.standard).outcome = .ok draft ∧
      (draft.statement.columns.map Column.aliasName).Nodup ∧
      draft.statement.columns.filter (·.aliasName == "id") = [idColumn] := by
  obtain ⟨draft, hdraft⟩ := exists_ok_of_isOk
    (show (sample.mapping.draft Context.standard).outcome.isOk = true by decide +kernel)
  obtain ⟨hnodup, hnamed, hordering⟩ := aliases_of_draft hdraft
  refine ⟨draft, hdraft, hnodup.mpr (by decide), ?_⟩
  rw [hnamed]
  decide +kernel

/-- An entity with a field that is called like the key. -/
def keyed : EntityDefinition :=
  ⟨"item", "Item", [⟨Mapping.keyAlias, "Global key", .string, false, none⟩], false⟩

/-- An application may be accepted although two columns of a statement have the same name. -/
theorem not_nodup_aliases_keyed : ¬∀ application : Application, application.fault? = none →
    ∀ entity ∈ application.entities, ∀ context draft,
      (entity.mapping.draft context).outcome = .ok draft →
        (draft.statement.columns.map Column.aliasName).Nodup := by
  intro hall
  obtain ⟨draft, hdraft⟩ := exists_ok_of_isOk
    (show (keyed.mapping.draft Context.standard).outcome.isOk = true by decide +kernel)
  have hnodup := hall ⟨"shop", "Shop", [keyed], []⟩ (by decide +kernel) keyed
    List.mem_cons_self Context.standard draft hdraft
  rw [Mapping.columns_of_draft hdraft, nodup_aliasNames_iff] at hnodup
  exact hnodup _ List.mem_cons_self rfl

end EntityDefinition

end ListQuery
