import ListQuery.Definition
import ListQuery.Proofs.MappedFields
import ListQuery.Proofs.Totality

/-!
# When the default sort takes effect

A list whose caller gives no sort is sorted by the field that leads its entity: the first of
some usual codes that is declared, or else the first declared field.  Which field leads does
not depend on what it holds, but whether a list may be sorted by it does.  A grid has no order,
and a field with the code of the deletion marker gives way to the built-in one, which has none
either.  If such a field leads, the default sort is dropped like any other sort, and the list
is in the order of its key (`sortsBy_leading`).
-/

namespace ListQuery

open Sql

/-! ## Reports of dropped sorts -/

/-- The field of a sort of which an event tells that it was dropped. -/
def Event.droppedSort? : Event → Option String
  | .dropped .sort field => some field
  | .dropped .filter _ | .dropped .search _ | .cursorRejected _ | .query .. | .queryFailed .. =>
    none

namespace Logged

variable {α β : Type} {first : Logged α} {next : α → Logged β}

/-- The fields of the sorts that are reported as dropped. -/
def droppedSorts (computation : Logged α) : List String :=
  computation.events.filterMap Event.droppedSort?

@[simp] theorem droppedSorts_pure (value : α) : (pure value : Logged α).droppedSorts = [] := rfl

theorem droppedSorts_bind_of_ok {value : α} (hfirst : first.outcome = .ok value) :
    (first >>= next).droppedSorts = first.droppedSorts ++ (next value).droppedSorts := by
  show (andThen first next).droppedSorts = _
  simp only [andThen, hfirst, droppedSorts, List.filterMap_append]

theorem droppedSorts_bind_of_error {failure : Failure} (hfirst : first.outcome = .error failure) :
    (first >>= next).droppedSorts = first.droppedSorts := by
  show (andThen first next).droppedSorts = _
  simp only [andThen, hfirst, droppedSorts]

/-- What reports nothing of sorts adds nothing, whether it is reached or not. -/
theorem droppedSorts_bind_of_silent (hnext : ∀ value, (next value).droppedSorts = []) :
    (first >>= next).droppedSorts = first.droppedSorts := by
  cases hfirst : first.outcome with
  | error failure => exact droppedSorts_bind_of_error hfirst
  | ok value => rw [droppedSorts_bind_of_ok hfirst, hnext, List.append_nil]

end Logged

namespace Mapping

variable (mapping : Mapping)

theorem droppedSorts_filterConditions (filters : List Filter) :
    (mapping.filterConditions filters).droppedSorts = [] := by
  induction filters with
  | nil => rfl
  | cons filter rest ih =>
      unfold filterConditions
      split
      · rw [Logged.droppedSorts_bind_of_ok rfl, ih]
        rfl
      · split
        · rfl
        · exact ih
        · rw [Logged.droppedSorts_bind_of_silent fun _ => rfl, ih]

theorem droppedSorts_searchCondition (search : Option Search) :
    (mapping.searchCondition search).droppedSorts = [] := by
  unfold searchCondition
  split
  · rfl
  · dsimp only
    split
    · rfl
    · split <;> rfl

/-- The fields of the sorts that do not allow one. -/
def unsortable (sorts : List SortKey) : List String :=
  (sorts.map SortKey.field).filter fun name => (mapping.sortableField? name).isNone

/-- A sort is reported exactly if its field does not allow one. -/
theorem droppedSorts_sortOrdering (taken : List String) (sorts : List SortKey) :
    (mapping.sortOrdering taken sorts).droppedSorts = mapping.unsortable sorts := by
  induction sorts generalizing taken with
  | nil => rfl
  | cons sort rest ih =>
      unfold sortOrdering
      cases hfield : mapping.sortableField? sort.field with
      | none =>
          have hsorts : mapping.unsortable (sort :: rest) = sort.field :: mapping.unsortable rest :=
            List.filter_cons_of_pos (by simp [hfield])
          rw [hsorts]
          dsimp only
          rw [Logged.droppedSorts_bind_of_ok rfl, ih]
          rfl
      | some field =>
          have hsorts : mapping.unsortable (sort :: rest) = mapping.unsortable rest :=
            List.filter_cons_of_neg (by simp [hfield])
          rw [hsorts]
          dsimp only
          -- A sort by a field that is taken already is passed over without a report.
          split
          · exact ih taken
          · rw [Logged.droppedSorts_bind_of_silent fun _ => rfl, ih]

/-- Sorts are looked at last, so a draft that fails reports none. -/
theorem droppedSorts_draft (context : Context) :
    (mapping.draft context).droppedSorts =
      if (mapping.draft context).outcome.isOk then
        mapping.unsortable (mapping.effectiveSorts context)
      else [] := by
  -- Neither the search nor the ordering fails, so a draft fails before sorts are looked at.
  obtain ⟨search, hsearch⟩ := mapping.exists_searchCondition context.search
  obtain ⟨ordering, hordering⟩ := mapping.exists_sortOrdering [] (mapping.effectiveSorts context)
  unfold draft
  cases hfilters : (mapping.filterConditions context.filters).outcome with
  | error failure =>
      rw [Logged.droppedSorts_bind_of_error hfilters, droppedSorts_filterConditions,
        Logged.outcome_bind, hfilters]
      rfl
  | ok filters =>
      rw [Logged.droppedSorts_bind_of_ok hfilters, droppedSorts_filterConditions,
        Logged.outcome_bind, hfilters]
      cases securityConditions mapping.securityFilters with
      | error failure => rfl
      | ok security =>
          dsimp only [Except.bind]
          rw [Logged.droppedSorts_bind_of_ok (Logged.outcome_pure security),
            Logged.droppedSorts_bind_of_ok hsearch, droppedSorts_searchCondition,
            Logged.droppedSorts_bind_of_silent fun _ => rfl, droppedSorts_sortOrdering]
          simp [hsearch, hordering, Except.bind, Except.isOk, Except.toBool]

end Mapping

theorem Sql.Select.droppedSorts_page (statement : Select) (context : Context)
    (entityCode : String) (keyFields : List String) :
    (statement.page context entityCode keyFields).droppedSorts = [] := by
  have hcursor : ∀ cursor ordering,
      (cursorCondition cursor entityCode keyFields ordering).droppedSorts = [] := by
    intro cursor ordering
    unfold cursorCondition
    split
    · rfl
    · split <;> rfl
  unfold page
  split
  · rfl
  · dsimp only
    split
    · rfl
    · rw [Logged.droppedSorts_bind_of_silent fun _ => rfl, hcursor]

theorem Mapping.droppedSorts_paged (mapping : Mapping) (context : Context) (entityCode : String) :
    (mapping.paged context entityCode).droppedSorts = (mapping.draft context).droppedSorts :=
  Logged.droppedSorts_bind_of_silent fun draft => draft.statement.droppedSorts_page _ _ _

/-! ## The leading field -/

/-- Accepted applications have entities with fields. -/
theorem Application.fields_ne_nil {application : Application} {entity : EntityDefinition}
    (haccepted : application.fault? = none) (hentity : entity ∈ application.entities) :
    entity.fields ≠ [] := by
  unfold Application.fault? at haccepted
  split_ifs at haccepted
  have hfault := List.findSome?_eq_none_iff.mp haccepted entity hentity
  intro hnil
  simp only [EntityDefinition.fault?, hnil, List.isEmpty_nil, if_true] at hfault
  split at hfault <;> cases hfault

/-- Whether a list may be sorted by a field, if it is the first one declared with its code. -/
def FieldDefinition.AllowsSort (field : FieldDefinition) : Prop :=
  field.code = Mapping.idField ∨ field.code ≠ Mapping.deletionMarker ∧ field.kind ≠ .grid

namespace EntityDefinition

/-- The field that leads an entity. -/
inductive Leads (entity : EntityDefinition) : FieldDefinition → Prop
  | usual {before after : List String} {code : String} {field : FieldDefinition}
      (hcandidates : Mapping.defaultSortCandidates = before ++ code :: after)
      (hfield : entity.field? code = some field)
      (hearlier : ∀ earlier ∈ before, entity.field? earlier = none) : Leads entity field
  | first {field : FieldDefinition} {rest : List FieldDefinition}
      (hnone : ∀ code ∈ Mapping.defaultSortCandidates, entity.field? code = none)
      (hfields : entity.fields = field :: rest) : Leads entity field

variable {entity : EntityDefinition} {field : FieldDefinition}

/-- It is the first field with its code. -/
theorem Leads.field? (hleads : entity.Leads field) : entity.field? field.code = some field := by
  cases hleads with
  | usual hcandidates hfield hearlier =>
      have hcode := List.find?_some hfield
      rw [eq_of_beq hcode]
      exact hfield
  | first hnone hfields => simp [EntityDefinition.field?, hfields]

/-- The default sort is by the leading field, and there is one. -/
theorem exists_leads (hfields : entity.fields ≠ []) :
    ∃ field, entity.Leads field ∧ entity.defaultSort = [SortKey.ascending field.code] := by
  unfold defaultSort
  cases husual : Mapping.defaultSortCandidates.findSome? entity.field? with
  | some field =>
      obtain ⟨before, code, after, hcandidates, hfield, hearlier⟩ :=
        List.findSome?_eq_some_iff.mp husual
      exact ⟨field, .usual hcandidates hfield hearlier, rfl⟩
  | none =>
      obtain ⟨field, rest, hfields⟩ := List.exists_cons_of_ne_nil hfields
      refine ⟨field, .first (List.findSome?_eq_none_iff.mp husual) hfields, ?_⟩
      rw [hfields]
      rfl

/-! ## Lists without a sort of the caller -/

/-- The code of a declared field stands for a mapped field, the sortability of which is known. -/
theorem exists_mapped (hfield : entity.field? field.code = some field) :
    ∃ mapped, entity.mapping.field? field.code = some mapped ∧
      (mapped.sortable = true ↔ field.AllowsSort) := by
  unfold FieldDefinition.AllowsSort
  rw [field?_mapping, hfield, Option.map_some]
  by_cases hid : field.code = Mapping.idField
  · rw [if_pos hid]
    exact ⟨_, rfl, by simp [hid, MappedField.builtIn]⟩
  · rw [if_neg hid]
    by_cases hmarker : field.code = Mapping.deletionMarker
    · rw [if_pos hmarker]
      refine ⟨_, rfl, ?_⟩
      simp [MappedField.builtIn, ← hmarker, hid]
    · rw [if_neg hmarker]
      refine ⟨_, rfl, ?_⟩
      cases hkind : field.kind <;>
        simp [hid, hmarker, hkind, FieldDefinition.mapped, FieldKind.columnType]

/-- An ordering can only lack an entry by the identifier. -/
theorem lacking_keyEntries (taken : List String) :
    Order.lacking taken (Order.firstOfEachField entity.mapping.keyEntries) =
      if Mapping.idField ∈ taken then [] else [Order.byColumn idColumn] := by
  have hentries : entity.mapping.keyEntries = [Order.byColumn idColumn] := rfl
  rw [hentries]
  by_cases htaken : Mapping.idField ∈ taken
  · rw [if_pos htaken, Order.lacking_cons_of_mem htaken]
    rfl
  · rw [if_neg htaken, Order.lacking_cons_of_notMem htaken]
    rfl

/-- How the lists of an entity for a context are sorted: by these entries and then by the
identifier, if it is not among them.  The sorts that are reported as dropped are those given. -/
structure SortsBy (entity : EntityDefinition) (context : Context) (entries : List Order)
    (dropped : List String) : Prop where
  ordering : ∀ draft, (entity.mapping.draft context).outcome = .ok draft →
    draft.statement.ordering = entries
  pageOrdering : ∀ entityCode statement,
    (entity.mapping.paged context entityCode).outcome = .ok statement →
      statement.ordering = context.page.direction.orient
        (entries ++ if Mapping.idField ∈ entries.map Order.field then []
          else [Order.byColumn idColumn])
  /-- A request that fails before its sorts are looked at reports none of them. -/
  reported : ∀ entityCode, (entity.mapping.paged context entityCode).droppedSorts =
    if (entity.mapping.draft context).outcome.isOk then dropped else []

/-- Without a sort of the caller the sort is that of the entity. -/
theorem sortsBy_sortEntries {context : Context} (hsorts : context.sorts = []) :
    entity.SortsBy context
      (Order.firstOfEachField (entity.mapping.sortEntries entity.defaultSort))
      (entity.mapping.unsortable entity.defaultSort) := by
  have heffective : entity.mapping.effectiveSorts context = entity.defaultSort := by
    rw [Mapping.effectiveSorts, hsorts]
    rfl
  have hordering : ∀ draft, (entity.mapping.draft context).outcome = .ok draft →
      draft.statement.ordering =
        Order.firstOfEachField (entity.mapping.sortEntries entity.defaultSort) := by
    intro draft hdraft
    obtain ⟨_, _, _, ordering, -, -, -, hsorted, rfl⟩ := Mapping.draft_eq_ok_iff.mp hdraft
    rw [heffective] at hsorted
    have hentries := Mapping.sortOrdering_eq_lacking hsorted
    rwa [Order.lacking_nil] at hentries
  refine ⟨hordering, fun entityCode statement hpaged => ?_, fun entityCode => ?_⟩
  · obtain ⟨draft, ordering, conditions, hdraft, htotal, -, rfl⟩ :=
      Mapping.paged_eq_ok_iff.mp hpaged
    have happended := Select.totalOrdering_eq_append htotal
    simp only [Select.column?, Mapping.columns_of_draft hdraft, hordering draft hdraft]
      at happended
    show context.page.direction.orient ordering = _
    rw [happended, ← lacking_keyEntries]
    rfl
  · rw [Mapping.droppedSorts_paged, Mapping.droppedSorts_draft, heffective]

/-- The default sort of an accepted entity is by one field, the one that leads, and the mapping
has this field.  If the caller gives no sort and the mapped field is sortable, which the
identifier is and every other field but the deletion marker and grids, the ordering begins with
the entry for it and nothing is dropped.  If it is not sortable the sort is dropped, and this is
reported. -/
theorem sortsBy_leading {application : Application} (haccepted : application.fault? = none)
    (hentity : entity ∈ application.entities) :
    ∃ field mapped, entity.Leads field ∧
      entity.defaultSort = [SortKey.ascending field.code] ∧
      entity.mapping.field? field.code = some mapped ∧
      (mapped.sortable = true ↔ field.AllowsSort) ∧
      ∀ context : Context, context.sorts = [] →
        entity.SortsBy context
          (if mapped.sortable then [Mapping.orderOf mapped (SortKey.ascending field.code)] else [])
          (if mapped.sortable then [] else [field.code]) := by
  obtain ⟨field, hleads, hdefault⟩ := exists_leads (Application.fields_ne_nil haccepted hentity)
  obtain ⟨mapped, hmapped, hsortable⟩ := exists_mapped hleads.field?
  refine ⟨field, mapped, hleads, hdefault, hmapped, hsortable, fun context hsorts => ?_⟩
  have hfound : entity.mapping.sortableField? field.code =
      if mapped.sortable then some mapped else none := by
    rw [Mapping.sortableField?, hmapped]
    rfl
  have hentries : Order.firstOfEachField
        (entity.mapping.sortEntries [SortKey.ascending field.code]) =
      if mapped.sortable then [Mapping.orderOf mapped (SortKey.ascending field.code)] else [] := by
    by_cases hcase : mapped.sortable = true
    · simp [Mapping.sortEntries, SortKey.ascending, hfound, hcase, Order.firstOfEachField]
    · simp [Mapping.sortEntries, SortKey.ascending, hfound, hcase, Order.firstOfEachField]
  have hreported : entity.mapping.unsortable [SortKey.ascending field.code] =
      if mapped.sortable then [] else [field.code] := by
    by_cases hcase : mapped.sortable = true
    · simp [Mapping.unsortable, SortKey.ascending, hfound, hcase]
    · simp [Mapping.unsortable, SortKey.ascending, hfound, hcase]
  rw [← hentries, ← hreported, ← hdefault]
  exact sortsBy_sortEntries hsorts

/-- The list of the sample is sorted by the name and then by the identifier. -/
theorem sortsBy_leading_sample :
    ∃ mapped, sample.mapping.field? "name" = some mapped ∧
      sample.SortsBy Context.standard [Mapping.orderOf mapped (SortKey.ascending "name")] [] := by
  have haccepted : (⟨"shop", "Shop", [sample], []⟩ : Application).fault? = none := by
    decide +kernel
  obtain ⟨field, mapped, -, hdefault, hmapped, -, hsorts⟩ :=
    sortsBy_leading haccepted List.mem_cons_self
  have hcode : field.code = "name" := by
    have hname : sample.defaultSort = [SortKey.ascending "name"] := by decide +kernel
    rw [hname] at hdefault
    exact (congrArg SortKey.field (List.singleton_inj.mp hdefault)).symm
  rw [hcode] at hmapped hsorts
  have hsortable : (sample.mapping.field? "name").all MappedField.sortable = true := by
    decide +kernel
  rw [hmapped, Option.all_some] at hsortable
  exact ⟨mapped, hmapped, by simpa [hsortable] using hsorts Context.standard rfl⟩

/-- An entity with a grid and nothing else. -/
def gridded : EntityDefinition :=
  ⟨"order", "Order", [⟨"lines", "Lines", .grid, true, none⟩], false⟩

/-- An accepted entity may have a default sort by a field that does not allow one. -/
theorem not_sortable_gridded : ¬∀ application : Application, application.fault? = none →
    ∀ entity ∈ application.entities, ∀ sort ∈ entity.defaultSort,
      (entity.mapping.sortableField? sort.field).isSome = true := by
  intro hall
  have hsortable := hall ⟨"shop", "Shop", [gridded], []⟩ (by decide +kernel) gridded
    List.mem_cons_self (SortKey.ascending "lines") (by decide +kernel)
  revert hsortable
  decide +kernel

end EntityDefinition

end ListQuery
