import ListQuery.Plan
import ListQuery.Proofs.Keyset
import Mathlib.Data.List.Forall2

/-!
# The parts of a planned statement

Planning is a sequence of computations that report events and may fail.  Here each
of them is inverted once: `draft_eq_ok_iff` says which parts make up a draft,
`page_eq_ok_iff` what cutting a page out of it changes, and `plan_eq_ok_iff` how
the two make up a plan.  What follows about planned statements is derived from
these three and opens no computation again.
-/

namespace ListQuery

open Sql

/-! ## Outcomes of computations -/

namespace Logged

variable {α β : Type}

@[simp] theorem outcome_pure (value : α) : (pure value : Logged α).outcome = .ok value := rfl

@[simp] theorem outcome_fail (failure : Failure) :
    (fail failure : Logged α).outcome = .error failure := rfl

@[simp] theorem outcome_reject (rejection : Rejection) :
    (reject rejection : Logged α).outcome = .error (.rejected rejection) := rfl

@[simp] theorem outcome_report (event : Event) : (report event).outcome = .ok () := rfl

/-- The second computation runs on the value of the first. -/
@[simp] theorem outcome_bind (first : Logged α) (next : α → Logged β) :
    (first >>= next).outcome = first.outcome.bind fun value => (next value).outcome := by
  show (andThen first next).outcome = _
  unfold andThen
  cases first.outcome <;> rfl

end Logged

/-- A sequence succeeds if its first part does and then its second. -/
theorem bind_eq_ok_iff {ε α β : Type} {first : Except ε α} {next : α → Except ε β} {result : β} :
    first.bind next = .ok result ↔ ∃ value, first = .ok value ∧ next value = .ok result := by
  cases first with
  | error fault => simp [Except.bind]
  | ok value => simp [Except.bind]

/-- It fails where its first part does, or else with its second. -/
theorem bind_eq_error_iff {ε α β : Type} {first : Except ε α} {next : α → Except ε β}
    {fault : ε} :
    first.bind next = .error fault ↔
      first = .error fault ∨ ∃ value, first = .ok value ∧ next value = .error fault := by
  cases first with
  | error other => simp [Except.bind]
  | ok value => simp [Except.bind]

/-- A computation whose value is put in other terms succeeds and fails as it did. -/
theorem map_eq_ok_iff {ε α β : Type} {restate : α → β} {computed : Except ε α} {result : β} :
    computed.map restate = .ok result ↔ ∃ value, computed = .ok value ∧ restate value = result := by
  cases computed with
  | error fault => simp [Except.map]
  | ok value => simp [Except.map]

theorem map_eq_error_iff {ε α β : Type} {restate : α → β} {computed : Except ε α} {fault : ε} :
    computed.map restate = .error fault ↔ computed = .error fault := by
  cases computed with
  | error other => simp [Except.map]
  | ok value => simp [Except.map]

/-- A computation whose error is put in other terms succeeds with what it gives. -/
theorem mapError_eq_ok_iff {ε δ α : Type} {restate : ε → δ} {result : Except ε α} {value : α} :
    result.mapError restate = .ok value ↔ result = .ok value := by
  cases result with
  | error fault => exact ⟨nofun, nofun⟩
  | ok found =>
      show (.ok found : Except δ α) = .ok value ↔ _
      rw [Except.ok.injEq, Except.ok.injEq]

/-- That a computation succeeds is seen by running it. -/
theorem exists_ok_of_isOk {ε α : Type} {result : Except ε α} (hresult : result.isOk = true) :
    ∃ value, result = .ok value := by
  cases result with
  | error fault => cases hresult
  | ok value => exact ⟨value, rfl⟩

section

variable {ε α β : Type} {compute : α → Except ε β} {items : List α}

/-- Computing a result for each item gives the results of the items, one by one. -/
theorem mapM_eq_ok_iff {results : List β} :
    items.mapM compute = .ok results ↔
      List.Forall₂ (fun item result => compute item = .ok result) items results := by
  induction items generalizing results with
  | nil =>
      rw [List.mapM_nil, List.forall₂_nil_left_iff]
      exact ⟨fun heq => (Except.ok.inj heq).symm, fun heq => congrArg Except.ok heq.symm⟩
  | cons item rest ih =>
      rw [List.mapM_cons, List.forall₂_cons_left_iff]
      simp only [bind, pure, Except.pure, bind_eq_ok_iff, ih, Except.ok.injEq]
      constructor
      · rintro ⟨first, hfirst, others, hothers, rfl⟩
        exact ⟨first, others, hfirst, hothers, rfl⟩
      · rintro ⟨first, others, hfirst, hothers, rfl⟩
        exact ⟨first, hfirst, others, hothers, rfl⟩

/-- It fails with the fault of an item. -/
theorem exists_of_mapM_eq_error {fault : ε} (hfault : items.mapM compute = .error fault) :
    ∃ item ∈ items, compute item = .error fault := by
  induction items with
  | nil => cases hfault
  | cons item rest ih =>
      rw [List.mapM_cons] at hfault
      rcases bind_eq_error_iff.mp hfault with hfirst | ⟨first, -, hothers⟩
      · exact ⟨item, List.mem_cons_self, hfirst⟩
      · rcases bind_eq_error_iff.mp hothers with hrest | ⟨others, -, hpure⟩
        · obtain ⟨other, hother, hfault⟩ := ih hrest
          exact ⟨other, List.mem_cons_of_mem _ hother, hfault⟩
        · cases hpure

/-- It succeeds if every item has a result. -/
theorem exists_mapM_iff :
    (∃ results, items.mapM compute = .ok results) ↔
      ∀ item ∈ items, ∃ result, compute item = .ok result := by
  constructor
  · rintro ⟨results, hresults⟩
    rw [mapM_eq_ok_iff] at hresults
    induction hresults with
    | nil => exact List.forall_mem_nil _
    | cons hfirst _ ih => exact List.forall_mem_cons.mpr ⟨⟨_, hfirst⟩, ih⟩
  · intro hall
    cases hresults : items.mapM compute with
    | ok results => exact ⟨results, rfl⟩
    | error fault =>
        obtain ⟨item, hitem, hfault⟩ := exists_of_mapM_eq_error hresults
        obtain ⟨result, hresult⟩ := hall item hitem
        rw [hfault] at hresult
        cases hresult

/-- There are as many results as items, and each of them is the result of an item. -/
theorem results_of_mapM {results : List β} (hresults : items.mapM compute = .ok results) :
    results.length = items.length ∧
      ∀ result ∈ results, ∃ item ∈ items, compute item = .ok result := by
  rw [mapM_eq_ok_iff] at hresults
  refine ⟨hresults.length_eq.symm, ?_⟩
  induction hresults with
  | nil => exact List.forall_mem_nil _
  | cons hfirst _ ih =>
      refine List.forall_mem_cons.mpr ⟨⟨_, List.mem_cons_self, hfirst⟩, fun result hresult => ?_⟩
      obtain ⟨item, hitem, hcompute⟩ := ih result hresult
      exact ⟨item, List.mem_cons_of_mem _ hitem, hcompute⟩

end

/-! ## Drafts -/

namespace Mapping

/-- Sorts are dropped if need be, but they never fail. -/
theorem exists_sortOrdering (mapping : Mapping) (taken : List String) (sorts : List SortKey) :
    ∃ ordering, (mapping.sortOrdering taken sorts).outcome = .ok ordering := by
  induction sorts generalizing taken with
  | nil => exact ⟨[], rfl⟩
  | cons sort rest ih =>
      rw [sortOrdering]
      split
      · exact ih taken
      next field _ =>
        split
        · exact ih taken
        · obtain ⟨ordering, hordering⟩ := ih (field.field :: taken)
          exact ⟨orderOf field sort :: ordering, by simp [hordering, Except.bind]⟩

/-- Nor does a search, which is dropped if it has no field to look at. -/
theorem exists_searchCondition (mapping : Mapping) (search : Option Search) :
    ∃ found, (mapping.searchCondition search).outcome = .ok found := by
  unfold searchCondition
  split
  · exact ⟨none, rfl⟩
  · dsimp only
    split
    · exact ⟨none, rfl⟩
    · split
      · exact ⟨none, rfl⟩
      · exact ⟨_, rfl⟩

/-- A draft is made of the conditions of the filters, of the security filters and of
the search, in this order, and of the ordering for the sorts. -/
theorem draft_eq_ok_iff {mapping : Mapping} {context : Context} {result : Draft} :
    (mapping.draft context).outcome = .ok result ↔
      ∃ filters security search ordering,
        (mapping.filterConditions context.filters).outcome = .ok filters ∧
        securityConditions mapping.securityFilters = .ok security ∧
        (mapping.searchCondition context.search).outcome = .ok search ∧
        (mapping.sortOrdering [] (mapping.effectiveSorts context)).outcome = .ok ordering ∧
        result =
          ⟨⟨mapping.columns, mapping.source, mapping.sqlJoins,
              filters ++ security ++ (search.map Prod.fst).toList, ordering, none⟩,
            filters.length, search.map Prod.snd⟩ := by
  unfold draft
  cases hsecurity : securityConditions mapping.securityFilters with
  | error failure => simp [bind_eq_ok_iff]
  | ok security =>
      simp only [Logged.outcome_bind, Logged.outcome_pure, bind_eq_ok_iff, Except.ok.injEq]
      constructor
      · rintro ⟨filters, hfilters, _, rfl, search, hsearch, ordering, hordering, rfl⟩
        exact ⟨filters, _, search, ordering, hfilters, rfl, hsearch, hordering, rfl⟩
      · rintro ⟨filters, _, search, ordering, hfilters, rfl, hsearch, hordering, rfl⟩
        exact ⟨filters, hfilters, _, rfl, search, hsearch, ordering, hordering, rfl⟩

/-- What is selected depends on the mapping only. -/
theorem columns_of_draft {mapping : Mapping} {context : Context} {draft : Draft}
    (hdraft : (mapping.draft context).outcome = .ok draft) :
    draft.statement.columns = mapping.columns := by
  obtain ⟨_, _, _, _, -, -, -, -, rfl⟩ := draft_eq_ok_iff.mp hdraft
  rfl

end Mapping

/-! ## Cursors -/

/-- The values at which a cursor says that an entity's list continues. -/
def cursorValues? (cursor entityCode : String) (keyFields : List String)
    (ordering : List Order) : Option (List Scalar) :=
  match RowKey.ofCursor? cursor with
  | .error _ => none
  | .ok place => place.valuesFor? entityCode keyFields ordering

theorem cursorCondition_eq_ok_iff {cursor entityCode : String} {keyFields : List String}
    {ordering : List Order} {condition : Fragment} :
    (cursorCondition cursor entityCode keyFields ordering).outcome = .ok condition ↔
      ∃ values, cursorValues? cursor entityCode keyFields ordering = some values ∧
        condition = Order.strictlyAfter ordering values := by
  unfold cursorCondition cursorValues?
  cases RowKey.ofCursor? cursor with
  | error fault => simp [Except.bind]
  | ok place =>
      cases hvalues : place.valuesFor? entityCode keyFields ordering with
      | none => simp [hvalues, Except.bind]
      | some values => simp [hvalues, eq_comm]

/-! ## Pages -/

/-- The ordering of a statement whose page lies in the given direction. -/
def PageDirection.orient (direction : PageDirection) (ordering : List Order) : List Order :=
  match direction with
  | .forward => ordering
  | .backward => ordering.map Order.reversed

/-- What holds of all entries in either direction holds of them in the other. -/
theorem PageDirection.forall_mem_orient (direction : PageDirection)
    {motive : Order → Prop} {ordering : List Order}
    (hordering : ∀ order ∈ ordering, motive order)
    (hreversed : ∀ order, motive order → motive order.reversed) :
    ∀ order ∈ direction.orient ordering, motive order := by
  cases direction with
  | forward => exact hordering
  | backward =>
      exact List.forall_mem_map.mpr fun order horder => hreversed order (hordering order horder)

/-- A field that occurs in an ordering occurs in either direction. -/
theorem PageDirection.exists_mem_orient (direction : PageDirection) {ordering : List Order}
    {field : String} (hfield : ∃ order ∈ ordering, order.field = field) :
    ∃ order ∈ direction.orient ordering, order.field = field := by
  obtain ⟨order, horder, rfl⟩ := hfield
  cases direction with
  | forward => exact ⟨order, horder, rfl⟩
  | backward => exact ⟨order.reversed, List.mem_map_of_mem horder, rfl⟩

/-- The conditions that the cursor of a context adds to a page with the given ordering:
one, or none without a cursor.  A cursor of another list adds nothing at all. -/
def Context.cursorConditions? (context : Context) (entityCode : String) (keyFields : List String)
    (ordering : List Order) : Option (List Fragment) :=
  match context.activeCursor with
  | none => some []
  | some cursor =>
    (cursorValues? cursor entityCode keyFields ordering).map fun values =>
      [Order.strictlyAfter ordering values]

theorem mem_cursorConditions {context : Context} {entityCode : String} {keyFields : List String}
    {ordering : List Order} {conditions : List Fragment}
    (hconditions : context.cursorConditions? entityCode keyFields ordering = some conditions) :
    ∀ condition ∈ conditions, ∃ values, condition = Order.strictlyAfter ordering values := by
  unfold Context.cursorConditions? at hconditions
  split at hconditions
  · obtain rfl : conditions = [] := by simpa using hconditions.symm
    simp
  · obtain ⟨values, -, rfl⟩ := Option.map_eq_some_iff.mp hconditions
    exact List.forall_mem_singleton.mpr ⟨values, rfl⟩

theorem length_cursorConditions {context : Context} {entityCode : String}
    {keyFields : List String} {ordering : List Order} {conditions : List Fragment}
    (hconditions : context.cursorConditions? entityCode keyFields ordering = some conditions) :
    conditions.length ≤ 1 := by
  unfold Context.cursorConditions? at hconditions
  split at hconditions
  · cases hconditions
    exact Nat.zero_le 1
  · obtain ⟨values, -, rfl⟩ := Option.map_eq_some_iff.mp hconditions
    exact Nat.le_refl 1

namespace Sql.Select

/-- The statement with further conditions, and with the ordering and the limit of a
page. -/
def cut (statement : Select) (conditions : List Fragment) (ordering : List Order)
    (limit : UInt32) : Select :=
  { statement with
    conditions := statement.conditions ++ conditions
    ordering := ordering
    limit := some (fetchLimit limit) }

private theorem page_of_totalOrdering {statement : Select} {context : Context}
    {entityCode : String} {keyFields : List String} {ordering : List Order}
    (htotal : statement.totalOrdering statement.ordering keyFields = .ok ordering) :
    statement.page context entityCode keyFields =
      match context.activeCursor with
      | none =>
        pure (statement.cut [] (context.page.direction.orient ordering) context.page.limit)
      | some cursor => do
        let condition ← cursorCondition cursor entityCode keyFields
          (context.page.direction.orient ordering)
        return { ({ statement with ordering := context.page.direction.orient ordering } :
            Select).withCondition condition with limit := some (fetchLimit context.page.limit) } := by
  unfold page
  simp only [htotal]
  cases context.activeCursor <;> cases context.page.direction <;>
    simp [cut, PageDirection.orient]

/-- Cutting a page out of a statement completes its ordering, sets its limit and adds
at most the one condition that the cursor asks for. -/
theorem page_eq_ok_iff {statement result : Select} {context : Context} {entityCode : String}
    {keyFields : List String} :
    (statement.page context entityCode keyFields).outcome = .ok result ↔
      ∃ ordering conditions,
        statement.totalOrdering statement.ordering keyFields = .ok ordering ∧
        context.cursorConditions? entityCode keyFields
          (context.page.direction.orient ordering) = some conditions ∧
        result = statement.cut conditions (context.page.direction.orient ordering)
          context.page.limit := by
  cases htotal : statement.totalOrdering statement.ordering keyFields with
  | error failure => simp [page, htotal]
  | ok ordering =>
      rw [page_of_totalOrdering htotal]
      unfold Context.cursorConditions?
      cases context.activeCursor with
      | none => simp [eq_comm]
      | some cursor =>
          -- The condition of a cursor is never empty, so it is one more condition.
          have hcut : ∀ values, ({ ({ statement with
                ordering := context.page.direction.orient ordering } : Select).withCondition
                  (Order.strictlyAfter (context.page.direction.orient ordering) values) with
                limit := some (fetchLimit context.page.limit) } : Select) =
              statement.cut [Order.strictlyAfter (context.page.direction.orient ordering) values]
                (context.page.direction.orient ordering) context.page.limit := by
            intro values
            simp [withCondition, cut, Order.strictlyAfter_ne_nil]
          simp only [Logged.outcome_bind, Logged.outcome_pure, bind_eq_ok_iff,
            cursorCondition_eq_ok_iff, Except.ok.injEq, Option.map_eq_some_iff]
          constructor
          · rintro ⟨_, ⟨values, hvalues, rfl⟩, rfl⟩
            exact ⟨ordering, _, rfl, ⟨values, hvalues, rfl⟩, hcut values⟩
          · rintro ⟨_, _, rfl, ⟨values, hvalues, rfl⟩, rfl⟩
            exact ⟨_, ⟨values, hvalues, rfl⟩, hcut values⟩

end Sql.Select

/-- The statement of a page selects one row more than asked for, unless there is no
greater number. -/
theorem fetchLimit_toNat (limit : UInt32) :
    (fetchLimit limit).toNat = min (limit.toNat + 1) 0xFFFFFFFF := by
  have hbound := limit.toNat_lt
  unfold fetchLimit
  split
  next hfits =>
    rw [UInt32.toNat_add, show (1 : UInt32).toNat = 1 from rfl, Nat.mod_eq_of_lt hfits]
    omega
  next hlast => omega

namespace Mapping

/-- The statement of a context's page, drafted and cut without an amendment in
between. -/
def paged (mapping : Mapping) (context : Context) (entityCode : String) : Logged Select := do
  let draft ← mapping.draft context
  draft.statement.page context entityCode mapping.keyFields

theorem paged_eq_ok_iff {mapping : Mapping} {context : Context} {entityCode : String}
    {result : Select} :
    (mapping.paged context entityCode).outcome = .ok result ↔
      ∃ draft ordering conditions, (mapping.draft context).outcome = .ok draft ∧
        draft.statement.totalOrdering draft.statement.ordering mapping.keyFields = .ok ordering ∧
        context.cursorConditions? entityCode mapping.keyFields
          (context.page.direction.orient ordering) = some conditions ∧
        result = draft.statement.cut conditions (context.page.direction.orient ordering)
          context.page.limit := by
  simp only [paged, Logged.outcome_bind, bind_eq_ok_iff, Select.page_eq_ok_iff]
  constructor
  · rintro ⟨draft, hdraft, ordering, conditions, hrest⟩
    exact ⟨draft, ordering, conditions, hdraft, hrest⟩
  · rintro ⟨draft, ordering, conditions, hdraft, hrest⟩
    exact ⟨draft, hdraft, ordering, conditions, hrest⟩

end Mapping

/-! ## Plans -/

/-- The mapping that is found under two codes is that of an entity with the one code, declared
by the application that the other one means. -/
theorem Catalog.exists_entity_of_mapping {catalog : Catalog} {applicationCode entityCode : String}
    {mapping : Mapping} (hmapping : catalog.mapping applicationCode entityCode = .ok mapping) :
    ∃ application, catalog.resolve? applicationCode = some application ∧
      ∃ entity ∈ application.entities, entity.code = entityCode ∧ mapping = entity.mapping := by
  unfold Catalog.mapping at hmapping
  split at hmapping
  · cases hmapping
  next application happlication =>
    split at hmapping
    · cases hmapping
    next entity hentity =>
      refine ⟨application, happlication, entity, List.mem_of_find?_eq_some hentity, ?_,
        (Except.ok.inj hmapping).symm⟩
      simpa using List.find?_some hentity

/-- The mapping of an entity in a catalog is a derived one. -/
theorem Catalog.exists_mapping {catalog : Catalog} {applicationCode entityCode : String}
    {mapping : Mapping} (hmapping : catalog.mapping applicationCode entityCode = .ok mapping) :
    ∃ entity : EntityDefinition, mapping = entity.mapping := by
  obtain ⟨application, -, entity, -, -, hentity⟩ := exists_entity_of_mapping hmapping
  exact ⟨entity, hentity⟩

namespace Planner

/-- A list without an amendment keeps its statement. -/
theorem apply_of_unamended {planner : Planner} {listCode : String} {statement : Select}
    (hunamended : planner.amendments.find? listCode = none) :
    planner.amendments.apply listCode statement = statement := by
  simp [Amendments.apply, hunamended]

/-- A plan belongs to an acceptable context and an entity that exists; its statement
is a page of the draft for the context, amended if the list has an amendment. -/
theorem plan_eq_ok_iff {planner : Planner} {applicationCode entityCode : String}
    {context : Context} {result : Plan} :
    (planner.plan applicationCode entityCode context).outcome = .ok result ↔
      context.fault? planner.settings.maximumLimit = none ∧
      ∃ mapping draft statement,
        planner.catalog.mapping applicationCode entityCode = .ok mapping ∧
        (mapping.draft context).outcome = .ok draft ∧
        ((planner.amendments.apply (context.resolvedListCode entityCode) draft.statement).page
          context entityCode mapping.keyFields).outcome = .ok statement ∧
        result =
          ⟨entityCode, context.resolvedListCode entityCode, mapping, statement,
            planner.amendments.contains (context.resolvedListCode entityCode),
            draft.appliedFilters, draft.searchTerm⟩ := by
  unfold plan
  cases hfault : context.fault? planner.settings.maximumLimit with
  | some fault => simp [Except.bind]
  | none =>
      cases hmapping : planner.catalog.mapping applicationCode entityCode with
      | error missing => simp
      | ok mapping =>
          simp only [Logged.outcome_bind, Logged.outcome_pure, bind_eq_ok_iff, Except.ok.injEq,
            true_and]
          constructor
          · rintro ⟨draft, hdraft, statement, hstatement, rfl⟩
            exact ⟨mapping, draft, statement, rfl, hdraft, hstatement, rfl⟩
          · rintro ⟨_, draft, statement, rfl, hdraft, hstatement, rfl⟩
            exact ⟨draft, hdraft, statement, hstatement, rfl⟩

/-- The statement of a list without an amendment is the page of its mapping. -/
theorem paged_of_plan {planner : Planner} {applicationCode entityCode : String}
    {context : Context} {plan : Plan}
    (hplan : (planner.plan applicationCode entityCode context).outcome = .ok plan)
    (hunamended : planner.amendments.find? (context.resolvedListCode entityCode) = none) :
    planner.catalog.mapping applicationCode entityCode = .ok plan.mapping ∧
      (plan.mapping.paged context entityCode).outcome = .ok plan.statement := by
  obtain ⟨-, mapping, draft, statement, hmapping, hdraft, hpage, rfl⟩ := plan_eq_ok_iff.mp hplan
  rw [apply_of_unamended hunamended] at hpage
  refine ⟨hmapping, ?_⟩
  rw [Mapping.paged, Logged.outcome_bind]
  exact bind_eq_ok_iff.mpr ⟨draft, hdraft, hpage⟩

end Planner

/-! ## A sample -/

/-- An entity with a text and a number, of which examples are made. -/
def EntityDefinition.sample : EntityDefinition :=
  ⟨"item", "Item",
    [⟨"name", "Name", .string, true, none⟩, ⟨"price", "Price", .number, false, none⟩], false⟩

end ListQuery
