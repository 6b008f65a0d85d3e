import ListQuery.Proofs.Derivation

/-!
# What planning reports and how it fails

Planning runs no statement, so it reports of none, and it ends in failures of few kinds.
Both are kept by putting computations together (`Logged.Quiet`), so that they are seen from
the parts: a part rejects the request, or names what is missing, and there are two parts
that may fail internally, a security filter with other values than it asks for and a key
field that is not selected.

Neither happens to a derived mapping, whatever its entity declares.  Its one security filter
has no values and asks for none, and its one key field, the identifier, is selected under its
own name.  Planning a list without an amendment therefore fails for the request only
(`plan_blames_request`).
-/

namespace ListQuery

open Sql

/-! ## Quiet computations -/

/-- Whether an event tells of a statement. -/
def Event.ofStatement : Event → Bool
  | .query .. | .queryFailed .. => true
  | .dropped .. | .cursorRejected .. => false

/-- Whether a failure is one of the request: it was rejected or names what is missing. -/
def Failure.ofRequest : Failure → Bool
  | .rejected _ | .notFound _ => true
  | .execution _ => false

/-- A computation that reports of no statement, and whose failures are permitted. -/
structure Logged.Quiet {α : Type} (permitted : Failure → Prop) (computation : Logged α) : Prop where
  events : ∀ event ∈ computation.events, event.ofStatement = false
  failures : ∀ failure, computation.outcome = .error failure → permitted failure

namespace Logged

variable {α β : Type} {permitted : Failure → Prop}

theorem quiet_pure (value : α) : (pure value : Logged α).Quiet permitted :=
  ⟨nofun, nofun⟩

theorem quiet_fail {failure : Failure} (hfailure : permitted failure) :
    (fail failure : Logged α).Quiet permitted :=
  ⟨nofun, fun _ heq => Except.error.inj heq ▸ hfailure⟩

theorem quiet_report {event : Event} (hevent : event.ofStatement = false) :
    (report event).Quiet permitted :=
  ⟨List.forall_mem_singleton.mpr hevent, nofun⟩

theorem Quiet.bind {first : Logged α} {next : α → Logged β} (hfirst : first.Quiet permitted)
    (hnext : ∀ value, first.outcome = .ok value → (next value).Quiet permitted) :
    (first >>= next).Quiet permitted := by
  show (andThen first next).Quiet permitted
  unfold andThen
  cases houtcome : first.outcome with
  | ok value =>
      exact ⟨List.forall_mem_append.mpr ⟨hfirst.events, (hnext value houtcome).events⟩,
        (hnext value houtcome).failures⟩
  | error failure =>
      exact ⟨hfirst.events, fun _ heq =>
        Except.error.inj heq ▸ hfirst.failures failure houtcome⟩

end Logged

/-! ## The parts of planning -/

section

variable {permitted : Failure → Prop} (hrejected : ∀ rejection, permitted (.rejected rejection))

namespace Mapping

variable (mapping : Mapping)

include hrejected in
theorem quiet_filterConditions (filters : List Filter) :
    (mapping.filterConditions filters).Quiet permitted := by
  induction filters with
  | nil => exact Logged.quiet_pure _
  | cons filter rest ih =>
      unfold filterConditions
      split
      · exact (Logged.quiet_report rfl).bind fun _ _ => ih
      · split
        · exact Logged.quiet_fail (hrejected _)
        · exact ih
        · exact ih.bind fun _ _ => Logged.quiet_pure _

theorem quiet_searchCondition (search : Option Search) :
    (mapping.searchCondition search).Quiet permitted := by
  unfold searchCondition
  split
  · exact Logged.quiet_pure _
  · dsimp only
    split
    · exact Logged.quiet_pure _
    · split
      · exact (Logged.quiet_report rfl).bind fun _ _ => Logged.quiet_pure _
      · exact Logged.quiet_pure _

theorem quiet_sortOrdering (taken : List String) (sorts : List SortKey) :
    (mapping.sortOrdering taken sorts).Quiet permitted := by
  induction sorts generalizing taken with
  | nil => exact Logged.quiet_pure _
  | cons sort rest ih =>
      unfold sortOrdering
      split
      · exact (Logged.quiet_report rfl).bind fun _ _ => ih taken
      · split
        · exact ih taken
        · exact (ih _).bind fun _ _ => Logged.quiet_pure _

include hrejected in
theorem quiet_draft (context : Context)
    (hsecurity : ∀ failure, securityConditions mapping.securityFilters = .error failure →
      permitted failure) : (mapping.draft context).Quiet permitted := by
  have hrest : ∀ filters security, Logged.Quiet permitted (do
      let search ← mapping.searchCondition context.search
      let ordering ← mapping.sortOrdering [] (mapping.effectiveSorts context)
      return (⟨⟨mapping.columns, mapping.source, mapping.sqlJoins,
        filters ++ security ++ (search.map Prod.fst).toList, ordering, none⟩, filters.length,
        search.map Prod.snd⟩ : Draft)) :=
    fun filters security => (mapping.quiet_searchCondition _).bind fun search _ =>
      (mapping.quiet_sortOrdering _ _).bind fun ordering _ => Logged.quiet_pure _
  refine (mapping.quiet_filterConditions hrejected _).bind fun filters _ => ?_
  dsimp only
  split
  · exact (Logged.quiet_pure _).bind fun security _ => hrest filters security
  next failure hfailure =>
    exact (Logged.quiet_fail (hsecurity failure hfailure)).bind fun security _ =>
      hrest filters security

end Mapping

include hrejected in
theorem quiet_cursorCondition (cursor entityCode : String) (keyFields : List String)
    (ordering : List Order) :
    (cursorCondition cursor entityCode keyFields ordering).Quiet permitted := by
  unfold cursorCondition
  split
  · exact (Logged.quiet_report rfl).bind fun _ _ => Logged.quiet_fail (hrejected _)
  · split
    · exact Logged.quiet_pure _
    · exact (Logged.quiet_report rfl).bind fun _ _ => Logged.quiet_fail (hrejected _)

include hrejected in
theorem Sql.Select.quiet_page (statement : Select) (context : Context) (entityCode : String)
    (keyFields : List String)
    (htotal : ∀ failure,
      statement.totalOrdering statement.ordering keyFields = .error failure → permitted failure) :
    (statement.page context entityCode keyFields).Quiet permitted := by
  unfold page
  split
  next failure hfailure => exact Logged.quiet_fail (htotal failure hfailure)
  · dsimp only
    split
    · exact Logged.quiet_pure _
    · exact (quiet_cursorCondition hrejected _ _ _ _).bind fun _ _ => Logged.quiet_pure _

include hrejected in
/-- Planning is quiet if the two parts that can fail internally are. -/
theorem Planner.quiet_plan (planner : Planner) (applicationCode entityCode : String)
    (context : Context) (hmissing : ∀ what, permitted (.notFound what))
    (hsecurity : ∀ mapping failure,
      planner.catalog.mapping applicationCode entityCode = .ok mapping →
      Mapping.securityConditions mapping.securityFilters = .error failure → permitted failure)
    (htotal : ∀ mapping draft failure,
      planner.catalog.mapping applicationCode entityCode = .ok mapping →
      (mapping.draft context).outcome = .ok draft →
      (planner.amendments.apply (context.resolvedListCode entityCode)
        draft.statement).totalOrdering
          (planner.amendments.apply (context.resolvedListCode entityCode)
            draft.statement).ordering mapping.keyFields = .error failure →
      permitted failure) :
    (planner.plan applicationCode entityCode context).Quiet permitted := by
  unfold plan
  split
  next missing _ =>
    -- The context is checked before it matters that the list is missing.
    have hfailed : permitted missing.failure := by cases missing <;> exact hmissing _
    dsimp only
    split
    · exact (Logged.quiet_fail (hrejected _)).bind fun _ _ => Logged.quiet_fail hfailed
    · exact Logged.quiet_fail hfailed
  next mapping hmapping =>
    have hdraft := mapping.quiet_draft hrejected context fun failure =>
      hsecurity mapping failure hmapping
    have hpage := fun draft hdrafted => Select.quiet_page hrejected
      (planner.amendments.apply (context.resolvedListCode entityCode) draft.statement) context
      entityCode mapping.keyFields fun failure => htotal mapping draft failure hmapping hdrafted
    dsimp only
    split
    · exact (Logged.quiet_fail (hrejected _)).bind fun _ _ => hdraft.bind fun draft hdrafted =>
        (hpage draft hdrafted).bind fun statement _ => Logged.quiet_pure _
    · exact hdraft.bind fun draft hdrafted =>
        (hpage draft hdrafted).bind fun statement _ => Logged.quiet_pure _

end

/-- Planning reports of no statement, however it ends. -/
theorem Planner.ofStatement_of_plan (planner : Planner) (applicationCode entityCode : String)
    (context : Context) :
    ∀ event ∈ (planner.plan applicationCode entityCode context).events,
      event.ofStatement = false := by
  have hquiet : (planner.plan applicationCode entityCode context).Quiet fun _ => True :=
    Planner.quiet_plan (fun _ => trivial) planner applicationCode entityCode context
      (fun _ => trivial) (fun _ _ _ _ => trivial) fun _ _ _ _ _ _ => trivial
  exact hquiet.events

/-! ## Derived mappings -/

/-- If the key fields are selected, an ordering can be completed with them. -/
theorem Sql.Select.exists_totalOrdering {statement : Select} {keyFields : List String}
    (hkeys : ∀ key ∈ keyFields, ∃ column ∈ statement.columns, column.aliasName = key)
    (ordering : List Order) :
    ∃ result, statement.totalOrdering ordering keyFields = .ok result := by
  induction keyFields generalizing ordering with
  | nil => exact ⟨ordering, rfl⟩
  | cons key rest ih =>
      obtain ⟨⟨column, hcolumn, halias⟩, hrest⟩ := List.forall_mem_cons.mp hkeys
      rw [totalOrdering]
      split
      · exact ih hrest ordering
      · have hfound : (statement.column? key).isSome :=
          List.find?_isSome.mpr ⟨column, hcolumn, by simp [halias]⟩
        obtain ⟨found, hfound⟩ := Option.isSome_iff_exists.mp hfound
        rw [hfound]
        exact ih hrest _

namespace EntityDefinition

variable (entity : EntityDefinition)

/-- The clause that hides deleted rows has a value for each of its placeholders, of which
there are none. -/
theorem exists_securityConditions :
    ∃ conditions, Mapping.securityConditions entity.mapping.securityFilters = .ok conditions := by
  refine ⟨_, Mapping.securityConditions_eq_ok_iff.mpr ⟨?_, rfl⟩⟩
  exact List.forall_mem_singleton.mpr (by decide +kernel)

/-- The key is selected in every draft. -/
theorem exists_totalOrdering_of_draft {context : Context} {draft : Draft}
    (hdraft : (entity.mapping.draft context).outcome = .ok draft) :
    ∃ ordering, draft.statement.totalOrdering draft.statement.ordering entity.mapping.keyFields =
      .ok ordering := by
  obtain ⟨_, _, _, _, -, -, -, -, rfl⟩ := Mapping.draft_eq_ok_iff.mp hdraft
  refine Select.exists_totalOrdering (List.forall_mem_singleton.mpr ?_) _
  exact ⟨idColumn, idColumn_mem, rfl⟩

end EntityDefinition

/-- Planning a list without an amendment succeeds or fails for the request.  What could fail
internally does not, whatever an entity declares and the context says. -/
theorem Planner.plan_blames_request {planner : Planner} {applicationCode entityCode : String}
    {context : Context}
    (hunamended : planner.amendments.find? (context.resolvedListCode entityCode) = none) :
    ((∃ plan, (planner.plan applicationCode entityCode context).outcome = .ok plan) ∨
      ∃ failure, (planner.plan applicationCode entityCode context).outcome = .error failure ∧
        failure.ofRequest = true) ∧
    ∀ entity : EntityDefinition,
      (∃ conditions,
        Mapping.securityConditions entity.mapping.securityFilters = .ok conditions) ∧
      ∀ draft, (entity.mapping.draft context).outcome = .ok draft →
        ∃ ordering,
          draft.statement.totalOrdering draft.statement.ordering entity.mapping.keyFields =
            .ok ordering := by
  refine ⟨?_, fun entity =>
    ⟨entity.exists_securityConditions, fun draft => entity.exists_totalOrdering_of_draft⟩⟩
  have hquiet : (planner.plan applicationCode entityCode context).Quiet
      fun failure => failure.ofRequest = true := by
    refine Planner.quiet_plan (fun _ => rfl) planner applicationCode entityCode context
      (fun _ => rfl) (fun mapping failure hmapping hfailed => ?_)
      fun mapping draft failure hmapping hdraft hfailed => ?_
    · obtain ⟨entity, rfl⟩ := Catalog.exists_mapping hmapping
      obtain ⟨conditions, hconditions⟩ := entity.exists_securityConditions
      cases hconditions.symm.trans hfailed
    · obtain ⟨entity, rfl⟩ := Catalog.exists_mapping hmapping
      obtain ⟨ordering, hordering⟩ := entity.exists_totalOrdering_of_draft hdraft
      rw [apply_of_unamended hunamended] at hfailed
      cases hordering.symm.trans hfailed
  cases houtcome : (planner.plan applicationCode entityCode context).outcome with
  | ok plan => exact .inl ⟨plan, rfl⟩
  | error failure => exact .inr ⟨failure, rfl, hquiet.failures failure houtcome⟩

/-- An entity that declares what every entity has, and one field twice. -/
def EntityDefinition.clashing : EntityDefinition :=
  ⟨"item", "Item",
    [⟨"id", "Number", .number, true, none⟩, ⟨"markedForDeletion", "Gone", .boolean, true, none⟩,
      ⟨"global_key", "Key", .string, false, none⟩, ⟨"name", "Name", .string, true, none⟩,
      ⟨"name", "Other name", .grid, true, none⟩], false⟩

/-- A planner that knows this entity. -/
def Planner.clashing : Planner :=
  ⟨⟨[⟨"shop", "Shop", [EntityDefinition.clashing], []⟩], none⟩, Amendments.empty, Settings.standard⟩

/-- The list of such an entity fails for the request only as well. -/
theorem Planner.plan_blames_request_clashing :
    (∃ plan, (clashing.plan "shop" "item" Context.standard).outcome = .ok plan) ∨
      ∃ failure, (clashing.plan "shop" "item" Context.standard).outcome = .error failure ∧
        failure.ofRequest = true :=
  (plan_blames_request rfl).1

end ListQuery
