import ListQuery.Proofs.Predicate

/-!
# Ignored filters leave no trace

A filter on a field that does not exist or may not be filtered is dropped, and one that is left
to an amendment has no condition.  In neither case does anybody look at its operand, so which
filters are ignored can be told without it (`Mapping.ignores`), and the draft of a list is the
same whether they are there or not.

Each of the other filters has a condition or a fault.  The conditions of a draft begin with
those of these filters, one for each and in their order, and the number of applied filters
counts them.  The first of them with a fault makes the request fail.  Nothing else does, as
long as the security filters have as many values as they ask for (`draft_heeding`).
-/

namespace ListQuery

open Sql

/-! ## Conditions are not empty -/

namespace MappedField

variable {field : MappedField} {filter : Filter} {condition : Fragment}

theorem ne_nil_of_form (hform : field.Form condition) : condition ≠ [] := by
  cases hform <;>
    simp [isNull, isNotNull, compare, compareEach, between, matchesPattern, expression,
      Fragment.column]

theorem ne_nil_of_predicate? (hpredicate : field.predicate? filter = .ok (some condition)) :
    condition ≠ [] := by
  obtain ⟨inner, hform, rfl | rfl⟩ := predicate_cases hpredicate
  · exact ne_nil_of_form hform
  · exact List.cons_ne_nil _ _

end MappedField

namespace Mapping

variable {mapping : Mapping} {filter : Filter} {filters : List Filter} {context : Context}

theorem ne_nil_of_searchCondition {search : Option Search} {condition : Fragment} {term : String}
    (hsearch : (mapping.searchCondition search).outcome = .ok (some (condition, term))) :
    condition ≠ [] := by
  obtain ⟨fields, pattern, hsome, -, rfl⟩ := searchCondition_cases hsearch
  obtain ⟨first, rest, rfl⟩ := List.exists_cons_of_ne_nil hsome
  have hfirst : first.matchesPattern pattern ≠ [] :=
    MappedField.ne_nil_of_form (.matchesPattern pattern)
  cases rest with
  | nil => simpa using hfirst
  | cons second rest => simp [hfirst]

/-! ## The filters that are ignored -/

/-- Whether a filter is dropped or left to an amendment, whatever its operand is. -/
def ignores (mapping : Mapping) (filter : Filter) : Bool :=
  (mapping.filterableField? filter.field).isNone || filter.operator == .custom

/-- The filters that are not ignored, in their order. -/
def heeded (mapping : Mapping) (filters : List Filter) : List Filter :=
  filters.filter fun filter => !mapping.ignores filter

/-- The context without the filters that are ignored. -/
def heeding (mapping : Mapping) (context : Context) : Context :=
  { context with filters := mapping.heeded context.filters }

/-- The condition of a filter on a field that may be filtered. -/
def Compiles (mapping : Mapping) (filter : Filter) (condition : Fragment) : Prop :=
  ∃ field, mapping.filterableField? filter.field = some field ∧
    field.predicate? filter = .ok (some condition)

/-- The rejection of a filter on a field that may be filtered. -/
def Refuses (mapping : Mapping) (filter : Filter) (rejection : Rejection) : Prop :=
  ∃ field fault, mapping.filterableField? filter.field = some field ∧
    field.predicate? filter = .error fault ∧ rejection = fault.rejection filter.field

theorem heeded_cons_of_ignores (hfilter : mapping.ignores filter = true) :
    mapping.heeded (filter :: filters) = mapping.heeded filters :=
  List.filter_cons_of_neg (by simp [hfilter])

theorem heeded_cons_of_not_ignores (hfilter : mapping.ignores filter = false) :
    mapping.heeded (filter :: filters) = filter :: mapping.heeded filters :=
  List.filter_cons_of_pos (by simp [hfilter])

/-- A filter is ignored, has a condition or is rejected. -/
theorem filter_cases (mapping : Mapping) (filter : Filter) :
    mapping.ignores filter = true ∨ (∃ condition, mapping.Compiles filter condition) ∨
      ∃ rejection, mapping.Refuses filter rejection := by
  unfold ignores
  cases hfield : mapping.filterableField? filter.field with
  | none => exact .inl rfl
  | some field =>
      cases hpredicate : field.predicate? filter with
      | error fault => exact .inr (.inr ⟨_, field, fault, hfield, hpredicate, rfl⟩)
      | ok found =>
          cases found with
          | some condition => exact .inr (.inl ⟨condition, field, hfield, hpredicate⟩)
          | none =>
              obtain ⟨inner, hinner, hfound⟩ := bind_eq_ok_iff.mp hpredicate
              cases inner with
              | some inner => cases hfound
              | none =>
                  have hcustom := MappedField.condition?_eq_none_iff.mp hinner
                  exact .inl (by simp [hcustom])

/-- One that is not ignored has a condition or is rejected. -/
theorem compiles_or_refuses (hfilter : mapping.ignores filter = false) :
    (∃ condition, mapping.Compiles filter condition) ∨
      ∃ rejection, mapping.Refuses filter rejection := by
  rcases mapping.filter_cases filter with hignored | hheeded
  · rw [hfilter] at hignored
    cases hignored
  · exact hheeded

/-! ## One filter after another -/

theorem outcome_filterConditions_of_ignores (hfilter : mapping.ignores filter = true) :
    (mapping.filterConditions (filter :: filters)).outcome =
      (mapping.filterConditions filters).outcome := by
  rw [filterConditions]
  cases hfield : mapping.filterableField? filter.field with
  | none => simp [Except.bind]
  | some field =>
      have hcustom : filter.operator = .custom := by simpa [ignores, hfield] using hfilter
      have hpredicate : field.predicate? filter = .ok none :=
        bind_eq_ok_iff.mpr ⟨none, MappedField.condition?_eq_none_iff.mpr hcustom, rfl⟩
      simp only [hpredicate]

theorem outcome_filterConditions_of_compiles {condition : Fragment}
    (hfilter : mapping.Compiles filter condition) :
    (mapping.filterConditions (filter :: filters)).outcome =
      (mapping.filterConditions filters).outcome.map (condition :: ·) := by
  obtain ⟨field, hfield, hpredicate⟩ := hfilter
  rw [filterConditions]
  simp only [hfield, hpredicate, Logged.outcome_bind, Logged.outcome_pure]
  cases (mapping.filterConditions filters).outcome <;> rfl

theorem outcome_filterConditions_of_refuses {rejection : Rejection}
    (hfilter : mapping.Refuses filter rejection) :
    (mapping.filterConditions (filter :: filters)).outcome = .error (.rejected rejection) := by
  obtain ⟨field, fault, hfield, hpredicate, rfl⟩ := hfilter
  rw [filterConditions]
  simp only [hfield, hpredicate, Logged.outcome_reject]

/-! ## All filters -/

/-- Without the filters that are ignored the conditions are the same, and so is a failure. -/
theorem outcome_filterConditions_heeded :
    (mapping.filterConditions (mapping.heeded filters)).outcome =
      (mapping.filterConditions filters).outcome := by
  induction filters with
  | nil => rfl
  | cons filter rest ih =>
      cases hfilter : mapping.ignores filter with
      | true =>
          rw [heeded_cons_of_ignores hfilter, outcome_filterConditions_of_ignores hfilter, ih]
      | false =>
          rw [heeded_cons_of_not_ignores hfilter]
          rcases compiles_or_refuses hfilter with ⟨condition, hcompiles⟩ | ⟨rejection, hrefuses⟩
          · rw [outcome_filterConditions_of_compiles hcompiles,
              outcome_filterConditions_of_compiles hcompiles, ih]
          · rw [outcome_filterConditions_of_refuses hrefuses,
              outcome_filterConditions_of_refuses hrefuses]

theorem ignores_of_mem_heeded (hfilter : filter ∈ mapping.heeded filters) :
    mapping.ignores filter = false := by
  simpa using (List.mem_filter.mp hfilter).2

/-- The first rejection among filters of which the ones before it have conditions. -/
def FirstRefusal (mapping : Mapping) (filters : List Filter) (rejection : Rejection) : Prop :=
  ∃ before filter after, filters = before ++ filter :: after ∧
    (∀ earlier ∈ before, ∃ condition, mapping.Compiles earlier condition) ∧
    mapping.Refuses filter rejection

theorem outcome_filterConditions_of_firstRefusal {rejection : Rejection}
    (hrefusal : mapping.FirstRefusal filters rejection) :
    (mapping.filterConditions filters).outcome = .error (.rejected rejection) := by
  obtain ⟨before, filter, after, rfl, hbefore, hrefuses⟩ := hrefusal
  induction before with
  | nil => exact outcome_filterConditions_of_refuses hrefuses
  | cons first rest ih =>
      obtain ⟨⟨condition, hcompiles⟩, hrest⟩ := List.forall_mem_cons.mp hbefore
      rw [List.cons_append, outcome_filterConditions_of_compiles hcompiles, ih hrest]
      rfl

variable (hfilters : ∀ filter ∈ filters, mapping.ignores filter = false)

include hfilters

/-- Filters that are not ignored have one condition each, in their order. -/
theorem forall₂_of_filterConditions {conditions : List Fragment}
    (hconditions : (mapping.filterConditions filters).outcome = .ok conditions) :
    List.Forall₂ mapping.Compiles filters conditions := by
  induction filters generalizing conditions with
  | nil =>
      cases hconditions
      exact .nil
  | cons filter rest ih =>
      obtain ⟨hfilter, hrest⟩ := List.forall_mem_cons.mp hfilters
      -- The first filter that is refused ends the compilation.
      rcases compiles_or_refuses hfilter with ⟨condition, hcompiles⟩ | ⟨rejection, hrefuses⟩
      · rw [outcome_filterConditions_of_compiles hcompiles] at hconditions
        cases hothers : (mapping.filterConditions rest).outcome with
        | error failure =>
            rw [hothers] at hconditions
            cases hconditions
        | ok others =>
            rw [hothers] at hconditions
            cases hconditions
            exact .cons hcompiles (ih hrest hothers)
      · rw [outcome_filterConditions_of_refuses hrefuses] at hconditions
        cases hconditions

/-- If they have not, then the first that is rejected is the reason. -/
theorem exists_firstRefusal {failure : Failure}
    (hfailure : (mapping.filterConditions filters).outcome = .error failure) :
    ∃ rejection, mapping.FirstRefusal filters rejection ∧ failure = .rejected rejection := by
  induction filters with
  | nil => cases hfailure
  | cons filter rest ih =>
      obtain ⟨hfilter, hrest⟩ := List.forall_mem_cons.mp hfilters
      rcases compiles_or_refuses hfilter with ⟨condition, hcompiles⟩ | ⟨rejection, hrefuses⟩
      · rw [outcome_filterConditions_of_compiles hcompiles] at hfailure
        cases hothers : (mapping.filterConditions rest).outcome with
        | ok others =>
            rw [hothers] at hfailure
            cases hfailure
        | error fault =>
            rw [hothers] at hfailure
            cases hfailure
            obtain ⟨rejection, ⟨before, refused, after, rfl, hbefore, hrefuses⟩, rfl⟩ :=
              ih hrest hothers
            exact ⟨rejection, ⟨filter :: before, refused, after, rfl,
              List.forall_mem_cons.mpr ⟨⟨condition, hcompiles⟩, hbefore⟩, hrefuses⟩, rfl⟩
      · rw [outcome_filterConditions_of_refuses hrefuses] at hfailure
        cases hfailure
        exact ⟨rejection, ⟨[], filter, rest, rfl, List.forall_mem_nil _, hrefuses⟩, rfl⟩

omit hfilters

/-! ## Drafts -/

/-- Only filters and security filters can keep a draft from being made. -/
theorem outcome_draft_eq_error_iff {failure : Failure}
    (hsecurity : ∀ filter ∈ mapping.securityFilters, filter.placeholders = filter.values.length) :
    (mapping.draft context).outcome = .error failure ↔
      (mapping.filterConditions context.filters).outcome = .error failure := by
  obtain ⟨search, hsearch⟩ := mapping.exists_searchCondition context.search
  obtain ⟨ordering, hordering⟩ := mapping.exists_sortOrdering [] (mapping.effectiveSorts context)
  have hconditions := securityConditions_eq_ok_iff.mpr ⟨hsecurity, rfl⟩
  cases hfilters : (mapping.filterConditions context.filters).outcome with
  | error fault => simp [draft, hfilters, Except.bind]
  | ok filters =>
      have hdraft := draft_eq_ok_iff.mpr
        ⟨filters, _, search, ordering, hfilters, hconditions, hsearch, hordering, rfl⟩
      simp [hdraft]

/-- Every condition of a draft says something. -/
theorem ne_nil_of_mem_conditions {draft : Draft}
    (hdraft : (mapping.draft context).outcome = .ok draft) :
    ∀ condition ∈ draft.statement.conditions, condition ≠ [] := by
  obtain ⟨filters, security, search, ordering, hfilters, hsecurity, hsearch, -, rfl⟩ :=
    draft_eq_ok_iff.mp hdraft
  obtain ⟨-, rfl⟩ := securityConditions_eq_ok_iff.mp hsecurity
  refine List.forall_mem_append.mpr ⟨List.forall_mem_append.mpr ⟨?_, ?_⟩, ?_⟩
  · intro condition hcondition
    obtain ⟨_, -, _, -, hpredicate⟩ := filterConditions_cases hfilters condition hcondition
    exact MappedField.ne_nil_of_predicate? hpredicate
  · intro condition hcondition
    simpa using (List.mem_filter.mp hcondition).2
  · cases search with
    | none => exact List.forall_mem_nil _
    | some found => exact List.forall_mem_singleton.mpr (ne_nil_of_searchCondition hsearch)

/-- A request with filters on a field that does not exist and with one that is left to an
amendment; none of their operands would do. -/
def careless : Context :=
  { Context.standard with
    filters := [⟨"weight", .between, some (.scalar .null), false, none⟩,
      ⟨"price", .greater, some (.scalar (.text "3")), true, none⟩,
      ⟨"name", .custom, some (.list []), true, none⟩] }

/-- The same request with a comparison that lacks its operand, and a second one. -/
def faulty : Context :=
  { careless with
    filters := careless.filters ++ [⟨"price", .less, none, false, none⟩,
      ⟨"name", .within, none, false, none⟩] }

end Mapping

end ListQuery
