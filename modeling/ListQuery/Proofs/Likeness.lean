import ListQuery.Proofs.Coercion
import ListQuery.Proofs.Session
import ListQuery.Proofs.Sql.Redaction
import ListQuery.Proofs.Walk

/-!
# Requests that differ in values only

Of the values in a request the text of a statement tells nothing.  Two requests are alike
(`Context.Alike`) if they agree in everything but the values that they compare with, search
for and continue at, and have nulls in the same places.  If both can be planned, their
statements are the same up to bound values (`redacted_of_alike`), so that they are written
alike, bind as many values and leave the same trace in the events (`query_of_alike`).

The argument follows a value from the request into the statement.  Bringing it to the type
of a column neither makes it null nor ceases to (`isNull_coerce`), and then its own kind
decides over nothing: a comparison looks at whether it is null, a membership test at how
many values there are, and every other condition at neither.
-/

namespace ListQuery

open Sql

/-! ## Alike requests -/

/-- Operands that differ in values only. -/
def Operand.Alike : Operand → Operand → Prop
  | .scalar value, .scalar other => value.isNull = other.isNull
  | .list values, .list others => values.length = others.length
  | .record entries, .record others =>
    ∀ name, name ∈ entries.map Prod.fst ↔ name ∈ others.map Prod.fst
  | _, _ => False

/-- Filters that differ in the values of their operands only. -/
structure Filter.Alike (filter other : Filter) : Prop where
  field : filter.field = other.field
  operator : filter.operator = other.operator
  negate : filter.negate = other.negate
  value : Option.Rel Operand.Alike filter.value other.value

/-- What a search says besides its term, unless the term is blank. -/
def Search.manner? (search : Search) : Option (Option SearchMode × Option (List String)) :=
  if (Text.trim search.term).isEmpty then none else some (search.mode, search.fields)

/-- The values at which a list continues after a place: those for the ordering or, if the
place has none, the key. -/
def RowKey.values (place : RowKey) : List Scalar :=
  if place.sort.isEmpty then place.key else place.sort

/-- Places at which a list continues with nulls at the same positions. -/
structure RowKey.Alike (place other : RowKey) : Prop where
  entity : place.entity = other.entity
  nulls : ∀ position : Nat,
    place.values[position]? = some .null ↔ other.values[position]? = some .null

/-- The place that a page starts from, if there is one. -/
def Context.place? (context : Context) : Option RowKey :=
  context.activeCursor.bind fun cursor => (RowKey.ofCursor? cursor).toOption

/-- Requests that differ in values only.  Remarks on filters may differ as well, and so may
what is kept for the caller. -/
structure Context.Alike (context other : Context) : Prop where
  listCode : context.listCode = other.listCode
  filters : List.Forall₂ Filter.Alike context.filters other.filters
  sorts : context.sorts = other.sorts
  direction : context.page.direction = other.page.direction
  limit : context.page.limit = other.page.limit
  search : context.search.bind Search.manner? = other.search.bind Search.manner?
  place : Option.Rel RowKey.Alike context.place? other.place?

/-! ## Operands -/

namespace Filter

variable {filter other : Filter} {type : ColumnType}

/-- The operands of alike comparisons are both null or both not. -/
theorem isNull_scalarOperand (halike : filter.Alike other) {value otherValue : Scalar}
    (hvalue : filter.scalarOperand type = .ok value)
    (hother : other.scalarOperand type = .ok otherValue) : value.isNull = otherValue.isNull := by
  have hgiven := halike.value
  unfold scalarOperand at hvalue hother
  generalize filter.value = given at hvalue hgiven
  generalize other.value = otherGiven at hother hgiven
  cases hgiven with
  | none =>
      cases hvalue
      cases hother
      rfl
  | @some operand otherOperand hoperands =>
      cases operand with
      | list | record => cases hvalue
      | scalar given =>
          cases otherOperand with
          | list | record => cases hother
          | scalar otherGiven =>
              rw [Scalar.isNull_coerce hvalue, Scalar.isNull_coerce hother]
              exact hoperands

/-- Alike membership tests have the same number of members. -/
theorem length_listOperand (halike : filter.Alike other) {values others : List Scalar}
    (hvalues : filter.listOperand type = .ok values)
    (hothers : other.listOperand type = .ok others) : values.length = others.length := by
  have hgiven := halike.value
  unfold listOperand at hvalues hothers
  generalize filter.value = given at hvalues hgiven
  generalize other.value = otherGiven at hothers hgiven
  split at hvalues <;> try cases hvalues
  split at hothers <;> try cases hothers
  cases hgiven with
  | some hoperands =>
      rw [(results_of_mapM hvalues).1, (results_of_mapM hothers).1]
      exact hoperands

end Filter

namespace MappedField

variable {field : MappedField} {filter other : Filter}

/-- Without their values, the conditions of alike filters are the same. -/
theorem withoutValues_condition? (halike : filter.Alike other)
    {found otherFound : Option Fragment} (hfound : field.condition? filter = .ok found)
    (hother : field.condition? other = .ok otherFound) :
    found.map Fragment.withoutValues = otherFound.map Fragment.withoutValues := by
  unfold condition? at hfound hother
  -- Both filters have one operator, so the cases of one are those of the other.
  rw [← halike.operator] at hother
  cases hoperator : filter.operator <;>
    simp only [hoperator, bind, pure, bind_eq_ok_iff] at hfound hother
  case equals | notEquals =>
      obtain ⟨value, hvalue, hresult⟩ := hfound
      obtain ⟨otherValue, hotherValue, hotherResult⟩ := hother
      have hnull := Filter.isNull_scalarOperand halike hvalue hotherValue
      split at hresult <;> split at hotherResult <;> cases hresult <;> cases hotherResult
      · rfl
      next hsome => exact absurd (Scalar.isNull_iff.mp hnull.symm) hsome
      next hsome _ => exact absurd (Scalar.isNull_iff.mp hnull) hsome
      · simp [compare]
  case less | lessOrEqual | greater | greaterOrEqual =>
      obtain ⟨value, -, hresult⟩ := hfound
      obtain ⟨otherValue, -, hotherResult⟩ := hother
      cases hresult
      cases hotherResult
      simp [compare]
  case within | notWithin =>
      obtain ⟨values, hvalues, hresult⟩ := hfound
      obtain ⟨others, hothers, hotherResult⟩ := hother
      cases hresult
      cases hotherResult
      simp [compareEach, Filter.length_listOperand halike hvalues hothers]
  case between =>
      obtain ⟨⟨lower, upper⟩, -, hresult⟩ := hfound
      obtain ⟨⟨otherLower, otherUpper⟩, -, hotherResult⟩ := hother
      cases hresult
      cases hotherResult
      simp [between]
  case contains | startsWith | endsWith =>
      obtain ⟨text, -, hresult⟩ := hfound
      obtain ⟨otherText, -, hotherResult⟩ := hother
      cases hresult
      cases hotherResult
      simp [matchesPattern]
  case isNull | isNotNull | custom =>
      cases hfound
      cases hother
      rfl

theorem withoutValues_predicate? (halike : filter.Alike other)
    {found otherFound : Option Fragment} (hfound : field.predicate? filter = .ok found)
    (hother : field.predicate? other = .ok otherFound) :
    found.map Fragment.withoutValues = otherFound.map Fragment.withoutValues := by
  simp only [predicate?, bind, pure, bind_eq_ok_iff] at hfound hother
  obtain ⟨condition, hcondition, hresult⟩ := hfound
  obtain ⟨otherCondition, hotherCondition, hotherResult⟩ := hother
  have hconditions := withoutValues_condition? halike hcondition hotherCondition
  cases hresult
  cases hotherResult
  rw [← halike.negate]
  cases condition with
  | none =>
      obtain rfl : otherCondition = none := by simpa using hconditions.symm
      rfl
  | some inner =>
      obtain ⟨otherInner, rfl, hinner⟩ := Option.map_eq_some_iff.mp hconditions.symm
      cases filter.negate <;> simp [hinner]

end MappedField

/-! ## Parts of a statement -/

namespace Mapping

variable {mapping : Mapping}

theorem withoutValues_filterCondition? {filter other : Filter} (halike : filter.Alike other)
    {found otherFound : Option Fragment} (hfound : mapping.filterCondition? filter = .ok found)
    (hother : mapping.filterCondition? other = .ok otherFound) :
    found.map Fragment.withoutValues = otherFound.map Fragment.withoutValues := by
  unfold filterCondition? at hfound hother
  rw [← halike.field] at hother
  cases hfield : mapping.filterableField? filter.field with
  | none =>
      simp only [hfield] at hfound hother
      cases hfound
      cases hother
      rfl
  | some field =>
      simp only [hfield] at hfound hother
      exact MappedField.withoutValues_predicate? halike hfound hother

theorem withoutValues_filterConditions {filters others : List Filter}
    (halike : List.Forall₂ Filter.Alike filters others) {conditions otherConditions : List Fragment}
    (hconditions : (mapping.filterConditions filters).outcome = .ok conditions)
    (hothers : (mapping.filterConditions others).outcome = .ok otherConditions) :
    conditions.map Fragment.withoutValues = otherConditions.map Fragment.withoutValues := by
  induction halike generalizing conditions otherConditions with
  | nil =>
      cases hconditions
      cases hothers
      rfl
  | cons hfirst _ ih =>
      obtain ⟨found, rest, hfound, hrest, rfl⟩ := filterConditions_cons_eq_ok_iff.mp hconditions
      obtain ⟨otherFound, otherRest, hotherFound, hotherRest, rfl⟩ :=
        filterConditions_cons_eq_ok_iff.mp hothers
      rw [List.map_append, List.map_append, ih hrest hotherRest, ← Option.toList_map,
        ← Option.toList_map, withoutValues_filterCondition? hfirst hfound hotherFound]

/-- Without its pattern, the condition of a search depends on the fields that it covers. -/
theorem withoutValues_searchCondition {search : Option Search}
    {found : Option (Fragment × String)}
    (hfound : (mapping.searchCondition search).outcome = .ok found) :
    (found.map Prod.fst).map Fragment.withoutValues =
      (search.bind Search.manner?).bind fun manner =>
        let covered := mapping.fields.filter (Search.covers ⟨"", manner.2, manner.1⟩)
        if covered.isEmpty then none
        else some (Fragment.join (.word .or)
          (covered.map fun field => (field.matchesPattern "").withoutValues)) := by
  cases search with
  | none =>
      cases hfound
      rfl
  | some search =>
      simp only [searchCondition] at hfound
      rw [Option.bind_some, Search.manner?]
      split at hfound
      next hblank =>
        cases hfound
        rw [if_pos hblank]
        rfl
      next hterm =>
        -- Which fields are covered does not depend on the term.
        have hcovers : Search.covers ⟨"", search.fields, search.mode⟩ = search.covers := rfl
        rw [if_neg hterm, Option.bind_some, hcovers]
        cases hcovered : mapping.fields.filter search.covers with
        | nil =>
            simp only [hcovered] at hfound
            cases hfound
            rfl
        | cons first rest =>
            simp only [hcovered] at hfound
            cases hfound
            simp only [Option.map_some, Fragment.withoutValues_join, List.map_map]
            rw [if_neg (by simp)]
            congr 2
            exact List.map_congr_left fun field _ => by simp [MappedField.matchesPattern]

end Mapping

namespace Sql.Order

/-- Whether a row lies beyond a value is asked the same way of two values that are both
null or both not. -/
theorem withoutValues_beyond? (order : Order) {value other : Scalar}
    (hnull : value.isNull = other.isNull) :
    (order.beyond? value).map Fragment.withoutValues =
      (order.beyond? other).map Fragment.withoutValues := by
  rw [beyond?_eq, beyond?_eq, ← hnull]
  cases value.isNull <;> cases order.nullsFirst <;> simp [exceeds]

theorem withoutValues_agrees (order : Order) {value other : Scalar}
    (hnull : value.isNull = other.isNull) :
    (order.agrees value).withoutValues = (order.agrees other).withoutValues := by
  rw [agrees_eq, agrees_eq, ← hnull]
  cases value.isNull <;> simp [matchesValue]

theorem withoutValues_branches {ordering : List Order} {values others : List Scalar}
    (hnulls : values.map Scalar.isNull = others.map Scalar.isNull)
    {agreed otherAgreed : List Fragment}
    (hagreed : agreed.map Fragment.withoutValues = otherAgreed.map Fragment.withoutValues) :
    (branches agreed (ordering.zip values)).map Fragment.withoutValues =
      (branches otherAgreed (ordering.zip others)).map Fragment.withoutValues := by
  induction ordering generalizing values others agreed otherAgreed with
  | nil => rfl
  | cons order rest ih =>
      cases values with
      | nil =>
          obtain rfl : others = [] := by simpa using hnulls.symm
          rfl
      | cons value values =>
          obtain ⟨other, others, rfl⟩ : ∃ other tail, others = other :: tail :=
            List.exists_cons_of_ne_nil (by rintro rfl; simp at hnulls)
          obtain ⟨hnull, hrest⟩ := List.cons.inj hnulls
          -- Both go on with one more agreement, which tests for null in both or in neither.
          have hlonger : (agreed ++ [order.agrees value]).map Fragment.withoutValues =
              (otherAgreed ++ [order.agrees other]).map Fragment.withoutValues := by
            simp [hagreed, withoutValues_agrees order hnull]
          have hlater := ih hrest hlonger
          have hbeyond := withoutValues_beyond? order hnull
          rw [List.zip_cons_cons, List.zip_cons_cons, branches, branches]
          cases hfound : order.beyond? value with
          | none =>
              have hother : order.beyond? other = none := by simpa [hfound] using hbeyond.symm
              simp only [hother]
              exact hlater
          | some beyond =>
              rw [hfound] at hbeyond
              obtain ⟨otherBeyond, hother, hsame⟩ := Option.map_eq_some_iff.mp hbeyond.symm
              simp only [hother]
              simp [hlater, hagreed, hsame]

theorem withoutValues_anyOf (branches : List Fragment) :
    (anyOf branches).withoutValues = anyOf (branches.map Fragment.withoutValues) := by
  cases branches with
  | nil => rfl
  | cons first rest =>
      cases rest with
      | nil => rfl
      | cons second others =>
          simp only [anyOf, Fragment.withoutValues_join, List.map_map, List.map_cons,
            Function.comp_def, Fragment.withoutValues_parenthesized]

/-- Of the values that rows come after, a condition depends on the positions of nulls. -/
theorem withoutValues_strictlyAfter (ordering : List Order) {values others : List Scalar}
    (hnulls : values.map Scalar.isNull = others.map Scalar.isNull) :
    (strictlyAfter ordering values).withoutValues =
      (strictlyAfter ordering others).withoutValues := by
  rw [strictlyAfter, strictlyAfter, withoutValues_anyOf, withoutValues_anyOf,
    withoutValues_branches hnulls rfl]

end Sql.Order

/-! ## Places -/

theorem Scalar.map_isNull_of_positions {values others : List Scalar}
    (hlength : values.length = others.length)
    (hnulls : ∀ position : Nat, values[position]? = some .null ↔ others[position]? = some .null) :
    values.map Scalar.isNull = others.map Scalar.isNull := by
  refine List.ext_getElem (by simp [hlength]) fun position hfirst hsecond => ?_
  rw [List.length_map] at hfirst hsecond
  rw [List.getElem_map, List.getElem_map, Bool.eq_iff_iff, isNull_iff, isNull_iff]
  simpa [List.getElem?_eq_getElem hfirst, List.getElem?_eq_getElem hsecond] using hnulls position

namespace RowKey

/-- A list continues at the values of the place, one for each entry of the ordering. -/
theorem values_of_valuesFor? {place : RowKey} {entityCode : String} {keyFields : List String}
    {ordering : List Order} {values : List Scalar}
    (hkeys : ∀ key ∈ keyFields, ∃ order ∈ ordering, order.field = key)
    (hvalues : place.valuesFor? entityCode keyFields ordering = some values) :
    values = place.values ∧ values.length = ordering.length := by
  unfold valuesFor? at hvalues
  split at hvalues
  · cases hvalues
  next hmatches =>
    obtain ⟨-, hkeyLength⟩ : place.entity = entityCode ∧ place.key.length = keyFields.length := by
      simpa using hmatches
    split at hvalues
    next hlength =>
      cases hvalues
      refine ⟨?_, hlength⟩
      -- Without an entry in the ordering there is no key field either.
      cases hsort : place.sort with
      | cons value rest => simp [RowKey.values, hsort]
      | nil =>
        obtain rfl : ordering = [] := by simpa [hsort] using hlength.symm
        obtain rfl : keyFields = [] := List.eq_nil_iff_forall_not_mem.mpr fun key hkey => by
          simpa using hkeys key hkey
        simpa [RowKey.values, hsort] using (List.length_eq_zero_iff.mp hkeyLength).symm
    next hother =>
      split at hvalues
      next hserves =>
        cases hvalues
        obtain ⟨hempty, hordered⟩ := Bool.and_eq_true_iff.mp hserves
        have hfields : ordering.map Order.field = keyFields := eq_of_beq hordered
        refine ⟨by rw [RowKey.values, if_pos hempty], ?_⟩
        rw [hkeyLength, ← hfields, List.length_map]
      next => cases hvalues

end RowKey

namespace Context

variable {context other : Context} {entityCode : String} {keyFields : List String}
variable {ordering : List Order} {conditions others : List Fragment}

/-- A page has a condition for its cursor if it starts from a place, namely to come after
the values of the place. -/
theorem cursorConditions?_eq_some_iff :
    context.cursorConditions? entityCode keyFields ordering = some conditions ↔
      (context.activeCursor = none ∧ conditions = []) ∨
      ∃ place values, context.place? = some place ∧
        place.valuesFor? entityCode keyFields ordering = some values ∧
        conditions = [Order.strictlyAfter ordering values] := by
  unfold cursorConditions? place? cursorValues?
  cases context.activeCursor with
  | none => simp [eq_comm]
  | some cursor =>
      cases hplace : RowKey.ofCursor? cursor with
      | error fault => simp [hplace, Except.toOption]
      | ok place => simp [hplace, Except.toOption, eq_comm (b := conditions)]

theorem withoutValues_cursorConditions
    (halike : Option.Rel RowKey.Alike context.place? other.place?)
    (hkeys : ∀ key ∈ keyFields, ∃ order ∈ ordering, order.field = key)
    (hconditions : context.cursorConditions? entityCode keyFields ordering = some conditions)
    (hothers : other.cursorConditions? entityCode keyFields ordering = some others) :
    conditions.map Fragment.withoutValues = others.map Fragment.withoutValues := by
  -- Of alike requests both have a cursor or neither has.
  have hnone : ∀ {context : Context}, context.activeCursor = none → context.place? = none :=
    fun hactive => by rw [place?, hactive, Option.bind_none]
  rcases cursorConditions?_eq_some_iff.mp hconditions with
    ⟨hactive, rfl⟩ | ⟨place, values, hplace, hvalues, rfl⟩
  · rcases cursorConditions?_eq_some_iff.mp hothers with
      ⟨-, rfl⟩ | ⟨otherPlace, _, hotherPlace, -, -⟩
    · rfl
    · rw [hnone hactive, hotherPlace] at halike
      cases halike
  · rcases cursorConditions?_eq_some_iff.mp hothers with
      ⟨hactive, rfl⟩ | ⟨otherPlace, otherValues, hotherPlace, hotherValues, rfl⟩
    · rw [hnone hactive, hplace] at halike
      cases halike
    · rw [hplace, hotherPlace] at halike
      cases halike with
      | some hplaces =>
          obtain ⟨rfl, hlength⟩ := RowKey.values_of_valuesFor? hkeys hvalues
          obtain ⟨rfl, hotherLength⟩ := RowKey.values_of_valuesFor? hkeys hotherValues
          have hnulls := Scalar.map_isNull_of_positions (hlength.trans hotherLength.symm)
            hplaces.nulls
          simp [Order.withoutValues_strictlyAfter ordering hnulls]

end Context

/-! ## Whole statements -/

/-- Which key fields an ordering lacks, and what they sort by, depends on the columns of a
statement and on nothing else. -/
theorem Sql.Select.totalOrdering_congr {statement other : Select}
    (hcolumns : statement.columns = other.columns) (ordering : List Order)
    (keyFields : List String) :
    statement.totalOrdering ordering keyFields = other.totalOrdering ordering keyFields := by
  induction keyFields generalizing ordering with
  | nil => rfl
  | cons key rest ih => simp only [totalOrdering, column?, hcolumns, ih]

namespace Mapping

variable {mapping : Mapping} {context other : Context}

/-- The drafts for alike requests are the same without their values. -/
theorem redacted_draft {draft otherDraft : Draft} (halike : context.Alike other)
    (hdraft : (mapping.draft context).outcome = .ok draft)
    (hother : (mapping.draft other).outcome = .ok otherDraft) :
    draft.statement.redacted = otherDraft.statement.redacted := by
  obtain ⟨filters, security, search, ordering, hfilters, hsecurity, hsearch, hordering, rfl⟩ :=
    draft_eq_ok_iff.mp hdraft
  obtain ⟨otherFilters, otherSecurity, otherSearch, otherOrdering, hotherFilters, hotherSecurity,
    hotherSearch, hotherOrdering, rfl⟩ := draft_eq_ok_iff.mp hother
  have hsorts : mapping.effectiveSorts context = mapping.effectiveSorts other := by
    unfold effectiveSorts
    rw [halike.sorts]
  obtain rfl : security = otherSecurity := Except.ok.inj (hsecurity.symm.trans hotherSecurity)
  obtain rfl : ordering = otherOrdering := by
    rw [hsorts] at hordering
    exact Except.ok.inj (hordering.symm.trans hotherOrdering)
  have hconditions := withoutValues_filterConditions halike.filters hfilters hotherFilters
  have hsearched : (search.map Prod.fst).map Fragment.withoutValues =
      (otherSearch.map Prod.fst).map Fragment.withoutValues := by
    rw [withoutValues_searchCondition hsearch, withoutValues_searchCondition hotherSearch,
      halike.search]
  simp only [Select.redacted, List.map_append, hconditions, ← Option.toList_map, hsearched]

/-- The statements of the pages for alike requests are the same without their values. -/
theorem redacted_of_alike {entityCode : String} {statement otherStatement : Select}
    (halike : context.Alike other)
    (hpaged : (mapping.paged context entityCode).outcome = .ok statement)
    (hother : (mapping.paged other entityCode).outcome = .ok otherStatement) :
    statement.redacted = otherStatement.redacted := by
  obtain ⟨draft, ordering, conditions, hdraft, htotal, hconditions, rfl⟩ :=
    paged_eq_ok_iff.mp hpaged
  obtain ⟨otherDraft, otherOrdering, others, hotherDraft, hotherTotal, hothers, rfl⟩ :=
    paged_eq_ok_iff.mp hother
  have hdrafts := redacted_draft halike hdraft hotherDraft
  obtain ⟨hcolumns, hsource, hjoins, hdrafted, hsorted, hlimit⟩ := Select.mk.inj hdrafts
  obtain rfl : ordering = otherOrdering := by
    have hsame := Select.totalOrdering_congr hcolumns draft.statement.ordering mapping.keyFields
    rw [htotal, hsorted, hotherTotal] at hsame
    exact Except.ok.inj hsame
  rw [← halike.direction] at hothers
  have hcursor : conditions.map Fragment.withoutValues = others.map Fragment.withoutValues := by
    refine Context.withoutValues_cursorConditions halike.place (fun key hkey => ?_) hconditions
      hothers
    exact context.page.direction.exists_mem_orient
      ((totalOrdering_arranges hdraft htotal).2 key hkey)
  simp only [Select.redacted, Select.cut, List.map_append, hcursor, hdrafted, hcolumns, hsource,
    hjoins, ← halike.direction, ← halike.limit]

end Mapping

namespace Shelf

/-- A request for items of a name, found by a part of it, after the item of a cursor. -/
def named (name term cursor : String) : Context :=
  { Context.standard with
    filters := [⟨"name", .equals, some (.scalar (.text name)), false, none⟩]
    sorts := [SortKey.ascending "name"]
    page := ⟨.forward, some cursor, none, 2⟩
    search := some ⟨term, none, none⟩ }

/-- A request for lamps, after one of them. -/
def lamps : Context :=
  named "lamp" "lam" "eyJlbnRpdHkiOiJpdGVtIiwia2V5IjpbIjciXSwic29ydCI6WyJsYW1wIiwiNyJdfQ"

/-- A request for chairs, after one of them. -/
def chairs : Context :=
  named "chair" "ai" "eyJlbnRpdHkiOiJpdGVtIiwia2V5IjpbIjkiXSwic29ydCI6WyJjaGFpciIsIjkiXX0"

theorem lamps_alike_chairs : lamps.Alike chairs where
  listCode := rfl
  filters := .cons ⟨rfl, rfl, rfl, .some rfl⟩ .nil
  sorts := rfl
  direction := rfl
  limit := rfl
  search := by decide +kernel
  place := by
    have hlamp : lamps.place? = some ⟨"item", [.text "7"], [.text "lamp", .text "7"]⟩ := by
      decide +kernel
    have hchair : chairs.place? = some ⟨"item", [.text "9"], [.text "chair", .text "9"]⟩ := by
      decide +kernel
    rw [hlamp, hchair]
    refine .some ⟨rfl, fun position => ?_⟩
    match position with
    | 0 | 1 | position + 2 => simp [RowKey.values]

end Shelf

namespace Planner

variable {planner : Planner} {applicationCode entityCode : String} {context other : Context}
variable {plan otherPlan : Plan}

/-- The statements for alike requests have the same text and bind as many values, and of
both of them the events tell the same, whatever the database answers. -/
theorem query_of_alike
    (hunamended : planner.amendments.find? (context.resolvedListCode entityCode) = none)
    (halike : context.Alike other)
    (hplan : (planner.plan applicationCode entityCode context).outcome = .ok plan)
    (hother : (planner.plan applicationCode entityCode other).outcome = .ok otherPlan) :
    plan.query.text = otherPlan.query.text ∧
      plan.query.parameters.length = otherPlan.query.parameters.length ∧
      ∀ pool otherPool : Pool,
        Event.TellOf
          (Engine.execute ⟨planner, pool⟩ applicationCode entityCode context).2.events
          plan.query.text plan.query.parameters.length
          (planner.settings.reported plan.query.text) ∧
        Event.TellOf
          (Engine.execute ⟨planner, otherPool⟩ applicationCode entityCode other).2.events
          plan.query.text plan.query.parameters.length
          (planner.settings.reported plan.query.text) := by
  have hlistCode : other.resolvedListCode entityCode = context.resolvedListCode entityCode := by
    unfold Context.resolvedListCode
    rw [halike.listCode]
  obtain ⟨hmapping, hpaged⟩ := paged_of_plan hplan hunamended
  obtain ⟨hotherMapping, hotherPaged⟩ := paged_of_plan hother (hlistCode ▸ hunamended)
  have hsame : plan.mapping = otherPlan.mapping :=
    Except.ok.inj (hmapping.symm.trans hotherMapping)
  rw [hsame] at hpaged
  obtain ⟨htext, hcount⟩ :=
    Select.query_of_redacted (Mapping.redacted_of_alike halike hpaged hotherPaged)
  refine ⟨htext, hcount, fun pool otherPool => ⟨?_, ?_⟩⟩
  · exact @Engine.tellOf_execute ⟨planner, pool⟩ _ _ _ _ hplan
  · have htold := @Engine.tellOf_execute ⟨planner, otherPool⟩ _ _ _ _ hother
    rw [show plan.query.text = otherPlan.query.text from htext,
      show plan.query.parameters.length = otherPlan.query.parameters.length from hcount]
    exact htold

/-- Lamps and chairs are asked for in the same words. -/
theorem query_of_alike_shelf :
    ∃ plan otherPlan,
      (Shelf.planner.plan "shop" "item" Shelf.lamps).outcome = .ok plan ∧
      (Shelf.planner.plan "shop" "item" Shelf.chairs).outcome = .ok otherPlan ∧
      plan.query.text = otherPlan.query.text := by
  obtain ⟨plan, hplan⟩ := exists_ok_of_isOk
    (show (Shelf.planner.plan "shop" "item" Shelf.lamps).outcome.isOk = true by decide +kernel)
  obtain ⟨otherPlan, hother⟩ := exists_ok_of_isOk
    (show (Shelf.planner.plan "shop" "item" Shelf.chairs).outcome.isOk = true by decide +kernel)
  exact ⟨plan, otherPlan, hplan, hother,
    (query_of_alike rfl Shelf.lamps_alike_chairs hplan hother).1⟩

end Planner

end ListQuery
