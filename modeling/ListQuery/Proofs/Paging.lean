import ListQuery.Proofs.Row

/-!
# One page of a list

The pages of a list are cut out of one sequence: the rows that match, sorted by the
ordering of the list or, if the pages lie backward, by its reverse (`Plan.listed`).
Without a cursor a page is the beginning of this sequence, and with the cursor of a row
it is the beginning of what follows the row.  `Resumes` says what is left of the sequence
for a page to take, and `fetch?_of_resumes` that planning, asking the database and
shaping take it: the page holds the next rows, turned round if it lies backward, and
tells whether there are more.
-/

namespace ListQuery

open Sql

/-! ## Running a list -/

/-- The page for a context: what the plan makes of the database's answer, if there is
one. -/
def Planner.fetch? {V : Type} [LinearOrder V] (planner : Planner) (database : Database V)
    (applicationCode entityCode : String) (context : Context) : Option Response :=
  match (planner.plan applicationCode entityCode context).outcome with
  | .error _ => none
  | .ok plan => do
    let fetched ← database.answer? plan.statement
    (plan.shape context fetched).toOption

/-- The rows of a page in the order of the list, from the order in which they are
selected. -/
def PageDirection.arrange {α : Type} (direction : PageDirection) (rows : List α) : List α :=
  match direction with
  | .forward => rows
  | .backward => rows.reverse

namespace PageDirection

variable {α β : Type} (direction : PageDirection)

theorem map_arrange (f : α → β) (rows : List α) :
    (direction.arrange rows).map f = direction.arrange (rows.map f) := by
  cases direction with
  | forward => rfl
  | backward => exact List.map_reverse

@[simp] theorem mem_arrange {row : α} {rows : List α} :
    row ∈ direction.arrange rows ↔ row ∈ rows := by
  cases direction with
  | forward => exact Iff.rfl
  | backward => exact List.mem_reverse

/-- The direction changes no field. -/
theorem map_field_orient (ordering : List Order) :
    (direction.orient ordering).map Order.field = ordering.map Order.field := by
  cases direction with
  | forward => rfl
  | backward =>
      show (ordering.map Order.reversed).map Order.field = _
      rw [List.map_map]
      rfl

end PageDirection

/-! ## Plans of other pages -/

/-- The plan of another page of the same list. -/
def Plan.turned (plan : Plan) (direction : PageDirection) (conditions : List Fragment) : Plan :=
  { plan with
    statement := { plan.statement with
      conditions := plan.statement.conditions ++ conditions
      ordering := direction.orient plan.statement.ordering } }

namespace Planner

variable {planner : Planner} {applicationCode entityCode : String} {context : Context} {plan : Plan}

/-- The parts of the plan of a first page that lies forward. -/
theorem plan_eq_cut (hplan : (planner.plan applicationCode entityCode context).outcome = .ok plan)
    (hunamended : planner.amendments.find? (context.resolvedListCode entityCode) = none)
    (hforward : context.page.direction = .forward) (hfirst : context.activeCursor = none) :
    ∃ draft ordering,
      context.fault? planner.settings.maximumLimit = none ∧
      planner.catalog.mapping applicationCode entityCode = .ok plan.mapping ∧
      (plan.mapping.draft context).outcome = .ok draft ∧
      draft.statement.totalOrdering draft.statement.ordering plan.mapping.keyFields =
        .ok ordering ∧
      plan = ⟨entityCode, context.resolvedListCode entityCode, plan.mapping,
        draft.statement.cut [] ordering context.page.limit,
        planner.amendments.contains (context.resolvedListCode entityCode),
        draft.appliedFilters, draft.searchTerm⟩ := by
  obtain ⟨hfault, mapping, draft, statement, hmapping, hdraft, hpage, rfl⟩ :=
    plan_eq_ok_iff.mp hplan
  rw [apply_of_unamended hunamended] at hpage
  obtain ⟨ordering, conditions, htotal, hconditions, rfl⟩ := Select.page_eq_ok_iff.mp hpage
  obtain rfl : conditions = [] := by
    simpa [Context.cursorConditions?, hfirst] using hconditions.symm
  exact ⟨draft, ordering, hfault, hmapping, hdraft, htotal, by rw [hforward]; rfl⟩

/-- Another page of the list is planned the same way, with the condition of its cursor and
in its own direction. -/
theorem plan_page (hplan : (planner.plan applicationCode entityCode context).outcome = .ok plan)
    (hunamended : planner.amendments.find? (context.resolvedListCode entityCode) = none)
    (hforward : context.page.direction = .forward) (hfirst : context.activeCursor = none)
    {page : PageRequest} (hlimit : page.limit = context.page.limit) {conditions : List Fragment}
    (hconditions : ({ context with page := page } : Context).cursorConditions? entityCode
      plan.mapping.keyFields (page.direction.orient plan.statement.ordering) = some conditions) :
    (planner.plan applicationCode entityCode { context with page := page }).outcome =
      .ok (plan.turned page.direction conditions) := by
  obtain ⟨draft, ordering, hfault, hmapping, hdraft, htotal, heq⟩ :=
    plan_eq_cut hplan hunamended hforward hfirst
  have hordering : plan.statement.ordering = ordering := by rw [heq]; rfl
  -- The fault looks at the size of the page only.
  have hother : ({ context with page := page } : Context).fault? planner.settings.maximumLimit =
      none := by
    unfold Context.fault? at hfault ⊢
    simp only [hlimit]
    exact hfault
  refine plan_eq_ok_iff.mpr ⟨hother, plan.mapping, draft,
    draft.statement.cut conditions (page.direction.orient ordering) page.limit, hmapping, hdraft,
    ?_, ?_⟩
  · show ((planner.amendments.apply (context.resolvedListCode entityCode) draft.statement).page
      _ entityCode plan.mapping.keyFields).outcome = _
    rw [apply_of_unamended hunamended]
    exact Select.page_eq_ok_iff.mpr
      ⟨ordering, conditions, htotal, hordering ▸ hconditions, rfl⟩
  · rw [heq, hlimit]
    simp only [Plan.turned, Select.cut, List.append_nil]
    rfl

end Planner

/-! ## What paging relies on -/

/-- What holds of the plan of an entity's list: the database can read its statement, and a
row of its result has the values that it is sorted by. -/
structure Plan.Regular (plan : Plan) : Prop where
  aliases : (plan.statement.columns.map Column.aliasName).Nodup
  readable : ∀ condition ∈ plan.statement.conditions, (Condition.read? condition).isSome
  columns : ∀ order ∈ plan.statement.ordering, order.IsColumn
  selected : ∀ order ∈ plan.statement.ordering,
    (⟨order.expression, order.field⟩ : Column) ∈ plan.statement.columns
  keys : ∀ key ∈ plan.mapping.keyFields, ∃ order ∈ plan.statement.ordering, order.field = key
  identifies : ∃ order ∈ plan.statement.ordering,
    order.expression = Fragment.column Mapping.baseAlias Mapping.idField

/-- What a database is assumed to do for a planned list. -/
structure Sql.Database.Serves {V : Type} [LinearOrder V] (database : Database V) (plan : Plan) :
    Prop where
  output_none : database.output none = .null
  /-- No two rows have the same identifier. -/
  identified : (database.rows plan.statement.source plan.statement.joins).Pairwise
    fun first second =>
      first Mapping.baseAlias Mapping.idField ≠ second Mapping.baseAlias Mapping.idField
  /-- The values that rows are sorted by are scalars, and what is read back of one from a
  cursor stands for the same value. -/
  carries : ∀ record ∈ database.matching plan.statement, ∀ order ∈ plan.statement.ordering,
    database.Carries record order
  /-- No cursor of a row is too long. -/
  short : ∀ record ∈ database.matching plan.statement, ∀ cursor,
    plan.cursor (database.project plan.statement.columns record) = .ok cursor →
    cursor.utf8ByteSize ≤ RowKey.maximumCursorLength

theorem Planner.regular_of_plan {planner : Planner} {applicationCode entityCode : String}
    {context : Context} {plan : Plan}
    (hplan : (planner.plan applicationCode entityCode context).outcome = .ok plan)
    (hunamended : planner.amendments.find? (context.resolvedListCode entityCode) = none)
    (hforward : context.page.direction = .forward) (hfirst : context.activeCursor = none)
    (haliases : (plan.mapping.columns.map Column.aliasName).Nodup) : plan.Regular := by
  obtain ⟨draft, ordering, -, hmapping, hdraft, htotal, heq⟩ :=
    plan_eq_cut hplan hunamended hforward hfirst
  obtain ⟨entity, hentity⟩ := Catalog.exists_mapping hmapping
  rw [hentity] at hdraft htotal haliases
  obtain ⟨harranges, hkeys⟩ := Mapping.totalOrdering_arranges hdraft htotal
  -- Some entry is by the identifier, so the ordering tells rows apart.
  obtain ⟨order, horder, -, hexpression⟩ :=
    EntityDefinition.exists_order_by_id haliases hdraft htotal
  have hcolumns := Mapping.columns_of_draft hdraft
  have hreadable := EntityDefinition.isSome_read?_of_draft hdraft
  have hstatement : plan.statement = draft.statement.cut [] ordering context.page.limit := by
    rw [heq]
  exact
    { aliases := by rw [hstatement]; exact hcolumns ▸ haliases
      readable := by simpa [hstatement, Select.cut] using hreadable
      columns := by
        rw [hstatement]
        exact fun order horder =>
          EntityDefinition.isColumn_of_arranges haliases (harranges order horder)
      selected := by
        rw [hstatement]
        exact fun order horder =>
          hcolumns ▸ Mapping.column_mem_of_arranges (harranges order horder)
      keys := by rw [hstatement, hentity]; exact hkeys
      identifies := by rw [hstatement]; exact ⟨order, horder, hexpression⟩ }

/-! ## The rows of a list -/

namespace Plan

variable {V : Type} [LinearOrder V] {database : Database V} {plan : Plan} {record : Record V}

/-- The rows of a list, in the order in which the pages of a direction take them. -/
def listed (plan : Plan) (database : Database V) (direction : PageDirection) : List (Record V) :=
  database.sort ((direction.orient plan.statement.ordering).map Sorting.ofOrder)
    (database.matching plan.statement)

omit [LinearOrder V] in
/-- A row as a page shows it. -/
def shown (plan : Plan) (database : Database V) (record : Record V) : ResponseRow :=
  let values := database.project plan.statement.columns record
  ⟨(plan.cursor values).toOption.getD "", values⟩

theorem mem_matching_of_mem_listed {direction : PageDirection}
    (hrecord : record ∈ plan.listed database direction) :
    record ∈ database.matching plan.statement :=
  (database.sort_perm _ _).mem_iff.mp hrecord

/-- The ordering tells any two rows apart, since it has an entry for their identifiers. -/
theorem distinguishes (hregular : plan.Regular) (hserves : database.Serves plan)
    (direction : PageDirection) :
    database.Distinguishes ((direction.orient plan.statement.ordering).map Sorting.ofOrder)
      (database.matching plan.statement) := by
  have hforward : database.Distinguishes (plan.statement.ordering.map Sorting.ofOrder)
      (database.matching plan.statement) := by
    obtain ⟨order, horder, hexpression⟩ := hregular.identifies
    refine (hserves.identified.filter _).imp fun hdistinct hequal => hdistinct ?_
    have hvalues := database.compareRecords_eq_eq.mp hequal (Sorting.ofOrder order)
      (List.mem_map_of_mem horder)
    simpa [Sorting.ofOrder, hexpression] using hvalues
  cases direction with
  | forward => exact hforward
  | backward =>
      refine hforward.imp fun {first second} hdistinct hequal => hdistinct ?_
      have hswapped : database.compareRecords (plan.statement.ordering.map Sorting.ofOrder)
          second first = .eq := by
        rwa [← database.compareRecords_reversed]
      exact Std.OrientedCmp.eq_symm hswapped

/-- Backward the rows come in reverse. -/
theorem listed_backward (hregular : plan.Regular) (hserves : database.Serves plan) :
    plan.listed database .backward = (plan.listed database .forward).reverse :=
  Database.sort_reversed (distinguishes hregular hserves .forward)

/-! ## Cursors of rows -/

/-- The row as it is shown has the cursor of the row, and from this cursor pages of either
direction read values that stand for the row. -/
theorem exists_values_shown (hregular : plan.Regular) (hserves : database.Serves plan)
    (hrecord : record ∈ database.matching plan.statement) (direction : PageDirection) :
    plan.cursor (database.project plan.statement.columns record) =
        .ok (plan.shown database record).cursor ∧
      (plan.shown database record).cursor.isEmpty = false ∧
      ∃ values, database.StandsFor record (direction.orient plan.statement.ordering) values ∧
        cursorValues? (plan.shown database record).cursor plan.entityCode plan.mapping.keyFields
          (direction.orient plan.statement.ordering) = some values := by
  have hkeys : ∀ key ∈ plan.mapping.keyFields,
      ∃ order ∈ direction.orient plan.statement.ordering, order.field = key :=
    fun key hkey => direction.exists_mem_orient (hregular.keys key hkey)
  obtain ⟨cursor, values, hcursor, hempty, hstands, hvalues⟩ :=
    (plan.turned direction []).cursor_project record hserves.output_none
      hregular.aliases (direction.forall_mem_orient hregular.selected fun _ hselected => hselected)
      hkeys
      (direction.forall_mem_orient (hserves.carries record hrecord) fun _ hcarries => hcarries)
  have hsame : (plan.turned direction []).cursor = plan.cursor :=
    cursor_congr rfl rfl (direction.map_field_orient _)
  rw [hsame] at hcursor
  have hshown : (plan.shown database record).cursor = cursor := by
    show (plan.cursor _).toOption.getD "" = cursor
    rw [show plan.cursor (database.project plan.statement.columns record) = .ok cursor from hcursor]
    rfl
  rw [hshown]
  exact ⟨hcursor, hempty, values, hstands, hvalues (hserves.short record hrecord cursor hcursor)⟩

/-! ## Answers -/

/-- The rows that are left for a page: all of them without a cursor, and with the cursor of
a row those that follow it. -/
inductive Resumes (plan : Plan) (database : Database V) (page : PageRequest) :
    List (Record V) → Prop
  | start (hcursor : page.activeCursor = none) :
      Resumes plan database page (plan.listed database page.direction)
  | after {before remaining : List (Record V)} {record : Record V}
      (hsplit : plan.listed database page.direction = before ++ record :: remaining)
      (hcursor : page.activeCursor = some (plan.shown database record).cursor) :
      Resumes plan database page remaining

theorem mem_matching_of_resumes {page : PageRequest} {remaining : List (Record V)}
    (hresumes : plan.Resumes database page remaining) :
    ∀ record ∈ remaining, record ∈ database.matching plan.statement := by
  intro record hrecord
  cases hresumes with
  | start hcursor => exact mem_matching_of_mem_listed hrecord
  | after hsplit hcursor =>
      have hlisted : record ∈ plan.listed database page.direction := by
        rw [hsplit]
        exact List.mem_append_right _ (List.mem_cons_of_mem _ hrecord)
      exact mem_matching_of_mem_listed hlisted

/-- What the statement of a page selects: as many of the rows that are left as it asks
for. -/
theorem answer?_turned {direction : PageDirection} {conditions : List Fragment} {limit : UInt32}
    {remaining : List (Record V)} (hregular : plan.Regular)
    (hlimit : plan.statement.limit = some (fetchLimit limit))
    (hsmall : limit.toNat < 0xFFFFFFFF)
    (hconditions : ∀ condition ∈ conditions, (Condition.read? condition).isSome)
    (hremaining : database.sort ((direction.orient plan.statement.ordering).map Sorting.ofOrder)
      ((database.matching plan.statement).filter fun other =>
        conditions.all (database.satisfies other)) = remaining) :
    database.answer? (plan.turned direction conditions).statement =
      some ((remaining.take (limit.toNat + 1)).map
        (database.project plan.statement.columns)) := by
  have hreadable : ∀ condition ∈ (plan.turned direction conditions).statement.conditions,
      (Condition.read? condition).isSome :=
    List.forall_mem_append.mpr ⟨hregular.readable, hconditions⟩
  have hmatching : database.matching (plan.turned direction conditions).statement =
      (database.matching plan.statement).filter fun other =>
        conditions.all (database.satisfies other) := by
    simp only [Database.matching, turned, List.filter_filter, List.all_append, Bool.and_comm]
  -- A page asks for one row more than it shows.
  have hcut : ∀ rows : List (Record V),
      Database.cutAt (plan.turned direction conditions).statement.limit rows =
        rows.take (limit.toNat + 1) := by
    intro rows
    have hfetch := fetchLimit_toNat limit
    show Database.cutAt plan.statement.limit rows = _
    rw [hlimit, Database.cutAt, hfetch, Nat.min_eq_left (by omega)]
  rw [Database.answer?_eq hreadable, hcut, hmatching]
  exact congrArg (fun rows : List (Record V) => some ((rows.take (limit.toNat + 1)).map _))
    hremaining

/-- The rows of which the condition for a row is true are those beyond the row. -/
theorem filter_satisfies_strictlyAfter {ordering : List Order} {record : Record V}
    {values : List Scalar} {others : List (Record V)}
    (hcolumns : ∀ order ∈ ordering, order.IsColumn)
    (hstands : database.StandsFor record ordering values) :
    others.filter (fun other =>
        [Order.strictlyAfter ordering values].all (database.satisfies other)) =
      others.filter fun other =>
        database.compareRecords (ordering.map Sorting.ofOrder) other record = .gt := by
  refine List.filter_congr fun other _ => ?_
  rw [List.all_cons, List.all_nil, Bool.and_true, Bool.eq_iff_iff,
    Database.satisfies_strictlyAfter_record hcolumns hstands, decide_eq_true_iff]

/-- The database selects the rows that are left, up to the size of a page and one more. -/
theorem exists_answer_of_resumes (context : Context) {page : PageRequest}
    {remaining : List (Record V)} (hregular : plan.Regular) (hserves : database.Serves plan)
    (hlimit : plan.statement.limit = some (fetchLimit page.limit))
    (hsmall : page.limit.toNat < 0xFFFFFFFF) (hresumes : plan.Resumes database page remaining) :
    ∃ conditions,
      ({ context with page := page } : Context).cursorConditions? plan.entityCode
        plan.mapping.keyFields (page.direction.orient plan.statement.ordering) = some conditions ∧
      database.answer? (plan.turned page.direction conditions).statement =
        some ((remaining.take (page.limit.toNat + 1)).map
          (database.project plan.statement.columns)) := by
  cases hresumes with
  | start hcursor =>
      have hall : (database.matching plan.statement).filter (fun other =>
          ([] : List Fragment).all (database.satisfies other)) =
            database.matching plan.statement := by
        simp
      refine ⟨[], ?_, answer?_turned hregular hlimit hsmall (by simp) (by rw [hall]; rfl)⟩
      simp [Context.cursorConditions?, Context.activeCursor, hcursor]
  | @after before _ record hsplit hcursor =>
      have hlisted : record ∈ plan.listed database page.direction := by
        rw [hsplit]
        exact List.mem_append_right _ List.mem_cons_self
      have hrecord := mem_matching_of_mem_listed hlisted
      obtain ⟨-, -, values, hstands, hvalues⟩ :=
        exists_values_shown hregular hserves hrecord page.direction
      have hcolumns : ∀ order ∈ page.direction.orient plan.statement.ordering, order.IsColumn :=
        page.direction.forall_mem_orient hregular.columns fun _ hcolumn => hcolumn
      refine ⟨[Order.strictlyAfter (page.direction.orient plan.statement.ordering) values], ?_,
        answer?_turned hregular hlimit hsmall ?_ ?_⟩
      · simp [Context.cursorConditions?, Context.activeCursor, hcursor, hvalues]
      · exact List.forall_mem_singleton.mpr (Order.readable_strictlyAfter hcolumns).isSome_read?
      · rw [filter_satisfies_strictlyAfter hcolumns hstands]
        exact Database.sort_filter_beyond (distinguishes hregular hserves page.direction) hsplit

/-! ## Shapes -/

/-- What a page of a size shows of the rows that are left for it. -/
structure Presents (plan : Plan) (database : Database V) (direction : PageDirection) (size : Nat)
    (remaining : List (Record V)) (response : Response) : Prop where
  rows : response.rows = (direction.arrange (remaining.take size)).map (plan.shown database)
  hasNextPage : response.pageInfo.hasNextPage = decide (size < remaining.length)
  startCursor : response.pageInfo.startCursor = response.rows.head?.map ResponseRow.cursor
  endCursor : response.pageInfo.endCursor = response.rows.getLast?.map ResponseRow.cursor

/-- A page has the first of the rows that were fetched for it, in the order of the list. -/
theorem pageRows_eq {context : Context} {fetched : List Row} :
    pageRows context fetched =
      context.page.direction.arrange (fetched.take context.page.limit.toNat) := by
  unfold pageRows
  cases context.page.direction <;> rfl

/-- Another page of the list shows a row as the list does. -/
theorem mapM_responseRow_turned (direction : PageDirection) (conditions : List Fragment)
    {records : List (Record V)} (hregular : plan.Regular) (hserves : database.Serves plan)
    (hrecords : ∀ record ∈ records, record ∈ database.matching plan.statement) :
    (records.map (database.project plan.statement.columns)).mapM
        (plan.turned direction conditions).responseRow =
      .ok (records.map (plan.shown database)) := by
  have hsame : (plan.turned direction conditions).cursor = plan.cursor :=
    cursor_congr rfl rfl (direction.map_field_orient _)
  rw [mapM_eq_ok_iff, List.forall₂_map_left_iff, List.forall₂_map_right_iff, List.forall₂_same]
  intro record hrecord
  obtain ⟨hcursor, -, -⟩ :=
    exists_values_shown hregular hserves (hrecords record hrecord) .forward
  unfold responseRow
  rw [hsame, hcursor]
  rfl

/-- Rows of a list are shaped into a page that shows them. -/
theorem exists_shape (context : Context) (conditions : List Fragment) {remaining : List (Record V)}
    (hregular : plan.Regular) (hserves : database.Serves plan)
    (hremaining : ∀ record ∈ remaining, record ∈ database.matching plan.statement) :
    ∃ response,
      (plan.turned context.page.direction conditions).shape context
        ((remaining.take (context.page.limit.toNat + 1)).map
          (database.project plan.statement.columns)) = .ok response ∧
      plan.Presents database context.page.direction context.page.limit.toNat remaining
        response := by
  have hpage : pageRows context ((remaining.take (context.page.limit.toNat + 1)).map
        (database.project plan.statement.columns)) =
      (context.page.direction.arrange (remaining.take context.page.limit.toNat)).map
        (database.project plan.statement.columns) := by
    rw [pageRows_eq, ← List.map_take, List.take_take, Nat.min_eq_left (Nat.le_succ _),
      PageDirection.map_arrange]
  have hshown : ∀ record ∈ context.page.direction.arrange
      (remaining.take context.page.limit.toNat), record ∈ database.matching plan.statement :=
    fun record hrecord => hremaining record
      (List.mem_of_mem_take (context.page.direction.mem_arrange.mp hrecord))
  -- One row more than the page may have is fetched, so it is missing where the rows end.
  have hnext : (context.page.limit.toNat <
        ((remaining.take (context.page.limit.toNat + 1)).map
          (database.project plan.statement.columns)).length) ↔
      context.page.limit.toNat < remaining.length := by
    rw [List.length_map, List.length_take]
    omega
  unfold shape
  rw [hpage, mapM_responseRow_turned _ conditions hregular hserves hshown]
  exact ⟨_, rfl, ⟨rfl, decide_eq_decide.mpr hnext, rfl, rfl⟩⟩

end Plan

/-! ## Pages -/

/-- A page takes the next of the rows that are left for it. -/
theorem Planner.fetch?_of_resumes {V : Type} [LinearOrder V] {database : Database V}
    {planner : Planner} {applicationCode entityCode : String} {context : Context} {plan : Plan}
    (hplan : (planner.plan applicationCode entityCode context).outcome = .ok plan)
    (hunamended : planner.amendments.find? (context.resolvedListCode entityCode) = none)
    (hforward : context.page.direction = .forward) (hfirst : context.activeCursor = none)
    (hregular : plan.Regular) (hserves : database.Serves plan)
    {page : PageRequest} (hlimit : page.limit = context.page.limit)
    (hsmall : page.limit.toNat < 0xFFFFFFFF) {remaining : List (Record V)}
    (hresumes : plan.Resumes database page remaining) :
    ∃ response,
      planner.fetch? database applicationCode entityCode { context with page := page } =
        some response ∧
      plan.Presents database page.direction page.limit.toNat remaining response := by
  obtain ⟨draft, ordering, -, -, -, -, heq⟩ := plan_eq_cut hplan hunamended hforward hfirst
  have hstatement : plan.statement.limit = some (fetchLimit page.limit) := by
    rw [heq, hlimit]
    rfl
  have hentity : plan.entityCode = entityCode := by rw [heq]
  obtain ⟨conditions, hconditions, hanswer⟩ :=
    Plan.exists_answer_of_resumes context hregular hserves hstatement hsmall hresumes
  rw [hentity] at hconditions
  have hother := plan_page hplan hunamended hforward hfirst hlimit hconditions
  obtain ⟨response, hshape, hpresents⟩ :=
    Plan.exists_shape { context with page := page } conditions hregular hserves
      (Plan.mem_matching_of_resumes hresumes)
  refine ⟨response, ?_, hpresents⟩
  unfold fetch?
  rw [hother]
  simp only [hanswer]
  show (Except.toOption _) = _
  rw [hshape]
  rfl

end ListQuery
