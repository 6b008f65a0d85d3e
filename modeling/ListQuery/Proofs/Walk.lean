import ListQuery.Proofs.Paging
import Mathlib.Data.String.Basic

/-!
# Walking through a list

A caller walks through a list by asking for page after page, each at the cursor of the
outermost row of the page before, until a page says that there is no further one.

One step leaves for the next page exactly the rows that the page does not show
(`Plan.Resumes.continued`).  By induction over the rounds the pages of a walk cover the
rows that are left at its start, one part after the other (`Planner.walk?_of_resumes`).
Forward this is the whole list in its order, and backward the list from its end.
-/

namespace ListQuery

open Sql

/-! ## Asking for page after page -/

/-- The request for the page after the one with this information. -/
def PageRequest.continued (page : PageRequest) (info : PageInfo) : PageRequest :=
  match page.direction with
  | .forward => { page with after := info.endCursor }
  | .backward => { page with before := info.startCursor }

/-- The pages from that of a context on, up to one that has no next page; `rounds` bounds
their number. -/
def Planner.walk? {V : Type} [LinearOrder V] (planner : Planner) (database : Database V)
    (applicationCode entityCode : String) : Nat → Context → Option (List Response)
  | 0, _ => none
  | rounds + 1, context => do
    let response ← planner.fetch? database applicationCode entityCode context
    if response.pageInfo.hasNextPage then
      let rest ← walk? planner database applicationCode entityCode rounds
        { context with page := context.page.continued response.pageInfo }
      return response :: rest
    else return [response]

/-- The context for a page of a direction, at a cursor or without one. -/
def Context.facing (context : Context) (direction : PageDirection) (cursor : Option String) :
    Context :=
  match direction with
  | .forward => { context with page := { context.page with direction, after := cursor } }
  | .backward => { context with page := { context.page with direction, before := cursor } }

namespace PageDirection

variable {α : Type} (direction : PageDirection)

@[simp] theorem arrange_arrange (rows : List α) :
    direction.arrange (direction.arrange rows) = rows := by
  cases direction with
  | forward => rfl
  | backward => exact List.reverse_reverse rows

@[simp] theorem length_arrange (rows : List α) :
    (direction.arrange rows).length = rows.length := by
  cases direction with
  | forward => rfl
  | backward => exact List.length_reverse

end PageDirection

namespace PageRequest

@[simp] theorem direction_continued (page : PageRequest) (info : PageInfo) :
    (page.continued info).direction = page.direction := by
  unfold continued
  split <;> rfl

@[simp] theorem limit_continued (page : PageRequest) (info : PageInfo) :
    (page.continued info).limit = page.limit := by
  unfold continued
  split <;> rfl

end PageRequest

namespace Plan

variable {V : Type} [LinearOrder V] {database : Database V} {plan : Plan} {page : PageRequest}
variable {direction : PageDirection} {size : Nat} {remaining : List (Record V)}
variable {response : Response} {pages : List Response}

/-! ## One step -/

/-- The rows that are left are the last ones of the list. -/
theorem Resumes.exists_prefix (hresumes : plan.Resumes database page remaining) :
    ∃ earlier, plan.listed database page.direction = earlier ++ remaining := by
  cases hresumes with
  | start hcursor => exact ⟨[], rfl⟩
  | @after before _ record hsplit hcursor =>
      exact ⟨before ++ [record], by rw [hsplit, List.append_assoc, List.singleton_append]⟩

omit [LinearOrder V] in
/-- A page with a successor continues at the last of the rows that it takes. -/
theorem Presents.activeCursor_continued {front : List (Record V)} {record : Record V}
    (hpresents : plan.Presents database page.direction size remaining response)
    (htake : remaining.take size = front ++ [record])
    (hcursor : (plan.shown database record).cursor.isEmpty = false) :
    (page.continued response.pageInfo).activeCursor = some (plan.shown database record).cursor := by
  have hrows := hpresents.rows
  rw [htake] at hrows
  unfold PageRequest.activeCursor PageRequest.continued
  cases hdirection : page.direction with
  | forward =>
      rw [hdirection] at hrows
      have hend := hpresents.endCursor
      rw [hrows] at hend
      simp [PageDirection.arrange, hend, hcursor]
  | backward =>
      rw [hdirection] at hrows
      have hstart := hpresents.startCursor
      rw [hrows] at hstart
      simp [PageDirection.arrange, hstart, hcursor]

/-- A page leaves for the next one the rows that it does not show. -/
theorem Resumes.continued (hregular : plan.Regular) (hserves : database.Serves plan)
    (hresumes : plan.Resumes database page remaining)
    (hpresents : plan.Presents database page.direction size remaining response)
    (hsize : 0 < size) (hmore : size < remaining.length) :
    plan.Resumes database (page.continued response.pageInfo) (remaining.drop size) := by
  obtain ⟨earlier, hlisted⟩ := hresumes.exists_prefix
  have hsome : remaining.take size ≠ [] := by
    rw [ne_eq, List.take_eq_nil_iff]
    rintro (rfl | rfl)
    · omega
    · simp at hmore
  -- The last row of the page is the one that the next page goes on from.
  obtain ⟨front, record, htake⟩ : ∃ front record, remaining.take size = front ++ [record] :=
    ⟨_, _, (List.dropLast_append_getLast hsome).symm⟩
  have hsplit : plan.listed database (page.continued response.pageInfo).direction =
      (earlier ++ front) ++ record :: remaining.drop size := by
    calc plan.listed database (page.continued response.pageInfo).direction
        = earlier ++ (remaining.take size ++ remaining.drop size) := by
          rw [PageRequest.direction_continued, hlisted, List.take_append_drop]
      _ = (earlier ++ front) ++ record :: remaining.drop size := by
          rw [htake]
          simp
  have hrecord : record ∈ database.matching plan.statement :=
    mem_matching_of_resumes hresumes record
      (List.mem_of_mem_take (htake ▸ List.mem_append_right front (List.mem_singleton_self record)))
  obtain ⟨-, hcursor, -⟩ := exists_values_shown hregular hserves hrecord page.direction
  exact .after hsplit (hpresents.activeCursor_continued htake hcursor)

/-- Backward from the row in some place of the list, the rows before it are left. -/
theorem resumes_backward (hregular : plan.Regular) (hserves : database.Serves plan)
    (hdirection : page.direction = .backward) {place : Nat}
    (hplace : place < (plan.listed database .forward).length)
    (hcursor : page.activeCursor =
      some (plan.shown database (plan.listed database .forward)[place]).cursor) :
    plan.Resumes database page ((plan.listed database .forward).take place).reverse := by
  have hsplit : plan.listed database page.direction =
      ((plan.listed database .forward).drop (place + 1)).reverse ++
        (plan.listed database .forward)[place] ::
          ((plan.listed database .forward).take place).reverse := by
    calc plan.listed database page.direction
        = ((plan.listed database .forward).take place ++
            (plan.listed database .forward).drop place).reverse := by
          rw [hdirection, listed_backward hregular hserves, List.take_append_drop]
      _ = _ := by
          rw [List.drop_eq_getElem_cons hplace, List.reverse_append, List.reverse_cons,
            List.append_assoc, List.singleton_append]
  exact .after hsplit hcursor

/-! ## All steps -/

/-- Pages that show rows part by part: each but the last is full and says that there is a
next one. -/
inductive Covers (plan : Plan) (database : Database V) (direction : PageDirection) (size : Nat) :
    List (Record V) → List Response → Prop
  | last {remaining : List (Record V)} {response : Response} (hlast : remaining.length ≤ size)
      (hpresents : plan.Presents database direction size remaining response) :
      Covers plan database direction size remaining [response]
  | next {remaining : List (Record V)} {response : Response} {rest : List Response}
      (hmore : size < remaining.length)
      (hpresents : plan.Presents database direction size remaining response)
      (hrest : Covers plan database direction size (remaining.drop size) rest) :
      Covers plan database direction size remaining (response :: rest)

omit [LinearOrder V] in
/-- The pages show every row once. -/
theorem Covers.flatMap_rows (hcovers : plan.Covers database direction size remaining pages) :
    (pages.flatMap fun response => direction.arrange response.rows) =
      remaining.map (plan.shown database) := by
  induction hcovers with
  | last hlast hpresents =>
      rw [List.flatMap_singleton, hpresents.rows, List.take_of_length_le hlast,
        PageDirection.map_arrange, PageDirection.arrange_arrange]
  | @next remaining response rest hmore hpresents hrest ih =>
      rw [List.flatMap_cons, ih, hpresents.rows, PageDirection.map_arrange,
        PageDirection.arrange_arrange, ← List.map_append, List.take_append_drop]

omit [LinearOrder V] in
/-- Backward, the pages in reverse show the rows in the order of the list. -/
theorem Covers.flatMap_reverse {records : List (Record V)}
    (hcovers : plan.Covers database .backward size records.reverse pages) :
    pages.reverse.flatMap Response.rows = records.map (plan.shown database) := by
  have hrows : (pages.flatMap fun response => response.rows.reverse) =
      records.reverse.map (plan.shown database) := hcovers.flatMap_rows
  calc pages.reverse.flatMap Response.rows
      = (pages.flatMap fun response => response.rows.reverse).reverse := by
        rw [List.reverse_flatMap]
        simp [Function.comp_def]
    _ = records.map (plan.shown database) := by
        rw [hrows, List.map_reverse, List.reverse_reverse]

omit [LinearOrder V] in
/-- No page is too long, and only the last one can be short. -/
theorem Covers.length_rows (hcovers : plan.Covers database direction size remaining pages) :
    (∀ response ∈ pages.dropLast, response.rows.length = size) ∧
      ∀ response ∈ pages, response.rows.length ≤ size := by
  have hlength : ∀ {remaining : List (Record V)} {response : Response},
      plan.Presents database direction size remaining response →
      response.rows.length = min size remaining.length := by
    intro remaining response hpresents
    rw [hpresents.rows, List.length_map, PageDirection.length_arrange, List.length_take]
  induction hcovers with
  | last hlast hpresents =>
      refine ⟨by simp, List.forall_mem_singleton.mpr ?_⟩
      rw [hlength hpresents]
      exact Nat.min_le_left _ _
  | @next remaining response rest hmore hpresents hrest ih =>
      have hfirst : response.rows.length = size := by
        rw [hlength hpresents, Nat.min_eq_left (Nat.le_of_lt hmore)]
      obtain ⟨hfull, hbound⟩ := ih
      -- More rows are left after this page, so it is full.
      refine ⟨fun other hother => ?_, List.forall_mem_cons.mpr ⟨Nat.le_of_eq hfirst, hbound⟩⟩
      cases rest with
      | nil => simp at hother
      | cons second others =>
          rw [List.dropLast_cons_cons] at hother
          rcases List.mem_cons.mp hother with rfl | hother
          · exact hfirst
          · exact hfull other hother

end Plan

/-! ## A shelf of three items -/

namespace Shelf

/-- A database that holds one table of texts. -/
def database (table : List (Record String)) : Database String where
  rows _ _ := table
  literal known := if known then "true" else "false"
  literal_ne := Database.falseText_ne_trueText
  bound
    | .text value, _ => some value
    | .bool known, _ => some (if known then "true" else "false")
    | .null, _ | .int _, _ | .float _, _ => none
  convert _ value := some value
  matchesPattern value pattern := value = pattern
  compute _ record := record Mapping.baseAlias Mapping.idField
  output
    | some value => .text value
    | none => .null

/-- An item that is not deleted, with an identifier and perhaps a name. -/
def item (id : String) (name : Option String) : Record String :=
  fun _ column =>
    if column = "id" then some id
    else if column = "name" then name
    else if column = "markedForDeletion" then some "false"
    else none

/-- Three items, two of which have the same name and one of which has none. -/
def items : List (Record String) :=
  [item "7" (some "lamp"), item "8" none, item "9" (some "lamp")]

/-- A planner that knows the sample entity. -/
def planner : Planner :=
  ⟨⟨[⟨"shop", "Shop", [EntityDefinition.sample], []⟩], none⟩, Amendments.empty, Settings.standard⟩

/-- A request for two items. -/
def request : Context :=
  { Context.standard with page := { PageRequest.standard with limit := 2 } }

/-- The database serves every plan in which the cursors of the items are short enough:
texts are returned and read back as they are. -/
theorem serves {plan : Plan}
    (hshort : ∀ record ∈ items, ∀ cursor,
      plan.cursor ((database items).project plan.statement.columns record) = .ok cursor →
      cursor.utf8ByteSize ≤ RowKey.maximumCursorLength) : (database items).Serves plan where
  output_none := rfl
  identified := by
    show items.Pairwise fun first second => first "root" "id" ≠ second "root" "id"
    decide
  carries record _ order _ value hvalue :=
    ⟨.text value, .text value, rfl, Scalar.readBack?_of_ne_float (by simp), rfl⟩
  short record hrecord := hshort record (List.mem_filter.mp hrecord).1

/-- The request can be planned, its columns have distinct names, and the database serves
the plan. -/
theorem exists_plan : ∃ plan, (planner.plan "shop" "item" request).outcome = .ok plan ∧
    (plan.mapping.columns.map Column.aliasName).Nodup ∧ (database items).Serves plan := by
  have hcheck : ((planner.plan "shop" "item" request).outcome.toOption.any fun plan =>
      decide (plan.mapping.columns.map Column.aliasName).Nodup &&
        items.all fun record =>
          (plan.cursor ((database items).project plan.statement.columns record)).toOption.all
            fun cursor => cursor.utf8ByteSize ≤ RowKey.maximumCursorLength) = true := by
    decide +kernel
  cases hplan : (planner.plan "shop" "item" request).outcome with
  | error failure => simp [hplan, Except.toOption] at hcheck
  | ok plan =>
      simp only [hplan, Except.toOption, Option.any_some, Bool.and_eq_true, decide_eq_true_eq,
        List.all_eq_true] at hcheck
      obtain ⟨haliases, hshort⟩ := hcheck
      refine ⟨plan, rfl, haliases, serves fun record hrecord cursor hcursor => ?_⟩
      simpa [hcursor] using hshort record hrecord

end Shelf

namespace Planner

variable {V : Type} [LinearOrder V] {database : Database V} {planner : Planner}
variable {applicationCode entityCode : String} {context : Context} {plan : Plan}

/-- The size of a page that can be planned is positive. -/
theorem limit_pos_of_plan
    (hplan : (planner.plan applicationCode entityCode context).outcome = .ok plan) :
    0 < context.page.limit.toNat := by
  obtain ⟨hfault, -⟩ := plan_eq_ok_iff.mp hplan
  rw [Nat.pos_iff_ne_zero]
  intro hzero
  have hlimit : context.page.limit = 0 := UInt32.toNat_inj.mp hzero
  simp [Context.fault?, hlimit] at hfault

/-- The pages of a walk cover the rows that are left for its first page. -/
theorem walk?_of_resumes
    (hplan : (planner.plan applicationCode entityCode context).outcome = .ok plan)
    (hunamended : planner.amendments.find? (context.resolvedListCode entityCode) = none)
    (hforward : context.page.direction = .forward) (hfirst : context.activeCursor = none)
    (hregular : plan.Regular) (hserves : database.Serves plan)
    (hsmall : context.page.limit.toNat < 0xFFFFFFFF) {rounds : Nat} :
    ∀ {page : PageRequest} {remaining : List (Record V)}, page.limit = context.page.limit →
      plan.Resumes database page remaining →
      remaining.length / context.page.limit.toNat < rounds →
      ∃ pages,
        planner.walk? database applicationCode entityCode rounds { context with page := page } =
          some pages ∧
        plan.Covers database page.direction context.page.limit.toNat remaining pages := by
  have hsize := limit_pos_of_plan hplan
  induction rounds with
  | zero =>
      intro page remaining hlimit hresumes hrounds
      exact absurd hrounds (Nat.not_lt_zero _)
  | succ rounds ih =>
      intro page remaining hlimit hresumes hrounds
      obtain ⟨response, hfetch, hpresents⟩ := fetch?_of_resumes hplan hunamended hforward hfirst
        hregular hserves hlimit (hlimit ▸ hsmall) hresumes
      rw [hlimit] at hpresents
      have hnext := hpresents.hasNextPage
      by_cases hmore : context.page.limit.toNat < remaining.length
      · rw [decide_eq_true hmore] at hnext
        have hcontinued := hresumes.continued hregular hserves hpresents hsize hmore
        -- A round takes a full page, so it lowers the quotient by one.
        have hquotient : (remaining.drop context.page.limit.toNat).length /
            context.page.limit.toNat < rounds := by
          have hstep := Nat.div_eq_sub_div hsize (Nat.le_of_lt hmore)
          rw [List.length_drop]
          omega
        obtain ⟨rest, hwalk, hcovers⟩ := ih
          ((PageRequest.limit_continued page response.pageInfo).trans hlimit) hcontinued hquotient
        rw [PageRequest.direction_continued] at hcovers
        refine ⟨response :: rest, ?_, .next hmore hpresents hcovers⟩
        rw [walk?, hfetch]
        simp [hnext, hwalk]
      · rw [decide_eq_false hmore] at hnext
        refine ⟨[response], ?_, .last (by omega) hpresents⟩
        rw [walk?, hfetch]
        simp [hnext]

/-! ## Forward -/

/-- Walking forward through a list visits every matching row once, in the order of the
list, and comes to an end: from some number of rounds on the walk is the same sequence of
pages, of which all but the last are full. -/
theorem walk?_forward
    (hplan : (planner.plan applicationCode entityCode context).outcome = .ok plan)
    (haliases : (plan.mapping.columns.map Column.aliasName).Nodup)
    (hunamended : planner.amendments.find? (context.resolvedListCode entityCode) = none)
    (hforward : context.page.direction = .forward) (hfirst : context.activeCursor = none)
    (hsmall : context.page.limit.toNat < 0xFFFFFFFF) (hserves : database.Serves plan) :
    ∃ records : List (Record V),
      records.Perm (database.matching plan.statement) ∧
      database.Ascending (plan.statement.ordering.map Sorting.ofOrder) records ∧
      ∀ rounds, records.length / context.page.limit.toNat < rounds →
        ∃ pages,
          planner.walk? database applicationCode entityCode rounds context = some pages ∧
          pages.flatMap Response.rows = records.map (plan.shown database) ∧
          (∀ page ∈ pages.dropLast, page.rows.length = context.page.limit.toNat) ∧
          ∀ page ∈ pages, page.rows.length ≤ context.page.limit.toNat := by
  have hregular := regular_of_plan hplan hunamended hforward hfirst haliases
  have hresumes : plan.Resumes database context.page (plan.listed database .forward) := by
    have hstart : plan.Resumes database context.page
        (plan.listed database context.page.direction) := .start hfirst
    rwa [hforward] at hstart
  refine ⟨plan.listed database .forward, database.sort_perm _ _,
    Database.ascending_sort (Plan.distinguishes hregular hserves .forward), ?_⟩
  intro rounds hrounds
  obtain ⟨pages, hwalk, hcovers⟩ := walk?_of_resumes hplan hunamended hforward hfirst hregular
    hserves hsmall rfl hresumes hrounds
  rw [hforward] at hcovers
  exact ⟨pages, hwalk, hcovers.flatMap_rows, hcovers.length_rows.1, hcovers.length_rows.2⟩

/-- Two items at a time, every item of the shelf is visited once. -/
theorem walk?_forward_shelf :
    ∃ (plan : Plan) (records : List (Record String)) (pages : List Response),
      (Shelf.planner.plan "shop" "item" Shelf.request).outcome = .ok plan ∧
      records.Perm ((Shelf.database Shelf.items).matching plan.statement) ∧
      Shelf.planner.walk? (Shelf.database Shelf.items) "shop" "item" (records.length / 2 + 1)
        Shelf.request = some pages ∧
      pages.flatMap Response.rows = records.map (plan.shown (Shelf.database Shelf.items)) := by
  obtain ⟨plan, hplan, haliases, hserves⟩ := Shelf.exists_plan
  obtain ⟨records, hperm, -, hwalk⟩ := walk?_forward hplan haliases rfl rfl rfl (by decide) hserves
  obtain ⟨pages, hpages, hrows, -, -⟩ := hwalk (records.length / 2 + 1) (Nat.lt_succ_self _)
  exact ⟨plan, records, pages, hplan, hperm, hpages, hrows⟩

/-! ## Backward -/

/-- A backward page shows the last of the rows that come before it, in the order of the
list. -/
theorem fetch?_backward
    (hplan : (planner.plan applicationCode entityCode context).outcome = .ok plan)
    (hunamended : planner.amendments.find? (context.resolvedListCode entityCode) = none)
    (hforward : context.page.direction = .forward) (hfirst : context.activeCursor = none)
    (hregular : plan.Regular) (hserves : database.Serves plan)
    (hsmall : context.page.limit.toNat < 0xFFFFFFFF) {page : PageRequest}
    {earlier : List (Record V)} (hresumes : plan.Resumes database page earlier.reverse)
    (hdirection : page.direction = .backward) (hlimit : page.limit = context.page.limit) :
    ∃ response,
      planner.fetch? database applicationCode entityCode { context with page := page } =
        some response ∧
      response.rows = (earlier.drop (earlier.length - context.page.limit.toNat)).map
        (plan.shown database) ∧
      response.pageInfo.hasNextPage = decide (context.page.limit.toNat < earlier.length) := by
  obtain ⟨response, hfetch, hpresents⟩ := fetch?_of_resumes hplan hunamended hforward hfirst
    hregular hserves hlimit (hlimit ▸ hsmall) hresumes
  refine ⟨response, hfetch, ?_, ?_⟩
  · -- The beginning of the reversed rows, reversed again, is their end.
    rw [hpresents.rows, hdirection, hlimit, List.take_reverse]
    exact congrArg _ (List.reverse_reverse _)
  · rw [hpresents.hasNextPage, hlimit, List.length_reverse]

/-- A backward page at the cursor of a row shows the rows right before this row in the
order of the list, and one without a cursor the last rows of the list; each says whether
there are rows before those that it shows.  So walking backward visits every row once, and
the pages in reverse make up the list. -/
theorem window_backward
    (hplan : (planner.plan applicationCode entityCode (context.facing .forward none)).outcome =
      .ok plan)
    (haliases : (plan.mapping.columns.map Column.aliasName).Nodup)
    (hunamended : planner.amendments.find? (context.resolvedListCode entityCode) = none)
    (hsmall : context.page.limit.toNat < 0xFFFFFFFF) (hserves : database.Serves plan) :
    ∃ records : List (Record V),
      records.Perm (database.matching plan.statement) ∧
      database.Ascending (plan.statement.ordering.map Sorting.ofOrder) records ∧
      (∀ place (hplace : place < records.length), ∃ cursor page,
        plan.cursor (database.project plan.statement.columns records[place]) = .ok cursor ∧
        planner.fetch? database applicationCode entityCode
          (context.facing .backward (some cursor)) = some page ∧
        page.rows = ((records.take place).drop (place - context.page.limit.toNat)).map
          (plan.shown database) ∧
        page.pageInfo.hasNextPage = decide (context.page.limit.toNat < place)) ∧
      (∃ page,
        planner.fetch? database applicationCode entityCode (context.facing .backward none) =
          some page ∧
        page.rows = (records.drop (records.length - context.page.limit.toNat)).map
          (plan.shown database) ∧
        page.pageInfo.hasNextPage = decide (context.page.limit.toNat < records.length)) ∧
      ∀ rounds, records.length / context.page.limit.toNat < rounds →
        ∃ pages,
          planner.walk? database applicationCode entityCode rounds
            (context.facing .backward none) = some pages ∧
          pages.reverse.flatMap Response.rows = records.map (plan.shown database) := by
  have hregular := regular_of_plan hplan hunamended rfl rfl haliases
  have hresumes : plan.Resumes database (context.facing .backward none).page
      (plan.listed database .forward).reverse :=
    Plan.listed_backward hregular hserves ▸ .start rfl
  refine ⟨plan.listed database .forward, database.sort_perm _ _,
    Database.ascending_sort (Plan.distinguishes hregular hserves .forward), ?_, ?_, ?_⟩
  · intro place hplace
    have hrecord := Plan.mem_matching_of_mem_listed (List.getElem_mem hplace)
    obtain ⟨hcursor, hempty, -⟩ :=
      Plan.exists_values_shown hregular hserves hrecord .backward
    have hbefore : plan.Resumes database
        (context.facing .backward
          (some (plan.shown database (plan.listed database .forward)[place]).cursor)).page
        ((plan.listed database .forward).take place).reverse :=
      Plan.resumes_backward hregular hserves rfl hplace
        (by simp [Context.facing, PageRequest.activeCursor, hempty])
    obtain ⟨response, hfetch, hrows, hnext⟩ := fetch?_backward hplan hunamended rfl rfl hregular
      hserves hsmall hbefore rfl rfl
    rw [List.length_take_of_le (Nat.le_of_lt hplace)] at hrows hnext
    exact ⟨_, response, hcursor, hfetch, hrows, hnext⟩
  · exact fetch?_backward hplan hunamended rfl rfl hregular hserves hsmall hresumes rfl rfl
  · intro rounds hrounds
    rw [← List.length_reverse] at hrounds
    have hlimit : (context.facing .backward none).page.limit = context.page.limit := rfl
    obtain ⟨pages, hwalk, hcovers⟩ := walk?_of_resumes hplan hunamended rfl rfl hregular hserves
      hsmall hlimit hresumes hrounds
    exact ⟨pages, hwalk, hcovers.flatMap_reverse⟩

/-- The last page of the shelf holds its last two items. -/
theorem window_backward_shelf :
    ∃ (plan : Plan) (records : List (Record String)) (page : Response),
      (Shelf.planner.plan "shop" "item" Shelf.request).outcome = .ok plan ∧
      records.Perm ((Shelf.database Shelf.items).matching plan.statement) ∧
      Shelf.planner.fetch? (Shelf.database Shelf.items) "shop" "item"
        (Shelf.request.facing .backward none) = some page ∧
      page.rows = (records.drop (records.length - 2)).map
        (plan.shown (Shelf.database Shelf.items)) := by
  obtain ⟨plan, hplan, haliases, hserves⟩ := Shelf.exists_plan
  have hfacing : (Shelf.planner.plan "shop" "item" (Shelf.request.facing .forward none)).outcome =
      .ok plan := hplan
  obtain ⟨records, hperm, -, -, ⟨page, hpage, hrows, -⟩, -⟩ :=
    window_backward hfacing haliases rfl (by decide) hserves
  exact ⟨plan, records, page, hplan, hperm, hpage, hrows⟩

end Planner

end ListQuery
