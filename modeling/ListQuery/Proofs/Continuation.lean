import ListQuery.Proofs.Walk

/-!
# Continuing at any row of a page

A page hands out a cursor for each of its rows.  Whichever page of a list it is, the list
can be planned again at each of these cursors, in either direction, and the plan differs
from that of the first page by the condition to lie beyond the row (`plan_at_row`).

The argument follows a row from the page to the next plan.  Its cursor is made of the
values under the key fields and under the fields of the ordering (`cursor_eq_ok_iff`), so
it has as many of them as a cursor of the list has to have, in either direction
(`cursorValues?_of_cursor`); and the plan of any page is the plan of the first page, turned
and with further conditions (`exists_first`), so planning at the cursor gets as far as
reading it.  What can keep a cursor from being read is its length alone
(`plan_of_cursorFault`).
-/

namespace ListQuery

open Sql

/-! ## From a row to its cursor -/

/-- Whether the doubles that a row has under the fields of an ordering survive their JSON
texts. -/
def Row.IsReadBack (row : Row) (ordering : List Order) : Prop :=
  ∀ order ∈ ordering, ∀ x, row.scalarAt order.field = .ok (.float x) → x.IsReadBack

namespace Plan

variable {plan : Plan} {row : Row} {cursor : String}

/-- The rows of a page have their cursors, and these are the cursors that the page hands
out. -/
theorem cursors_of_shape {context : Context} {fetched : List Row} {response : Response}
    (hshape : plan.shape context fetched = .ok response) :
    (∀ shown ∈ response.rows, plan.cursor shown.values = .ok shown.cursor) ∧
      ∀ cursor, response.pageInfo.startCursor = some cursor ∨
          response.pageInfo.endCursor = some cursor →
        ∃ shown ∈ response.rows, shown.cursor = cursor := by
  obtain ⟨rows, hrows, hresponse⟩ := bind_eq_ok_iff.mp hshape
  cases hresponse
  constructor
  · intro shown hshown
    obtain ⟨row, -, hrow⟩ := (results_of_mapM hrows).2 shown hshown
    obtain ⟨cursor, hcursor, heq⟩ := bind_eq_ok_iff.mp hrow
    cases heq
    exact hcursor
  · rintro cursor (hstart | hend)
    · obtain ⟨shown, hhead, rfl⟩ := Option.map_eq_some_iff.mp hstart
      exact ⟨shown, List.mem_of_mem_head? hhead, rfl⟩
    · obtain ⟨shown, hlast, rfl⟩ := Option.map_eq_some_iff.mp hend
      exact ⟨shown, List.mem_of_getLast? hlast, rfl⟩

/-! ## From a cursor to its values -/

/-- In either direction the cursor of a row is read as the values that the row has under the
fields of the ordering. -/
theorem cursorValues?_of_cursor (hcursor : plan.cursor row = .ok cursor)
    (hlength : cursor.utf8ByteSize ≤ RowKey.maximumCursorLength)
    (hkeys : ∀ key ∈ plan.mapping.keyFields, ∃ order ∈ plan.statement.ordering, order.field = key)
    (hfloats : row.IsReadBack plan.statement.ordering) {values : List Scalar}
    (hvalues : (plan.statement.ordering.mapM fun order => row.scalarAt order.field) = .ok values)
    (direction : PageDirection) :
    cursorValues? cursor plan.entityCode plan.mapping.keyFields
      (direction.orient plan.statement.ordering) = some values := by
  obtain ⟨key, sort, hkey, hsort, hplaced⟩ := cursor_eq_ok_iff.mp hcursor
  obtain rfl : sort = values := Except.ok.inj (hsort.symm.trans hvalues)
  obtain ⟨hkeyLength, hkeyFields⟩ := results_of_mapM hkey
  obtain ⟨hsortLength, hsortFields⟩ := results_of_mapM hsort
  -- Every key value also stands under a field of the ordering, whose doubles are read back.
  have hread : RowKey.readBack? ⟨plan.entityCode, key, sort⟩ =
      some ⟨plan.entityCode, key, sort⟩ := by
    refine RowKey.readBack?_of_isReadBack fun x hx => ?_
    rcases List.mem_append.mp hx with hx | hx
    · obtain ⟨field, hfield, hscalar⟩ := hkeyFields _ hx
      obtain ⟨order, horder, rfl⟩ := hkeys field hfield
      exact hfloats order horder x hscalar
    · obtain ⟨order, horder, hscalar⟩ := hsortFields _ hx
      exact hfloats order horder x hscalar
  have horiented : (direction.orient plan.statement.ordering).length =
      plan.statement.ordering.length := by
    simpa using congrArg List.length (direction.map_field_orient plan.statement.ordering)
  exact cursorValues?_of_readBack? hplaced hlength hread hkeyLength
    (hsortLength.trans horiented.symm)

end Plan

/-! ## Planning at a cursor -/

theorem Context.activeCursor_facing (context : Context) (direction : PageDirection)
    {cursor : String} (hsome : cursor.isEmpty = false) :
    (context.facing direction (some cursor)).activeCursor = some cursor := by
  cases direction <;> simp [facing, activeCursor, PageRequest.activeCursor, hsome]

namespace Planner

variable {planner : Planner} {applicationCode entityCode : String} {context : Context}
variable {plan : Plan} {cursor : String}

/-- A page is one of a list whose first page can be planned as well, and differs from the
first page in its direction and the condition of its cursor. -/
theorem exists_first (hplan : (planner.plan applicationCode entityCode context).outcome = .ok plan)
    (hunamended : planner.amendments.find? (context.resolvedListCode entityCode) = none) :
    ∃ first conditions,
      (planner.plan applicationCode entityCode (context.facing .forward none)).outcome =
        .ok first ∧
      plan = first.turned context.page.direction conditions := by
  obtain ⟨hfault, mapping, draft, statement, hmapping, hdraft, hpage, rfl⟩ :=
    plan_eq_ok_iff.mp hplan
  rw [apply_of_unamended hunamended] at hpage
  obtain ⟨ordering, conditions, htotal, -, rfl⟩ := Select.page_eq_ok_iff.mp hpage
  refine ⟨⟨entityCode, context.resolvedListCode entityCode, mapping,
    draft.statement.cut [] ordering context.page.limit,
    planner.amendments.contains (context.resolvedListCode entityCode), draft.appliedFilters,
    draft.searchTerm⟩, conditions, ?_, ?_⟩
  · refine plan_eq_ok_iff.mpr ⟨hfault, mapping, draft, _, hmapping, hdraft, ?_, rfl⟩
    show ((planner.amendments.apply (context.resolvedListCode entityCode) draft.statement).page
      _ entityCode mapping.keyFields).outcome = _
    rw [apply_of_unamended hunamended]
    exact Select.page_eq_ok_iff.mpr ⟨ordering, [], htotal, rfl, rfl⟩
  · simp [Plan.turned, Select.cut]

/-- Planning at a cursor that is read adds the condition to lie beyond its values. -/
theorem plan_of_cursorValues? {first : Plan} {values : List Scalar} (direction : PageDirection)
    (hfirst : (planner.plan applicationCode entityCode (context.facing .forward none)).outcome =
      .ok first)
    (hunamended : planner.amendments.find? (context.resolvedListCode entityCode) = none)
    (hsome : cursor.isEmpty = false)
    (hvalues : cursorValues? cursor entityCode first.mapping.keyFields
      (direction.orient first.statement.ordering) = some values) :
    (planner.plan applicationCode entityCode (context.facing direction (some cursor))).outcome =
      .ok (first.turned direction
        [Order.strictlyAfter (direction.orient first.statement.ordering) values]) := by
  have hconditions : (context.facing direction (some cursor)).cursorConditions? entityCode
      first.mapping.keyFields (direction.orient first.statement.ordering) =
        some [Order.strictlyAfter (direction.orient first.statement.ordering) values] := by
    simp [Context.cursorConditions?, context.activeCursor_facing direction hsome, hvalues]
  have hlimit : (context.facing direction (some cursor)).page.limit =
      (context.facing .forward none).page.limit := by
    cases direction <;> rfl
  cases direction with
  | forward => exact plan_page hfirst hunamended rfl rfl hlimit hconditions
  | backward => exact plan_page hfirst hunamended rfl rfl hlimit hconditions

/-- Planning at a cursor that is not read fails with what is wrong with the cursor. -/
theorem plan_of_cursorFault {first : Plan} {fault : CursorFault} (direction : PageDirection)
    (hfirst : (planner.plan applicationCode entityCode (context.facing .forward none)).outcome =
      .ok first)
    (hunamended : planner.amendments.find? (context.resolvedListCode entityCode) = none)
    (hsome : cursor.isEmpty = false) (hfault : RowKey.ofCursor? cursor = .error fault) :
    (planner.plan applicationCode entityCode (context.facing direction (some cursor))).outcome =
      .error (.rejected fault.rejection) := by
  obtain ⟨draft, ordering, hacceptable, hmapping, hdraft, htotal, -⟩ :=
    plan_eq_cut hfirst hunamended rfl rfl
  have hactive := context.activeCursor_facing direction hsome
  have hpage : (draft.statement.page (context.facing direction (some cursor)) entityCode
      first.mapping.keyFields).outcome = .error (.rejected fault.rejection) := by
    simp [Select.page, htotal, hactive, cursorCondition, hfault, Except.bind]
  have hsame : (context.facing direction (some cursor)).fault? planner.settings.maximumLimit =
      none ∧ first.mapping.draft (context.facing direction (some cursor)) =
        first.mapping.draft (context.facing .forward none) ∧
      (context.facing direction (some cursor)).resolvedListCode entityCode =
        context.resolvedListCode entityCode := by
    cases direction <;> exact ⟨hacceptable, rfl, rfl⟩
  unfold plan
  simp [hsame.1, hsame.2.1, hsame.2.2, hmapping, hdraft, apply_of_unamended hunamended, hpage,
    Except.bind]

end Planner

/-! ## The shelf in the order of a field -/

namespace Shelf

/-- A request for two items in the order of a field. -/
def sortedBy (field : String) : Context :=
  { request with sorts := [SortKey.ascending field] }

/-- A row with an identifier and a value in a field. -/
def row (field : String) (value : Json) (id : String) : Row :=
  [("id", .text id), (field, value)]

/-- What is known of a page of one item in the order of a field. -/
structure Page (field : String) (value : Json) (scalar : Scalar) (plan : Plan)
    (response : Response) (cursor : String) : Prop where
  planned : (planner.plan "shop" "item" (sortedBy field)).outcome = .ok plan
  keyFields : plan.mapping.keyFields = ["id"]
  orderFields : plan.statement.ordering.map Order.field = [field, "id"]
  shaped : plan.shape (sortedBy field) [row field value "7"] = .ok response
  rows : response.rows = [⟨cursor, row field value "7"⟩]
  last : response.pageInfo.endCursor = some cursor
  placed : RowKey.cursor? ⟨"item", [.text "7"], [scalar, .text "7"]⟩ = .ok cursor

section

variable {field : String} {value : Json} {scalar : Scalar}

/-- The page is the first one of its list. -/
theorem Page.first {plan : Plan} {response : Response} {cursor : String}
    (hpage : Page field value scalar plan response cursor) :
    (planner.plan "shop" "item" ((sortedBy field).facing .forward none)).outcome = .ok plan :=
  hpage.planned

theorem scalarAt_row (hfield : field ≠ "id") (hscalar : Scalar.ofJson? value = some scalar) :
    (row field value "7").scalarAt field = .ok scalar := by
  have hmember : Json.member? field (row field value "7") = some value := by
    unfold Json.member? row
    rw [List.lookup_cons, beq_false_of_ne hfield, List.lookup_cons_self]
  exact Row.scalarAt_eq_ok_iff.mpr ⟨value, hmember, hscalar⟩

theorem mapM_scalarAt_row {plan : Plan} (hfield : field ≠ "id")
    (hscalar : Scalar.ofJson? value = some scalar)
    (hfields : plan.statement.ordering.map Order.field = [field, "id"]) :
    (plan.statement.ordering.mapM fun order => (row field value "7").scalarAt order.field) =
      .ok [scalar, .text "7"] := by
  have hid : (row field value "7").scalarAt "id" = .ok (.text "7") := rfl
  rw [Row.mapM_scalarAt_field, hfields, List.mapM_cons, scalarAt_row hfield hscalar,
    List.mapM_cons, hid]
  rfl

/-- A page can be made of any item with a scalar that a cursor can hold. -/
theorem exists_page (hfield : field = "name" ∨ field = "price")
    (hscalar : Scalar.ofJson? value = some scalar) (hfinite : scalar.isNonFinite = false) :
    ∃ plan response cursor, Page field value scalar plan response cursor := by
  -- The plan of the list does not depend on the item.
  have hcheck : ((planner.plan "shop" "item" (sortedBy field)).outcome.toOption.any fun plan =>
      decide (plan.entityCode = "item" ∧ plan.mapping.keyFields = ["id"] ∧
        plan.statement.ordering.map Order.field = [field, "id"])) = true := by
    rcases hfield with rfl | rfl <;> decide +kernel
  cases hplan : (planner.plan "shop" "item" (sortedBy field)).outcome with
  | error failure => simp [hplan, Except.toOption] at hcheck
  | ok plan =>
      simp only [hplan, Except.toOption, Option.any_some, decide_eq_true_eq] at hcheck
      obtain ⟨hentity, hkeys, hfields⟩ := hcheck
      have htext : Scalar.isNonFinite (.text "7") = false := rfl
      -- Neither value is an infinity or a NaN, so the item has a cursor.
      obtain ⟨cursor, hplaced⟩ : ∃ cursor,
          RowKey.cursor? ⟨"item", [.text "7"], [scalar, .text "7"]⟩ = .ok cursor :=
        ⟨_, RowKey.cursor?_eq_ok_iff.mpr ⟨by simp [hfinite, htext], rfl⟩⟩
      have hcursor : plan.cursor (row field value "7") = .ok cursor := by
        refine Plan.cursor_eq_ok_iff.mpr ⟨[.text "7"], [scalar, .text "7"], ?_, ?_, ?_⟩
        · rw [hkeys]
          rfl
        · exact mapM_scalarAt_row (by rcases hfield with rfl | rfl <;> decide) hscalar hfields
        · rw [hentity]
          exact hplaced
      have hrows : (Plan.pageRows (sortedBy field) [row field value "7"]).mapM plan.responseRow =
          .ok [⟨cursor, row field value "7"⟩] := by
        show [row field value "7"].mapM plan.responseRow = _
        rw [List.mapM_cons, Plan.responseRow, hcursor]
        rfl
      obtain ⟨response, hshape, hshown, hlast⟩ : ∃ response,
          plan.shape (sortedBy field) [row field value "7"] = .ok response ∧
          response.rows = [⟨cursor, row field value "7"⟩] ∧
          response.pageInfo.endCursor = some cursor := by
        unfold Plan.shape
        rw [hrows]
        exact ⟨_, rfl, rfl, rfl⟩
      exact ⟨plan, response, cursor, hplan, hkeys, hfields, hshape, hshown, hlast, hplaced⟩

/-- Whether from the end of a page of one item the list is continued right after the item. -/
def Continued (field : String) (value : Json) (scalar : Scalar) : Prop :=
  ∀ plan response cursor, Page field value scalar plan response cursor →
    ∃ next,
      (planner.plan "shop" "item" ((sortedBy field).facing .forward (some cursor))).outcome =
        .ok next ∧
      next.statement.conditions = plan.statement.conditions ++
        [Order.strictlyAfter plan.statement.ordering [scalar, .text "7"]]

theorem not_continued_of_long {text : String}
    (hlong : RowKey.maximumCursorLength < text.toList.length) :
    ¬ Continued "name" (.text text) (.text text) := by
  intro hcontinued
  obtain ⟨plan, response, cursor, hpage⟩ : ∃ plan response cursor,
      Page "name" (.text text) (.text text) plan response cursor :=
    exists_page (.inl rfl) rfl rfl
  have hlength : RowKey.maximumCursorLength < cursor.utf8ByteSize :=
    hlong.trans_le (RowKey.length_le_of_cursor? hpage.placed
      (List.mem_append_right _ List.mem_cons_self))
  have hrejected := Planner.plan_of_cursorFault .forward hpage.first rfl
    (RowKey.isEmpty_of_cursor? hpage.placed) (RowKey.ofCursor?_of_long hpage.placed hlength)
  obtain ⟨next, hnext, -⟩ := hcontinued plan response cursor hpage
  rw [hnext] at hrejected
  cases hrejected

/-- The numeral 0.10027777777777777 is read as the double below. -/
private theorem readBack?_shifted :
    RowKey.readBack? ⟨"item", [.text "7"], [.float ⟨0x3fb9abcdf0123456⟩, .text "7"]⟩ =
      some ⟨"item", [.text "7"], [.float ⟨0x3fb9abcdf0123455⟩, .text "7"]⟩ := by
  have hnumeral : (Binary64.mk 0x3fb9abcdf0123456).numeral.toNumber? =
      some (.float ⟨0x3fb9abcdf0123455⟩ rfl) := by
    decide +kernel
  have hfloat : Scalar.readBack? (.float ⟨0x3fb9abcdf0123456⟩) =
      some (.float ⟨0x3fb9abcdf0123455⟩) := by
    rw [Scalar.readBack?_of_isFinite rfl, hnumeral]
    rfl
  have htext : Scalar.readBack? (.text "7") = some (.text "7") :=
    Scalar.readBack?_of_ne_float (by simp)
  simp [RowKey.readBack?, hfloat, htext]

/-- The list goes on at the double below. -/
theorem not_continued_of_shifted :
    ¬ Continued "price" (.number (.float ⟨0x3fb9abcdf0123456⟩ rfl))
      (.float ⟨0x3fb9abcdf0123456⟩) := by
  intro hcontinued
  obtain ⟨plan, response, cursor, hpage⟩ : ∃ plan response cursor,
      Page "price" (.number (.float ⟨0x3fb9abcdf0123456⟩ rfl)) (.float ⟨0x3fb9abcdf0123456⟩)
        plan response cursor :=
    exists_page (.inr rfl) rfl rfl
  have hlength : cursor.utf8ByteSize ≤ RowKey.maximumCursorLength := by
    obtain ⟨-, rfl⟩ := RowKey.cursor?_eq_ok_iff.mp hpage.placed
    decide +kernel
  have hvalues : cursorValues? cursor "item" plan.mapping.keyFields plan.statement.ordering =
      some [.float ⟨0x3fb9abcdf0123455⟩, .text "7"] := by
    refine Plan.cursorValues?_of_readBack? hpage.placed hlength readBack?_shifted ?_ ?_
    · rw [hpage.keyFields]
      rfl
    · rw [← List.length_map Order.field, hpage.orderFields]
      rfl
  have hplanned := Planner.plan_of_cursorValues? .forward hpage.first rfl
    (RowKey.isEmpty_of_cursor? hpage.placed) hvalues
  obtain ⟨next, hnext, hconditions⟩ := hcontinued plan response cursor hpage
  obtain rfl := Except.ok.inj (hplanned.symm.trans hnext)
  have hsame : Order.strictlyAfter plan.statement.ordering
        [.float ⟨0x3fb9abcdf0123455⟩, .text "7"] =
      Order.strictlyAfter plan.statement.ordering
        [.float ⟨0x3fb9abcdf0123456⟩, .text "7"] :=
    List.head_eq_of_cons_eq (List.append_cancel_left hconditions)
  have hother : ((planner.plan "shop" "item" (sortedBy "price")).outcome.toOption.all fun plan =>
      Order.strictlyAfter plan.statement.ordering [.float ⟨0x3fb9abcdf0123455⟩, .text "7"] !=
        Order.strictlyAfter plan.statement.ordering
          [.float ⟨0x3fb9abcdf0123456⟩, .text "7"]) = true := by
    decide +kernel
  simp [hpage.planned, Except.toOption, hsame] at hother

end

end Shelf

namespace Planner

variable {planner : Planner} {applicationCode entityCode : String} {context : Context}
variable {plan : Plan}

/-- A page hands out the cursors of its rows.  Planning the list again at one of them, in
either direction, adds to the first page's plan the condition to lie beyond the values that
the row has under the fields of the ordering, if the doubles among its values survive their
JSON texts and the cursor is not too long; a cursor that is too long is rejected. -/
theorem plan_at_row (hplan : (planner.plan applicationCode entityCode context).outcome = .ok plan)
    (hunamended : planner.amendments.find? (context.resolvedListCode entityCode) = none)
    {fetched : List Row} {response : Response}
    (hshape : plan.shape context fetched = .ok response) :
    (∀ cursor, response.pageInfo.startCursor = some cursor ∨
        response.pageInfo.endCursor = some cursor →
      ∃ shown ∈ response.rows, shown.cursor = cursor) ∧
    ∃ first conditions,
      (planner.plan applicationCode entityCode (context.facing .forward none)).outcome =
        .ok first ∧
      plan = first.turned context.page.direction conditions ∧
      ∀ shown ∈ response.rows, ∃ values,
        (first.statement.ordering.mapM fun order => shown.values.scalarAt order.field) =
          .ok values ∧
        ∀ direction,
          (shown.cursor.utf8ByteSize ≤ RowKey.maximumCursorLength →
            shown.values.IsReadBack first.statement.ordering →
            (planner.plan applicationCode entityCode
                (context.facing direction (some shown.cursor))).outcome =
              .ok (first.turned direction
                [Order.strictlyAfter (direction.orient first.statement.ordering) values])) ∧
          (RowKey.maximumCursorLength < shown.cursor.utf8ByteSize →
            (planner.plan applicationCode entityCode
                (context.facing direction (some shown.cursor))).outcome =
              .error (.rejected (CursorFault.tooLong shown.cursor.utf8ByteSize
                RowKey.maximumCursorLength).rejection)) := by
  obtain ⟨hrows, hends⟩ := Plan.cursors_of_shape hshape
  obtain ⟨first, conditions, hfirst, hturned⟩ := exists_first hplan hunamended
  obtain ⟨draft, ordering, -, -, -, htotal, hcut⟩ := plan_eq_cut hfirst hunamended rfl rfl
  have hentity : first.entityCode = entityCode := by rw [hcut]
  have hordering : first.statement.ordering = ordering := by rw [hcut]; rfl
  have hkeys := (Select.totalOrdering_eq_ok htotal).2
  rw [← hordering] at hkeys
  have hsame : plan.cursor = first.cursor := by
    rw [hturned]
    exact Plan.cursor_congr rfl rfl (context.page.direction.map_field_orient _)
  refine ⟨hends, first, conditions, hfirst, hturned, fun shown hshown => ?_⟩
  have hcursor : first.cursor shown.values = .ok shown.cursor := hsame ▸ hrows shown hshown
  obtain ⟨key, values, -, hvalues, hplaced⟩ := Plan.cursor_eq_ok_iff.mp hcursor
  have hsome := RowKey.isEmpty_of_cursor? hplaced
  refine ⟨values, hvalues, fun direction => ⟨fun hlength hfloats => ?_, fun hlong => ?_⟩⟩
  · have hread := Plan.cursorValues?_of_cursor hcursor hlength hkeys hfloats hvalues direction
    rw [hentity] at hread
    exact plan_of_cursorValues? direction hfirst hunamended hsome hread
  · exact plan_of_cursorFault direction hfirst hunamended hsome
      (RowKey.ofCursor?_of_long hplaced hlong)

/-- From the lamp on the shelf the list is continued in either direction. -/
theorem plan_at_row_shelf :
    ∃ plan response cursor,
      Shelf.Page "name" (.text "lamp") (.text "lamp") plan response cursor ∧
      ∀ direction,
        (Shelf.planner.plan "shop" "item"
            ((Shelf.sortedBy "name").facing direction (some cursor))).outcome =
          .ok (plan.turned direction [Order.strictlyAfter
            (direction.orient plan.statement.ordering) [.text "lamp", .text "7"]]) := by
  obtain ⟨plan, response, cursor, hpage⟩ : ∃ plan response cursor,
      Shelf.Page "name" (.text "lamp") (.text "lamp") plan response cursor :=
    Shelf.exists_page (.inl rfl) rfl rfl
  obtain ⟨-, first, conditions, hfirst, -, hrows⟩ := plan_at_row hpage.planned rfl hpage.shaped
  obtain rfl : plan = first := Except.ok.inj (hpage.first.symm.trans hfirst)
  obtain ⟨values, hvalues, hcontinued⟩ :=
    hrows ⟨cursor, Shelf.row "name" (.text "lamp") "7"⟩ (by simp [hpage.rows])
  obtain rfl : values = [.text "lamp", .text "7"] := Except.ok.inj (hvalues.symm.trans
    (Shelf.mapM_scalarAt_row (by decide) rfl hpage.orderFields))
  have hlength : cursor.utf8ByteSize ≤ RowKey.maximumCursorLength := by
    obtain ⟨-, rfl⟩ := RowKey.cursor?_eq_ok_iff.mp hpage.placed
    decide +kernel
  have hfloats : (Shelf.row "name" (.text "lamp") "7").IsReadBack plan.statement.ordering := by
    intro order horder x hx
    have hfield := List.mem_map_of_mem (f := Order.field) horder
    rw [hpage.orderFields] at hfield
    have hnames : order.field = "name" ∨ order.field = "id" := by simpa using hfield
    rcases hnames with hname | hname <;> rw [hname] at hx <;> cases hx
  exact ⟨plan, response, cursor, hpage, fun direction =>
    (hcontinued direction).1 hlength hfloats⟩

/-- Without a bound on the texts of a row its cursor can be too long to be accepted, and
without a condition on its doubles the list can be continued at another place. -/
theorem not_continued_shelf :
    ¬ Shelf.Continued "name" (.text (String.ofList (List.replicate 4097 'x')))
        (.text (String.ofList (List.replicate 4097 'x'))) ∧
      ¬ Shelf.Continued "price" (.number (.float ⟨0x3fb9abcdf0123456⟩ rfl))
        (.float ⟨0x3fb9abcdf0123456⟩) := by
  refine ⟨Shelf.not_continued_of_long ?_, Shelf.not_continued_of_shifted⟩
  rw [String.toList_ofList, List.length_replicate]
  decide

end Planner

end ListQuery
