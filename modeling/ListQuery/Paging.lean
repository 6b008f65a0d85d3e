import ListQuery.Cursor
import ListQuery.Event
import ListQuery.Keyset

/-!
# Cutting a list into pages

A page starts strictly after the row that its cursor stands for.  For this to
single out one place the ordering has to tell any two rows apart, so the key
fields are appended to it; and to show whether there is a further page, one row
more than asked for is selected.

A page that precedes its cursor is a page of the reversed ordering; the rows are
turned round again once they are there.
-/

namespace ListQuery

open Sql

namespace Sql.Select

/-- The failure of a list whose key is not selected. -/
def missingKey (field : String) : Failure :=
  .execution ("key field " ++ field ++ " is not part of the projection")

/-- The ordering with the key fields that it lacks at its end. -/
def totalOrdering (statement : Select) (ordering : List Order) :
    List String → Except Failure (List Order)
  | [] => .ok ordering
  | field :: rest =>
    if ordering.any (·.field == field) then totalOrdering statement ordering rest
    else
      match statement.column? field with
      | none => .error (missingKey field)
      | some column =>
        totalOrdering statement
          (ordering ++ [⟨field, column.expression, .ascending, none, none⟩]) rest

end Sql.Select

/-! ## The values that a cursor gives for an ordering -/

/-- What is said about a cursor of another list. -/
def cursorMismatch : String := "cursor does not match list definition"

/-- Whether an ordering is by the key fields and nothing else. -/
def orderedByKey (ordering : List Order) (keyFields : List String) : Bool :=
  ordering.map Order.field == keyFields

/-- The values at which a list with this ordering continues.  A place without values
for the ordering serves if the list is ordered by its key. -/
def RowKey.valuesFor? (place : RowKey) (entityCode : String) (keyFields : List String)
    (ordering : List Order) : Option (List Scalar) :=
  if place.entity ≠ entityCode ∨ place.key.length ≠ keyFields.length then none
  else if place.sort.length = ordering.length then some place.sort
  else if place.sort.isEmpty && orderedByKey ordering keyFields then some place.key
  else none

/-- The condition that a row comes after the place of a cursor. -/
def cursorCondition (cursor entityCode : String) (keyFields : List String) (ordering : List Order) :
    Logged Fragment :=
  match RowKey.ofCursor? cursor with
  | .error fault => do
    Logged.report (.cursorRejected fault.message)
    Logged.reject fault.rejection
  | .ok place =>
    match place.valuesFor? entityCode keyFields ordering with
    | some values => return Order.strictlyAfter ordering values
    | none => do
      Logged.report (.cursorRejected cursorMismatch)
      Logged.reject (.ofField "pagination" cursorMismatch)

/-! ## The page's statement -/

/-- The number of rows that a page of a given size selects: one more, if there is a
greater number. -/
def fetchLimit (limit : UInt32) : UInt32 :=
  if limit.toNat + 1 < 0x100000000 then limit + 1 else limit

/-- The statement that selects the page of a context. -/
def Sql.Select.page (statement : Select) (context : Context) (entityCode : String)
    (keyFields : List String) : Logged Select :=
  match statement.totalOrdering statement.ordering keyFields with
  | .error failure => Logged.fail failure
  | .ok ordering => do
    -- Before a cursor is what comes after it in the reversed ordering.
    let ordering := match context.page.direction with
      | .forward => ordering
      | .backward => ordering.map Order.reversed
    let ordered := { statement with ordering := ordering }
    let limited (statement : Select) : Select :=
      { statement with limit := some (fetchLimit context.page.limit) }
    match context.activeCursor with
    | none => return limited ordered
    | some cursor =>
      let condition ← cursorCondition cursor entityCode keyFields ordering
      return limited (ordered.withCondition condition)

end ListQuery
