import ListQuery.Sql.Select

/-!
# Amending a statement

A list may have an amendment of its own, which is applied to the generated
statement before it is cut into pages.  An amendment is any function on
statements; an `Edit` is one of the small steps that such a function is commonly
made of.
-/

namespace ListQuery.Sql

/-- A change to a statement. -/
inductive Edit where
  | addCondition (condition : Fragment)
  | addColumn (column : Column)
  | addJoin (join : Join)
  | addOrder (order : Order)
  | setLimit (limit : Option UInt32)
  | setSource (source : Table)
  | clearConditions
  | clearColumns
  | clearOrdering
  | reverseConditions
  | reverseOrdering
  /-- Drops the condition at a position, if there is one. -/
  | dropCondition (position : Nat)
  /-- Drops every column with a name. -/
  | dropColumn (aliasName : String)
deriving DecidableEq

/-- The statement after a change. -/
def Edit.apply (statement : Select) : Edit → Select
  | .addCondition condition => statement.withCondition condition
  | .addColumn column => { statement with columns := statement.columns ++ [column] }
  | .addJoin join => { statement with joins := statement.joins ++ [join] }
  | .addOrder order => { statement with ordering := statement.ordering ++ [order] }
  | .setLimit limit => { statement with limit := limit }
  | .setSource source => { statement with source := source }
  | .clearConditions => { statement with conditions := [] }
  | .clearColumns => { statement with columns := [] }
  | .clearOrdering => { statement with ordering := [] }
  | .reverseConditions => { statement with conditions := statement.conditions.reverse }
  | .reverseOrdering => { statement with ordering := statement.ordering.reverse }
  | .dropCondition position =>
    { statement with conditions := statement.conditions.eraseIdx position }
  | .dropColumn aliasName =>
    { statement with columns := statement.columns.filter (·.aliasName != aliasName) }

/-- A function on statements. -/
abbrev Amendment := Select → Select

/-- The amendment that makes the given changes in turn. -/
def Amendment.ofEdits (edits : List Edit) : Amendment :=
  fun statement => edits.foldl Edit.apply statement

/-- The amendments in force, at most one for a list code. -/
structure Amendments where
  entries : List (String × Amendment)

namespace Amendments

/-- No amendments. -/
def empty : Amendments := ⟨[]⟩

/-- The amendment of a list. -/
def find? (amendments : Amendments) (listCode : String) : Option Amendment :=
  amendments.entries.lookup listCode

/-- Whether a list has an amendment. -/
def contains (amendments : Amendments) (listCode : String) : Bool :=
  (amendments.find? listCode).isSome

/-- The amendments with one set for a list, in place of any that it had. -/
def register (amendments : Amendments) (listCode : String) (amendment : Amendment) : Amendments :=
  ⟨(listCode, amendment) :: amendments.entries.filter (·.1 != listCode)⟩

/-- How many lists have an amendment. -/
def size (amendments : Amendments) : Nat :=
  amendments.entries.length

/-- The statement after the amendment of a list, if it has one. -/
def apply (amendments : Amendments) (listCode : String) (statement : Select) : Select :=
  match amendments.find? listCode with
  | some amendment => amendment statement
  | none => statement

end Amendments

end ListQuery.Sql
