import ListQuery.Catalog
import ListQuery.Draft
import ListQuery.Mapping.Derivation
import ListQuery.Paging
import ListQuery.Settings
import ListQuery.Sql.Amendment

/-!
# Planning a list

A plan is everything there is to know before a statement is sent: where the
entity lives, the statement of the page, and what of the request took effect.
Planning needs no database.
-/

namespace ListQuery

open Sql

/-- What a caller named that does not exist. -/
inductive Missing where
  | application (code : String)
  | entity (code : String)
deriving DecidableEq

/-- The failure of a request that names something that does not exist. -/
def Missing.failure : Missing → Failure
  | .application code => .notFound ("Application " ++ code ++ " not found")
  | .entity code => .notFound ("Entity " ++ code ++ " not found")

/-- The mapping of an entity of an application. -/
def Catalog.mapping (catalog : Catalog) (applicationCode entityCode : String) :
    Except Missing Mapping :=
  match catalog.resolve? applicationCode with
  | none => .error (.application applicationCode)
  | some application =>
    match application.entity? entityCode with
    | none => .error (.entity entityCode)
    | some entity => .ok entity.mapping

/-- A list that is ready to be run. -/
structure Plan where
  entityCode : String
  listCode : String
  mapping : Mapping
  statement : Select
  /-- Whether the list's own amendment was applied. -/
  customQueryApplied : Bool
  appliedFilters : Nat
  searchTerm : Option String

/-- The query that is sent for a plan. -/
def Plan.query (plan : Plan) : Query :=
  plan.statement.query

/-- What plans are made from, besides requests. -/
structure Planner where
  catalog : Catalog
  amendments : Amendments
  settings : Settings

/-- The plan for an entity's list in a context. -/
def Planner.plan (planner : Planner) (applicationCode entityCode : String) (context : Context) :
    Logged Plan := do
  if let some fault := context.fault? planner.settings.maximumLimit then
    Logged.reject fault.rejection
  match planner.catalog.mapping applicationCode entityCode with
  | .error missing => Logged.fail missing.failure
  | .ok mapping =>
    let draft ← mapping.draft context
    let listCode := context.resolvedListCode entityCode
    let amended := planner.amendments.apply listCode draft.statement
    let statement ← amended.page context entityCode mapping.keyFields
    return {
      entityCode := entityCode
      listCode := listCode
      mapping := mapping
      statement := statement
      customQueryApplied := planner.amendments.contains listCode
      appliedFilters := draft.appliedFilters
      searchTerm := draft.searchTerm }

end ListQuery
