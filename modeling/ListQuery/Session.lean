import ListQuery.Page
import ListQuery.Request

/-!
# Sessions with a database

An engine plans a list, sends its statement over a connection and shapes the rows
that come back.  The database is kept in memory here: results are queued up and
handed out one for each statement, and time passes only as far as a delay is set.

A session is a sequence of steps with one engine.  Each step tells its result, the
statements it sent and the events it reported; the connections that were taken
and given back are counted over the whole session.
-/

namespace ListQuery

open Sql

/-! ## The database -/

/-- A database in memory with the connections to it. -/
structure Pool where
  /-- The rows, or the reason for a failure, that the coming statements get. -/
  results : List (Except String (List Row))
  /-- The reasons for which connections are refused from now on. -/
  refusals : List String
  /-- How many milliseconds a statement takes. -/
  delay : Nat
  /-- How many connections were taken. -/
  acquired : Nat
  /-- How many connections were given back. -/
  released : Nat
  /-- The statements that were sent, in their order. -/
  sent : List Query

namespace Pool

/-- A database that answers at once and without rows. -/
def empty : Pool := ⟨[], [], 0, 0, 0, []⟩

/-- The database after a statement was sent, and what it answers. -/
def send (pool : Pool) (query : Query) : Pool × Except String (List Row) :=
  match pool.results with
  | [] => ({ pool with sent := pool.sent ++ [query] }, .ok [])
  | result :: rest => ({ pool with sent := pool.sent ++ [query], results := rest }, result)

/-- The failure of a statement that took too long. -/
def timedOut (limit : UInt64) : Failure :=
  .execution ("statement timed out after " ++ Text.natText limit.toNat ++ "ms")

/-- The answer, unless it came after the time that a statement may take. -/
def inTime (pool : Pool) (timeout : Option UInt64) (answer : Except String (List Row)) :
    Except Failure (List Row) :=
  match timeout with
  | some limit =>
    if limit.toNat < pool.delay then .error (timedOut limit) else answer.mapError .execution
  | none => answer.mapError .execution

/-- Runs a query over a connection, which is given back in any case. -/
def run (pool : Pool) (timeout : Option UInt64) (query : Query) :
    Pool × Except Failure (List Row) :=
  match pool.refusals with
  -- A connection that is refused counts neither as taken nor as given back.
  | reason :: rest => ({ pool with refusals := rest }, .error (.execution reason))
  | [] =>
    let (after, answer) := { pool with acquired := pool.acquired + 1 }.send query
    ({ after with released := after.released + 1 }, after.inTime timeout answer)

end Pool

/-! ## The engine -/

/-- A planner with a database. -/
structure Engine where
  planner : Planner
  pool : Pool

namespace Engine

/-- The events of a query that was run. -/
def queryEvents (settings : Settings) (query : Query) (outcome : Except Failure (List Row)) :
    List Event :=
  .query query.text query.parameters.length :: match outcome with
    | .ok _ => []
    | .error failure => [.queryFailed (settings.reported query.text) failure.display]

/-- Plans a list, runs its statement and shapes the rows. -/
def execute (engine : Engine) (applicationCode entityCode : String) (context : Context) :
    Engine × Logged Response :=
  let planned := engine.planner.plan applicationCode entityCode context
  match planned.outcome with
  | .error failure => (engine, ⟨planned.events, .error failure⟩)
  | .ok plan =>
    let (pool, rows) := engine.pool.run engine.planner.settings.timeout plan.query
    let events := planned.events ++ queryEvents engine.planner.settings plan.query rows
    ({ engine with pool := pool }, ⟨events, rows.bind (plan.shape context)⟩)

/-- The request that a text is, for this engine. -/
def parse (engine : Engine) (body : String) : Except Failure Request :=
  (Request.ofText body engine.planner.settings.defaultLimit).mapError fun fault =>
    .rejected fault.rejection

/-- The context that is given to this engine. -/
def context (engine : Engine) (given : Option Json) : Except Failure Context :=
  (Context.ofGiven given engine.planner.settings.defaultLimit).mapError fun fault =>
    .rejected fault.rejection

end Engine

/-- Where a list is entered. -/
inductive Entry where
  /-- Where the context says. -/
  | given
  /-- At a cursor in place of the one that counts, or at the beginning if there is
  none. -/
  | cursor (cursor : Option String)

/-- The context of a list that is entered in some place, in its own direction. -/
def Context.enteredAt (context : Context) : Entry → Context
  | .given => context
  | .cursor cursor =>
    match context.page.direction with
    | .forward => { context with page := { context.page with after := cursor } }
    | .backward => { context with page := { context.page with before := cursor } }

/-! ## Steps -/

/-- A step of a session. -/
inductive Step where
  /-- Queues up rows for a statement. -/
  | respond (rows : List Row)
  /-- Queues up a failure for a statement. -/
  | fail (reason : String)
  /-- Refuses a connection. -/
  | refuse (reason : String)
  /-- Sets how many milliseconds a statement takes. -/
  | delay (milliseconds : Nat)
  /-- Replaces the catalog. -/
  | reload (catalog : Except DefinitionError Catalog)
  | plan (applicationCode entityCode : String) (context : Option Json)
  | parse (body : String)
  | request (body entityCode : String)
  | execute (applicationCode entityCode : String) (context : Option Json) (entry : Entry)
  /-- Plans a list and shapes the given rows, without a statement. -/
  | shape (applicationCode entityCode : String) (context : Option Json) (entry : Entry)
    (rows : List Row)

/-- What a step comes to. -/
inductive StepResult where
  | done
  | planned (plan : Plan)
  | parsed (request : Request)
  | answered (response : Response)
  | failed (failure : Failure)
  /-- The catalog could not be replaced. -/
  | notReloaded (error : DefinitionError)

/-- A step that was taken. -/
structure StepReport where
  result : StepResult
  events : List Event
  /-- The statements that were sent during the step. -/
  sent : List Query

namespace Engine

/-- The result of a computation that may fail. -/
def resultOf {α : Type} (done : α → StepResult) : Except Failure α → StepResult
  | .ok value => done value
  | .error failure => .failed failure

/-- Executes a list and gives its result as that of a step. -/
def executeStep (engine : Engine) (applicationCode entityCode : String) (context : Context) :
    Engine × StepResult × List Event :=
  let (after, answer) := engine.execute applicationCode entityCode context
  (after, resultOf .answered answer.outcome, answer.events)

/-- Plans a list and shapes the given rows. -/
def shapeRows (engine : Engine) (applicationCode entityCode : String) (context : Context)
    (rows : List Row) : StepResult × List Event :=
  let planned := engine.planner.plan applicationCode entityCode context
  (resultOf .answered (planned.outcome.bind fun plan => plan.shape context rows), planned.events)

/-- Takes a step, without regard to the statements it sends. -/
def stepResult (engine : Engine) : Step → Engine × StepResult × List Event
  | .respond rows =>
    ({ engine with pool := { engine.pool with results := engine.pool.results ++ [.ok rows] } },
      .done, [])
  | .fail reason =>
    ({ engine with pool := { engine.pool with results := engine.pool.results ++ [.error reason] } },
      .done, [])
  | .refuse reason =>
    ({ engine with pool := { engine.pool with refusals := engine.pool.refusals ++ [reason] } },
      .done, [])
  | .delay milliseconds =>
    ({ engine with pool := { engine.pool with delay := milliseconds } }, .done, [])
  | .reload (.ok catalog) =>
    ({ engine with planner := { engine.planner with catalog := catalog } }, .done, [])
  | .reload (.error error) => (engine, .notReloaded error, [])
  | .plan applicationCode entityCode given =>
    match engine.context given with
    | .error failure => (engine, .failed failure, [])
    | .ok context =>
      let planned := engine.planner.plan applicationCode entityCode context
      (engine, resultOf .planned planned.outcome, planned.events)
  | .parse body => (engine, resultOf .parsed (engine.parse body), [])
  | .request body entityCode =>
    match engine.parse body with
    | .error failure => (engine, .failed failure, [])
    | .ok request => engine.executeStep request.applicationCode entityCode request.context
  | .execute applicationCode entityCode given entry =>
    match engine.context given with
    | .error failure => (engine, .failed failure, [])
    | .ok context => engine.executeStep applicationCode entityCode (context.enteredAt entry)
  | .shape applicationCode entityCode given entry rows =>
    match engine.context given with
    | .error failure => (engine, .failed failure, [])
    | .ok context =>
      (engine, engine.shapeRows applicationCode entityCode (context.enteredAt entry) rows)

/-- Takes a step. -/
def step (engine : Engine) (step : Step) : Engine × StepReport :=
  let (after, result, events) := engine.stepResult step
  (after, ⟨result, events, after.pool.sent.drop engine.pool.sent.length⟩)

/-- Takes several steps. -/
def steps (engine : Engine) : List Step → Engine × List StepReport
  | [] => (engine, [])
  | step :: rest =>
    let (after, report) := engine.step step
    let (final, reports) := after.steps rest
    (final, report :: reports)

end Engine

end ListQuery
