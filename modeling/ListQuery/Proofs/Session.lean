import ListQuery.Proofs.Planning
import ListQuery.Session

/-!
# What a session does to the database

A step of a session either runs a list or leaves connections and statements alone.
`Engine.running?` says which plan a step runs, and `Engine.Keeps` what may come of the
step: without a plan nothing happens at all, without a connection nothing is sent, and
otherwise one connection serves the one query of the plan and is given back, whatever the
database answers.  Every step keeps to this (`keeps_step`), and from step to step as many
connections are given back as were taken, so that a whole session keeps to it
(`keeps_session`).

Planning does not touch the database and tells nothing of statements either
(`Planner.ofStatement_of_plan`).  What is reported of the statement of a list is therefore what
running its query reports (`tellOf_execute`).
-/

namespace ListQuery

open Sql

/-! ## One query -/

namespace Pool

variable {pool : Pool} {timeout : Option UInt64} {query : Query}

/-- What the database answers to the next statement: what is queued up first, or no rows. -/
def answer (pool : Pool) : Except String (List Row) :=
  pool.results.headD (.ok [])

/-- Without a connection nothing is sent. -/
theorem run_of_refusals_eq_cons {reason : String} {rest : List String}
    (hrefusals : pool.refusals = reason :: rest) :
    pool.run timeout query = ({ pool with refusals := rest }, .error (.execution reason)) := by
  unfold run
  rw [hrefusals]

/-- One connection serves one statement and is given back. -/
theorem run_of_refusals_eq_nil (hrefusals : pool.refusals = []) :
    pool.run timeout query =
      ({ pool with
          results := pool.results.tail
          acquired := pool.acquired + 1
          released := pool.released + 1
          sent := pool.sent ++ [query] },
        pool.inTime timeout pool.answer) := by
  unfold run send answer
  rw [hrefusals]
  cases hresults : pool.results with
  | nil => simp [inTime]
  | cons result rest => simp [inTime]

/-- That between two moments no connection was taken or given back and nothing was sent. -/
structure Untouched (pool after : Pool) : Prop where
  acquired : after.acquired = pool.acquired
  released : after.released = pool.released
  sent : after.sent = pool.sent

end Pool

/-! ## One step -/

/-- Whether a step only looks at what the engine makes of a request. -/
def Step.looks : Step → Bool
  | .plan .. | .parse .. | .shape .. => true
  | .respond .. | .fail .. | .refuse .. | .delay .. | .reload .. | .request .. | .execute .. =>
    false

namespace Engine

/-- The plan for a context, together with the context. -/
def planFor (engine : Engine) (applicationCode entityCode : String) (context : Context) :
    Except Failure (Plan × Context) :=
  (engine.planner.plan applicationCode entityCode context).outcome.map fun plan => (plan, context)

/-- The plan that a step runs and the context that it is made for, or the failure to make
it, if the step runs a list. -/
def running? (engine : Engine) : Step → Option (Except Failure (Plan × Context))
  | .request body entityCode =>
    some ((engine.parse body).bind fun request =>
      engine.planFor request.applicationCode entityCode request.context)
  | .execute applicationCode entityCode given entry =>
    some ((engine.context given).bind fun context =>
      engine.planFor applicationCode entityCode (context.enteredAt entry))
  | .respond .. | .fail .. | .refuse .. | .delay .. | .reload .. | .plan .. | .parse ..
  | .shape .. => none

/-- What may come of a step as regards connections and statements. -/
inductive Keeps (engine : Engine) (step : Step) (after : Engine) (report : StepReport) : Prop
  /-- A step that runs no list leaves both alone, and one that only looks changes nothing. -/
  | idle (hrunning : engine.running? step = none)
      (huntouched : engine.pool.Untouched after.pool)
      (hsent : report.sent = [])
      (hlooks : step.looks = true → after = engine)
  /-- Without a plan nothing happens. -/
  | unplanned {failure : Failure} (hrunning : engine.running? step = some (.error failure))
      (hafter : after = engine)
      (hsent : report.sent = [])
      (hresult : report.result = .failed failure)
  /-- Without a connection nothing is sent. -/
  | refused {plan : Plan} {context : Context} {reason : String}
      (hrunning : engine.running? step = some (.ok (plan, context)))
      (hrefusals : engine.pool.refusals.head? = some reason)
      (huntouched : engine.pool.Untouched after.pool)
      (hsent : report.sent = [])
      (hresult : report.result = .failed (.execution reason))
  /-- Over one connection the query of the plan is sent, and what the database answers in
  time is shaped. -/
  | ran {plan : Plan} {context : Context}
      (hrunning : engine.running? step = some (.ok (plan, context)))
      (hrefusals : engine.pool.refusals = [])
      (hacquired : after.pool.acquired = engine.pool.acquired + 1)
      (hreleased : after.pool.released = engine.pool.released + 1)
      (hpool : after.pool.sent = engine.pool.sent ++ [plan.query])
      (hsent : report.sent = [plan.query])
      (hresult : report.result = resultOf .answered
        ((engine.pool.inTime engine.planner.settings.timeout engine.pool.answer).bind
          (plan.shape context)))

variable {engine after : Engine} {step : Step} {applicationCode entityCode : String}
variable {context : Context} {plan : Plan} {failure : Failure}

theorem execute_of_error
    (hplan : (engine.planner.plan applicationCode entityCode context).outcome = .error failure) :
    engine.execute applicationCode entityCode context =
      (engine, ⟨(engine.planner.plan applicationCode entityCode context).events,
        .error failure⟩) := by
  unfold execute
  simp only [hplan]

theorem execute_of_ok
    (hplan : (engine.planner.plan applicationCode entityCode context).outcome = .ok plan) :
    engine.execute applicationCode entityCode context =
      ({ engine with
          pool := (engine.pool.run engine.planner.settings.timeout plan.query).1 },
        ⟨(engine.planner.plan applicationCode entityCode context).events ++
            queryEvents engine.planner.settings plan.query
              (engine.pool.run engine.planner.settings.timeout plan.query).2,
          (engine.pool.run engine.planner.settings.timeout plan.query).2.bind
            (plan.shape context)⟩) := by
  unfold execute
  simp only [hplan]

theorem step_of_stepResult {result : StepResult} {events : List Event}
    (hstep : engine.stepResult step = (after, result, events)) :
    engine.step step =
      (after, ⟨result, events, after.pool.sent.drop engine.pool.sent.length⟩) := by
  unfold Engine.step
  rw [hstep]

/-- A step that fails before there is a context to plan for. -/
theorem keeps_of_failed (failure : Failure)
    (hrunning : engine.running? step = some (.error failure))
    (hstep : engine.stepResult step = (engine, .failed failure, [])) :
    engine.Keeps step (engine.step step).1 (engine.step step).2 := by
  rw [step_of_stepResult hstep]
  exact .unplanned hrunning rfl List.drop_length rfl

/-- A step that runs a list for a context. -/
theorem keeps_of_executeStep (applicationCode entityCode : String) (context : Context)
    (hrunning : engine.running? step = some (engine.planFor applicationCode entityCode context))
    (hstep : engine.stepResult step = engine.executeStep applicationCode entityCode context) :
    engine.Keeps step (engine.step step).1 (engine.step step).2 := by
  unfold planFor at hrunning
  have hexecuted : engine.stepResult step =
      ((engine.execute applicationCode entityCode context).1,
        resultOf .answered (engine.execute applicationCode entityCode context).2.outcome,
        (engine.execute applicationCode entityCode context).2.events) := hstep
  cases hplan : (engine.planner.plan applicationCode entityCode context).outcome with
  | error failure =>
      rw [hplan] at hrunning
      rw [execute_of_error hplan] at hexecuted
      rw [step_of_stepResult hexecuted]
      exact .unplanned hrunning rfl List.drop_length rfl
  | ok plan =>
      rw [hplan] at hrunning
      rw [execute_of_ok hplan] at hexecuted
      rw [step_of_stepResult hexecuted]
      -- A run that is refused sends no statement.
      cases hrefusals : engine.pool.refusals with
      | cons reason rest =>
          rw [Pool.run_of_refusals_eq_cons hrefusals]
          exact .refused hrunning (congrArg List.head? hrefusals) ⟨rfl, rfl, rfl⟩
            List.drop_length rfl
      | nil =>
          rw [Pool.run_of_refusals_eq_nil hrefusals]
          exact .ran hrunning hrefusals rfl rfl rfl List.drop_left rfl

/-- A step that only looks changes nothing. -/
theorem stepResult_of_looks (hlooks : step.looks = true) : (engine.stepResult step).1 = engine := by
  cases step with
  | respond | fail | refuse | delay | reload | request | execute => cases hlooks
  | parse body => rfl
  | plan _ _ given =>
      simp only [stepResult]
      cases engine.context given <;> rfl
  | shape _ _ given =>
      simp only [stepResult]
      cases engine.context given <;> rfl

theorem keeps_of_looks (hlooks : step.looks = true) :
    engine.Keeps step (engine.step step).1 (engine.step step).2 := by
  have hafter : (engine.step step).1 = engine := stepResult_of_looks hlooks
  have hsent : (engine.step step).2.sent = [] := by
    show (engine.step step).1.pool.sent.drop engine.pool.sent.length = []
    rw [hafter, List.drop_length]
  have hrunning : engine.running? step = none := by cases step <;> first | rfl | cases hlooks
  exact .idle hrunning (by rw [hafter]; exact ⟨rfl, rfl, rfl⟩) hsent fun _ => hafter

theorem keeps_step (engine : Engine) (step : Step) :
    engine.Keeps step (engine.step step).1 (engine.step step).2 := by
  cases step with
  | respond | fail | refuse | delay =>
      exact .idle rfl ⟨rfl, rfl, rfl⟩ List.drop_length nofun
  | reload catalog =>
      cases catalog <;> exact .idle rfl ⟨rfl, rfl, rfl⟩ List.drop_length nofun
  | plan | parse | shape => exact keeps_of_looks rfl
  | request body entityCode =>
      cases hparse : engine.parse body with
      | error failure =>
          exact keeps_of_failed failure (by simp [running?, hparse, Except.bind])
            (by simp [stepResult, hparse])
      | ok request =>
          exact keeps_of_executeStep request.applicationCode entityCode request.context
            (by simp only [running?, hparse, Except.bind]) (by simp only [stepResult, hparse])
  | execute applicationCode entityCode given entry =>
      cases hcontext : engine.context given with
      | error failure =>
          exact keeps_of_failed failure (by simp [running?, hcontext, Except.bind])
            (by simp [stepResult, hcontext])
      | ok context =>
          exact keeps_of_executeStep applicationCode entityCode (context.enteredAt entry)
            (by simp only [running?, hcontext, Except.bind]) (by simp only [stepResult, hcontext])

/-- What a step may do to the counts of connections and statements. -/
theorem Keeps.counts {report : StepReport} (hkeeps : engine.Keeps step after report) :
    (engine.pool.released = engine.pool.acquired → after.pool.released = after.pool.acquired) ∧
      after.pool.acquired ≤ engine.pool.acquired + 1 ∧
      after.pool.sent = engine.pool.sent ++ report.sent ∧ report.sent.length ≤ 1 := by
  cases hkeeps with
  | idle _ huntouched hsent | refused _ _ huntouched hsent =>
      simp [huntouched.acquired, huntouched.released, huntouched.sent, hsent]
  | unplanned _ hafter hsent => simp [hafter, hsent]
  | ran _ _ hacquired hreleased hpool hsent => simp [hacquired, hreleased, hpool, hsent]

end Engine

/-! ## A whole session -/

/-- The catalog in effect after a step. -/
def Step.catalogAfter (catalog : Catalog) : Step → Catalog
  | .reload (.ok loaded) => loaded
  | _ => catalog

namespace Engine

/-- A step changes nothing about planning but the catalog. -/
theorem planner_step (engine : Engine) (step : Step) :
    (engine.step step).1.planner =
      { engine.planner with catalog := step.catalogAfter engine.planner.catalog } := by
  -- Running a list touches the pool alone.
  have hexecute : ∀ applicationCode entityCode context,
      (engine.executeStep applicationCode entityCode context).1.planner = engine.planner := by
    intro applicationCode entityCode context
    show (engine.execute applicationCode entityCode context).1.planner = _
    cases hplan : (engine.planner.plan applicationCode entityCode context).outcome with
    | error failure => rw [execute_of_error hplan]
    | ok plan => rw [execute_of_ok hplan]
  show (engine.stepResult step).1.planner = _
  cases step with
  | respond | fail | refuse | delay => rfl
  | reload catalog => cases catalog <;> rfl
  | plan | parse | shape => rw [stepResult_of_looks rfl]; rfl
  | request body entityCode =>
      simp only [stepResult]
      cases engine.parse body with
      | error failure => rfl
      | ok request => exact hexecute _ _ _
  | execute applicationCode entityCode given entry =>
      simp only [stepResult]
      cases engine.context given with
      | error failure => rfl
      | ok context => exact hexecute _ _ _

theorem planner_steps (engine : Engine) (script : List Step) :
    (engine.steps script).1.planner =
      { engine.planner with
        catalog := script.foldl Step.catalogAfter engine.planner.catalog } := by
  induction script generalizing engine with
  | nil => rfl
  | cons step rest ih =>
      show ((engine.step step).1.steps rest).1.planner = _
      rw [ih, planner_step]
      rfl

/-- As many connections are given back as were taken, from step to step. -/
theorem released_steps {engine : Engine} (hreleased : engine.pool.released = engine.pool.acquired)
    (script : List Step) :
    (engine.steps script).1.pool.released = (engine.steps script).1.pool.acquired := by
  induction script generalizing engine with
  | nil => exact hreleased
  | cons step rest ih => exact ih ((keeps_step engine step).counts.1 hreleased)

theorem length_reports (engine : Engine) (script : List Step) :
    (engine.steps script).2.length = script.length := by
  induction script generalizing engine with
  | nil => rfl
  | cons step rest ih => exact congrArg Nat.succ (ih (engine.step step).1)

/-- A session goes on from where it has come to. -/
theorem steps_append (engine : Engine) (before rest : List Step) :
    engine.steps (before ++ rest) =
      (((engine.steps before).1.steps rest).1,
        (engine.steps before).2 ++ ((engine.steps before).1.steps rest).2) := by
  induction before generalizing engine with
  | nil => rfl
  | cons step before ih => simp only [List.cons_append, steps, ih]

end Engine

/-! ## What is reported of statements -/

/-- That events tell of one statement only: that it is sent, with its text and the number of
its values, and with what is reported of the text if it failed. -/
structure Event.TellOf (events : List Event) (sql : String) (count : Nat) (reported : String) :
    Prop where
  sent : .query sql count ∈ events
  only : ∀ event ∈ events, event.ofStatement = true →
    event = .query sql count ∨ ∃ failure, event = .queryFailed reported failure

namespace Engine

variable {engine : Engine} {applicationCode entityCode : String} {context : Context} {plan : Plan}

/-- Of statements an execution tells what running the query of the plan does. -/
theorem filter_events_execute
    (hplan : (engine.planner.plan applicationCode entityCode context).outcome = .ok plan) :
    (engine.execute applicationCode entityCode context).2.events.filter Event.ofStatement =
      queryEvents engine.planner.settings plan.query
        (engine.pool.run engine.planner.settings.timeout plan.query).2 := by
  have hplanned : (engine.planner.plan applicationCode entityCode context).events.filter
      Event.ofStatement = [] :=
    List.filter_eq_nil_iff.mpr fun event hevent => by
      simp [engine.planner.ofStatement_of_plan applicationCode entityCode context event hevent]
  rw [execute_of_ok hplan, List.filter_append, hplanned, List.nil_append]
  unfold queryEvents
  split <;> rfl

/-- The query of the plan is the one of which an execution tells. -/
theorem tellOf_execute
    (hplan : (engine.planner.plan applicationCode entityCode context).outcome = .ok plan) :
    Event.TellOf (engine.execute applicationCode entityCode context).2.events plan.query.text
      plan.query.parameters.length (engine.planner.settings.reported plan.query.text) := by
  have htold : ∀ event, event ∈ queryEvents engine.planner.settings plan.query
      (engine.pool.run engine.planner.settings.timeout plan.query).2 ↔
        event ∈ (engine.execute applicationCode entityCode context).2.events ∧
          event.ofStatement = true := by
    intro event
    rw [← filter_events_execute hplan, List.mem_filter]
  refine ⟨((htold _).mp List.mem_cons_self).1, fun event hevent hstatement => ?_⟩
  rcases List.mem_cons.mp ((htold event).mpr ⟨hevent, hstatement⟩) with rfl | hfailed
  · exact .inl rfl
  · split at hfailed
    · cases hfailed
    next failure _ => exact .inr ⟨failure.display, List.mem_singleton.mp hfailed⟩

end Engine

end ListQuery
