import ListQuery.Command.Run
import ListQuery.Files.Tree
import ListQuery.Proofs.Catalog
import ListQuery.Proofs.Planning
import ListQuery.Proofs.Request

/-!
# Rendering after a check

What `check` accepts is a configuration whose applications make up a catalog.  With these
`render` shows the statement of every declared entity to whoever says no more than its name
(`render_of_check`): the request that is meant asks for a page of the default size and is
otherwise plain, and a plain request is planned unless its page is too large
(`plan_plain`).

A configuration is checked for the default size that it gives, if it gives one.  If it
lowers the greatest size and says nothing of the default, it is accepted although the
default is too large, and then every plain request is rejected.
-/

namespace ListQuery

open Sql

/-! ## Plain requests -/

/-- The context of a request that asks for a page of some size and nothing else. -/
def Context.plain (limit : UInt32) : Context :=
  { Context.standard with page := { PageRequest.standard with limit := limit } }

/-- A context that is not given is a plain one. -/
theorem Context.ofGiven_none (limit : UInt32) : Context.ofGiven none limit = .ok (plain limit) := by
  have hpage : PageRequest.read? (Json.object [("limit", Json.ofNat limit.toNat)]) =
      some { PageRequest.standard with limit := limit } := by
    unfold PageRequest.read?
    rw [show Wire.parts? ["direction", "after", "before", "limit"]
      (Json.object [("limit", Json.ofNat limit.toNat)]) =
        some ⟨[("limit", Json.ofNat limit.toNat)], false⟩ from rfl]
    simp [Wire.Parts.withDefault, Wire.Parts.optional, Wire.Parts.find?, List.lookup_cons,
      Wire.uint32?_ofNat, PageRequest.standard]
  have hcontext : Context.read?
      (Json.object [("pagination", Json.object [("limit", Json.ofNat limit.toNat)])]) =
        some (plain limit) := by
    unfold Context.read?
    rw [show Wire.parts? Context.memberNames
      (Json.object [("pagination", Json.object [("limit", Json.ofNat limit.toNat)])]) =
        some ⟨[("pagination", Json.object [("limit", Json.ofNat limit.toNat)])], false⟩ from rfl]
    simp [Wire.Parts.withDefault, Wire.Parts.optional, Wire.Parts.find?, List.lookup_cons, hpage,
      Context.standard, plain]
  rw [Context.ofGiven_of_givenMembers rfl]
  exact congrArg (Option.elim · _ _) hcontext

theorem EntityDefinition.exists_draft_plain (entity : EntityDefinition) (limit : UInt32) :
    ∃ draft, (entity.mapping.draft (Context.plain limit)).outcome = .ok draft := by
  obtain ⟨security, hsecurity⟩ := entity.exists_securityConditions
  obtain ⟨ordering, hordering⟩ :=
    entity.mapping.exists_sortOrdering [] (entity.mapping.effectiveSorts (Context.plain limit))
  exact ⟨_, Mapping.draft_eq_ok_iff.mpr
    ⟨[], security, none, ordering, rfl, hsecurity, rfl, hordering, rfl⟩⟩

/-- The size of its page is all that can be wrong with a plain context. -/
theorem Context.fault?_plain {limit : UInt32} (maximum : UInt32) (hpositive : limit ≠ 0) :
    (plain limit).fault? maximum =
      if limit ≤ maximum then none else some (.limitOutOfRange maximum limit) := by
  have hlimit : (plain limit).page.limit = limit := rfl
  have hnothing : (plain limit).filters = [] ∧ (plain limit).sorts = [] ∧
      (plain limit).search = none := ⟨rfl, rfl, rfl⟩
  unfold fault?
  by_cases hle : limit ≤ maximum
  · have hnot : ¬ maximum < limit := UInt32.not_lt.mpr hle
    simp [hlimit, hnothing.1, hnothing.2.1, hnothing.2.2, hpositive, hle, hnot]
  · have hlt : maximum < limit := UInt32.not_le.mp hle
    simp [hlimit, hle, hlt]

namespace Planner

variable {applicationCode entityCode : String} {limit : UInt32}

/-- A plain request for an entity that exists is planned unless its page is too large. -/
theorem plan_plain (planner : Planner) {entity : EntityDefinition}
    (hmapping : planner.catalog.mapping applicationCode entityCode = .ok entity.mapping)
    (hunamended : planner.amendments.find? (entityCode ++ "List") = none)
    (hpositive : limit ≠ 0) :
    if limit ≤ planner.settings.maximumLimit then
      ∃ plan, (planner.plan applicationCode entityCode (Context.plain limit)).outcome = .ok plan
    else
      (planner.plan applicationCode entityCode (Context.plain limit)).outcome =
        .error (.rejected
          (Context.Fault.limitOutOfRange planner.settings.maximumLimit limit).rejection) := by
  have hfault := Context.fault?_plain planner.settings.maximumLimit hpositive
  split
  next hle =>
    rw [if_pos hle] at hfault
    obtain ⟨draft, hdraft⟩ := entity.exists_draft_plain limit
    obtain ⟨ordering, htotal⟩ := entity.exists_totalOrdering_of_draft hdraft
    refine ⟨_, plan_eq_ok_iff.mpr ⟨hfault, entity.mapping, draft,
      draft.statement.cut [] ordering limit, hmapping, hdraft, ?_, rfl⟩⟩
    have hname : (Context.plain limit).resolvedListCode entityCode = entityCode ++ "List" := rfl
    rw [hname, apply_of_unamended hunamended]
    exact Select.page_eq_ok_iff.mpr ⟨ordering, [], htotal, rfl, rfl⟩
  next hle =>
    rw [if_neg hle] at hfault
    unfold plan
    simp [hfault, hmapping, Except.bind]

end Planner

/-! ## Configurations -/

theorem Configuration.isDistinct_of_loadCatalog {configuration : Configuration}
    {directory : String} {tree after : FileTree} {catalog : Catalog}
    (hcatalog : (configuration.loadCatalog directory : StateM FileTree _) tree =
      (.ok catalog, after)) : catalog.IsDistinct := by
  obtain ⟨applications, happlications⟩ : ∃ applications : Except DefinitionError (List Application),
      (applications.bind configuration.catalogOf).mapError ConfigurationError.definition =
        .ok catalog :=
    ⟨_, congrArg Prod.fst hcatalog⟩
  obtain ⟨loaded, -, hcatalogOf⟩ := bind_eq_ok_iff.mp (mapError_eq_ok_iff.mp happlications)
  obtain ⟨collected, hcollected, hdefault⟩ := bind_eq_ok_iff.mp hcatalogOf
  have hdistinct := Catalog.isDistinct_ofApplications hcollected
  split at hdefault
  · unfold Catalog.withDefault at hdefault
    split at hdefault
    · cases hdefault
      exact hdistinct
    · cases hdefault
  · cases hdefault
    exact hdistinct

/-- A configuration without a fault has positive sizes, and its default size is not too large
if it is configured. -/
theorem Configuration.limits_of_fault? {configuration : Configuration}
    (hfault : configuration.fault? = none) :
    configuration.settings.maximumLimit ≠ 0 ∧ configuration.settings.defaultLimit ≠ 0 ∧
      (configuration.settings.defaultLimit ≤ configuration.settings.maximumLimit ∨
        configuration.settingsOverride.defaultLimit = none) := by
  unfold fault? at hfault
  dsimp only at hfault
  split at hfault; · cases hfault
  split at hfault; · cases hfault
  split at hfault; · cases hfault
  next hmaximum =>
    -- Only a size that is configured is checked against the largest one.
    have hdefault : configuration.settings.defaultLimit =
        configuration.settingsOverride.defaultLimit.getD standardPageSize := rfl
    split at hfault
    next limit hlimit =>
      split at hfault
      next hrange =>
        rw [hlimit, Option.getD_some] at hdefault
        rw [hdefault]
        refine ⟨hmaximum, fun hzero => ?_, .inl hrange.2⟩
        exact absurd (hzero ▸ hrange.1) (by decide)
      · cases hfault
    next hnone =>
      rw [hnone, Option.getD_none] at hdefault
      rw [hdefault]
      exact ⟨hmaximum, by decide, .inr hnone⟩

/-- A text that describes a configuration without a fault is read as this configuration. -/
theorem Configuration.ofText_eq_ok_iff {path text : String} {configuration : Configuration} :
    ofText path text = .ok configuration ↔
      (Toml.read? text).bind read? = some configuration ∧ configuration.fault? = none := by
  unfold ofText
  cases (Toml.read? text).bind (read? : Toml.Value → Option Configuration) with
  | none => simp
  | some found =>
      cases hfault : found.fault? with
      | none =>
          simp only [hfault, Except.ok.injEq, Option.some.injEq, iff_self_and]
          rintro rfl
          exact hfault
      | some fault =>
          simp only [hfault, reduceCtorEq, Option.some.injEq, false_iff, not_and]
          rintro rfl
          simp [hfault]

theorem Configuration.fault?_of_load {path : String} {tree after : FileTree}
    {configuration : Configuration}
    (hload : (Configuration.load path : StateM FileTree _) tree = (.ok configuration, after)) :
    configuration.fault? = none := by
  obtain ⟨content, hcontent⟩ : ∃ content : Except FileFailure String,
      (content.mapError (ConfigurationError.ofFailure path)).bind (ofText path) =
        .ok configuration :=
    ⟨_, congrArg Prod.fst hload⟩
  obtain ⟨text, -, htext⟩ := bind_eq_ok_iff.mp hcontent
  exact (ofText_eq_ok_iff.mp htext).2

/-! ## Commands -/

/-- What the program leaves behind if it is invoked with files in memory. -/
def Invocation.outcomeIn (invocation : Invocation) (tree : FileTree) (environment : Environment)
    (colored : Bool) : Outcome :=
  ((invocation.run environment colored : StateM FileTree Outcome) tree).1

namespace Command

variable {tree after : FileTree} {environment : Environment} {colored verbose : Bool}
variable {path : String} {configuration : Configuration} {catalog : Catalog}

/-- A check that succeeds has loaded a configuration and its catalog. -/
theorem exists_loaded_of_check {named : Option String}
    (hcheck : ((⟨named, verbose, .check⟩ : Invocation).outcomeIn tree environment colored).status =
      0) :
    ∃ configuration catalog after,
      (Configuration.load (named.getD Configuration.standardPath) : StateM FileTree _) tree =
        (.ok configuration, tree) ∧
      (configuration.loadCatalog (Path.parent (named.getD Configuration.standardPath)) :
        StateM FileTree _) tree = (.ok catalog, after) := by
  have hload : ∃ loaded,
      (Configuration.load (named.getD Configuration.standardPath) : StateM FileTree _) tree =
        (loaded, tree) := ⟨_, rfl⟩
  obtain ⟨loaded, hload⟩ := hload
  -- Neither step may have failed, or the status would not be zero.
  unfold Invocation.outcomeIn Invocation.run runCheck at hcheck
  simp only [bind, StateT.bind, hload] at hcheck
  cases loaded with
  | error error => cases hcheck
  | ok configuration =>
      refine ⟨configuration, ?_⟩
      cases hcatalog : (configuration.loadCatalog
          (Path.parent (named.getD Configuration.standardPath)) : StateM FileTree _) tree with
      | mk result after =>
          cases result with
          | error error =>
              simp only [StateT.bind, hcatalog] at hcheck
              cases hcheck
          | ok catalog => exact ⟨catalog, after, hload, rfl⟩

theorem pure_apply {σ α : Type} (value : α) (state : σ) :
    (StateT.pure value : StateM σ α) state = (value, state) := rfl

/-- Rendering a list without a context is planning a plain request for it. -/
theorem runRender_plain (colored asJson : Bool) (target : ListTarget) {id : String}
    (hload : (Configuration.load path : StateM FileTree _) tree = (.ok configuration, tree))
    (hcatalog : (configuration.loadCatalog (Path.parent path) : StateM FileTree _) tree =
      (.ok catalog, after))
    (happlication : target.application = some id) (hcontext : target.context = none) :
    (runRender colored path target asJson : ExceptT CommandError (StateM FileTree) String) tree =
      (((Planner.plan ⟨catalog, .empty, configuration.settings⟩ id target.entity
          (Context.plain configuration.settings.defaultLimit)).outcome.mapError .list).map
        fun plan => if asJson then plan.queryJson.renderIndented ++ "\n"
          else StyledLine.renderAll colored plan.report, after) := by
  have hconfigured :
      (configured path : ExceptT CommandError (StateM FileTree) Configured) tree =
        (.ok ⟨configuration, catalog⟩, after) := by
    simp [configured, Command.configuration, bind, pure, ExceptT.bind, ExceptT.bindCont,
      ExceptT.mk, ExceptT.pure, StateT.bind, pure_apply, hload, hcatalog, Except.mapError]
  -- Without a context the plain request stands in for it, and no file is read.
  have hplain : (Command.context target.context configuration.settings.defaultLimit :
      ExceptT CommandError (StateM FileTree) Context) after =
        (.ok (Context.plain configuration.settings.defaultLimit), after) := by
    simp [Command.context, hcontext, bind, pure, ExceptT.bind, ExceptT.bindCont, ExceptT.mk,
      ExceptT.pure, StateT.bind, pure_apply, require, Context.ofGiven_none, Except.mapError]
  have hid : application catalog target.application = .ok id := by simp [application, happlication]
  simp only [runRender, bind, pure, ExceptT.bind, ExceptT.bindCont, ExceptT.mk, ExceptT.pure,
    StateT.bind, pure_apply, hconfigured, require, hid, Except.mapError, hplain]
  cases (Planner.plan ⟨catalog, .empty, configuration.settings⟩ id target.entity
    (Context.plain configuration.settings.defaultLimit)).outcome <;> rfl

section

variable {named : Option String} {target : ListTarget} {asJson : Bool}

theorem outcomeIn_render_of_ok {output : String}
    (hresult : (runRender colored (named.getD Configuration.standardPath) target asJson :
      ExceptT CommandError (StateM FileTree) String) tree = (.ok output, after)) :
    (⟨named, verbose, .render target asJson⟩ : Invocation).outcomeIn tree environment colored =
      .success output := by
  unfold Invocation.outcomeIn Invocation.run outcomeOf
  simp only [bind, StateT.bind, ExceptT.run, hresult]
  rfl

theorem outcomeIn_render_of_error {error : CommandError}
    (hresult : (runRender colored (named.getD Configuration.standardPath) target asJson :
      ExceptT CommandError (StateM FileTree) String) tree = (.error error, after)) :
    (⟨named, verbose, .render target asJson⟩ : Invocation).outcomeIn tree environment colored =
      .failure colored "" error := by
  unfold Invocation.outcomeIn Invocation.run outcomeOf
  simp only [bind, StateT.bind, ExceptT.run, hresult]
  rfl

end

/-- After a check that succeeds, every declared entity can be rendered without a context if
the default size of a page is not too large; it is too large only if it is not configured,
and then no entity can be rendered. -/
theorem render_of_check {named : Option String}
    (hcheck : ((⟨named, verbose, .check⟩ : Invocation).outcomeIn tree environment colored).status =
      0) :
    ∃ configuration catalog after,
      (Configuration.load (named.getD Configuration.standardPath) : StateM FileTree _) tree =
        (.ok configuration, tree) ∧
      (configuration.loadCatalog (Path.parent (named.getD Configuration.standardPath)) :
        StateM FileTree _) tree = (.ok catalog, after) ∧
      configuration.settings.maximumLimit ≠ 0 ∧ configuration.settings.defaultLimit ≠ 0 ∧
      ∀ application ∈ catalog.applications, ∀ entity ∈ application.entities, ∀ asJson,
        if configuration.settings.defaultLimit ≤ configuration.settings.maximumLimit then
          ((⟨named, verbose, .render ⟨entity.code, some application.id, none⟩ asJson⟩ :
            Invocation).outcomeIn tree environment colored).status = 0
        else
          configuration.settingsOverride.defaultLimit = none ∧
          (⟨named, verbose, .render ⟨entity.code, some application.id, none⟩ asJson⟩ :
            Invocation).outcomeIn tree environment colored =
              .failure colored "" (.list (.rejected (Context.Fault.limitOutOfRange
                configuration.settings.maximumLimit
                configuration.settings.defaultLimit).rejection)) := by
  obtain ⟨configuration, catalog, after, hload, hcatalog⟩ := exists_loaded_of_check hcheck
  obtain ⟨hmaximum, hdefault, hrange⟩ :=
    Configuration.limits_of_fault? (Configuration.fault?_of_load hload)
  refine ⟨configuration, catalog, after, hload, hcatalog, hmaximum, hdefault,
    fun application happlication entity hentity asJson => ?_⟩
  obtain ⟨declared, hmapping⟩ := Catalog.exists_mapping_of_mem
    (Configuration.isDistinct_of_loadCatalog hcatalog) happlication hentity
  have hplanned := Planner.plan_plain ⟨catalog, .empty, configuration.settings⟩ hmapping rfl
    hdefault
  have hrendered := runRender_plain colored asJson ⟨entity.code, some application.id, none⟩
    hload hcatalog rfl rfl
  split
  next hle =>
    rw [if_pos hle] at hplanned
    obtain ⟨plan, hplan⟩ := hplanned
    rw [hplan] at hrendered
    rw [outcomeIn_render_of_ok hrendered]
    rfl
  next hle =>
    rw [if_neg hle] at hplanned
    rw [hplanned] at hrendered
    exact ⟨hrange.resolve_left hle, outcomeIn_render_of_error hrendered⟩

/-- A configuration file with some settings, and an application that declares customers. -/
def customers (settings : String) : FileTree where
  current := []
  files :=
    [(["dynlist.toml"], ("applications = [\"crm.toml\"]\n\n[engine]\n" ++ settings).toUTF8),
      (["crm.toml"], ("appId = \"crm\"\nname = \"CRM\"\n\n[[entities]]\ncode = \"Customer\"\n"
        ++ "name = \"Customer\"\nfields = [[\"name\", \"Name\"]]\n").toUTF8)]

/-- With a default size that is configured, customers are rendered. -/
theorem render_of_check_customers :
    ((⟨none, false, .check⟩ : Invocation).outcomeIn (customers "defaultLimit = 20\n") []
      false).status = 0 ∧
    ∃ configuration catalog after,
      (Configuration.load "dynlist.toml" : StateM FileTree _) (customers "defaultLimit = 20\n") =
        (.ok configuration, customers "defaultLimit = 20\n") ∧
      (configuration.loadCatalog "" : StateM FileTree _) (customers "defaultLimit = 20\n") =
        (.ok catalog, after) ∧
      ∀ application ∈ catalog.applications, ∀ entity ∈ application.entities, ∀ asJson,
        ((⟨none, false, .render ⟨entity.code, some application.id, none⟩ asJson⟩ :
          Invocation).outcomeIn (customers "defaultLimit = 20\n") [] false).status = 0 := by
  have hcheck : ((⟨none, false, .check⟩ : Invocation).outcomeIn (customers "defaultLimit = 20\n")
      [] false).status = 0 := by
    decide +kernel
  have hsettings : ((Configuration.load "dynlist.toml" : StateM FileTree _)
      (customers "defaultLimit = 20\n")).1.toOption.all fun configuration =>
        configuration.settings.defaultLimit ≤ configuration.settings.maximumLimit := by
    decide +kernel
  obtain ⟨configuration, catalog, after, hload, hcatalog, -, -, hrender⟩ := render_of_check hcheck
  rw [show (none : Option String).getD Configuration.standardPath = "dynlist.toml" from rfl]
    at hload hcatalog
  have hle : configuration.settings.defaultLimit ≤ configuration.settings.maximumLimit := by
    simpa [hload, Except.toOption] using hsettings
  simp only [if_pos hle] at hrender
  exact ⟨hcheck, configuration, catalog, after, hload, hcatalog, hrender⟩

/-- A greatest size below the standard default is accepted on its own, and then customers are
not rendered. -/
theorem not_rendered_customers :
    ((⟨none, false, .check⟩ : Invocation).outcomeIn (customers "maxLimit = 10\n") []
      false).status = 0 ∧
    (⟨none, false, .render ⟨"Customer", some "crm", none⟩ false⟩ : Invocation).outcomeIn
      (customers "maxLimit = 10\n") [] false =
        ⟨1, "", "Error: Validation error: limit must be between 1 and 10, got 50\n"⟩ := by
  constructor <;> decide +kernel

end Command

end ListQuery
