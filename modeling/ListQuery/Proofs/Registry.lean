import ListQuery.Proofs.Catalog
import ListQuery.Registry

/-!
# What a registry serves

A registry serves requests from the catalog that was loaded last, whatever was in effect before
(`current_steps`), and what was taken from it stays as it was (`held_steps`).  So what may be
said of an answer follows from what may be said of one catalog.

If the catalogs are made of applications, an identifier means an application with just this
identifier.  It is one that the catalog holds if there is one, and else the default
(`serves_of_madeOf`).
-/

namespace ListQuery

/-! ## One catalog -/

namespace Catalog

/-- What may be asked of a catalog of some applications. -/
structure Serves (catalog : Catalog) (applications : List Application) : Prop where
  /-- It holds the applications, each under an identifier of its own. -/
  holds : catalog.applications = applications
  distinct : (applications.map Application.id).Nodup
  stored : ∀ id application, catalog.find? id = some application ↔
    application ∈ applications ∧ application.id = id
  /-- An identifier means something if an application is held under it or it is that of the
  default. -/
  known : ∀ id, (catalog.resolve? id).isSome ↔
    id ∈ applications.map Application.id ∨ catalog.standard.map Application.id = some id
  /-- What it means has this identifier. -/
  named : ∀ id application, catalog.resolve? id = some application → application.id = id
  /-- The default never stands before an application that is held. -/
  unshadowed : ∀ application ∈ applications, catalog.resolve? application.id = some application
  /-- Entities are those of the application that is meant. -/
  mapped : ∀ id entityCode mapping, catalog.mapping id entityCode = .ok mapping →
    ∃ application, catalog.resolve? id = some application ∧ application.id = id ∧
      ∃ entity ∈ application.entities, entity.code = entityCode ∧ mapping = entity.mapping

variable {catalog : Catalog} {applications : List Application}

theorem isSome_resolve?_iff (hdistinct : catalog.IsDistinct) {id : String} :
    (catalog.resolve? id).isSome ↔ id ∈ catalog.applications.map Application.id ∨
      catalog.standard.map Application.id = some id := by
  rw [Option.isSome_iff_exists]
  simp only [resolve?_eq_some_iff hdistinct, List.mem_map, Option.map_eq_some_iff]
  constructor
  · rintro ⟨application, hid, hheld | ⟨-, hstandard⟩⟩
    · exact .inl ⟨application, hheld, hid⟩
    · exact .inr ⟨application, hstandard, hid⟩
  · intro hknown
    by_cases hheld : ∃ application ∈ catalog.applications, application.id = id
    · obtain ⟨application, hmem, hid⟩ := hheld
      exact ⟨application, hid, .inl hmem⟩
    · obtain ⟨application, hstandard, hid⟩ := hknown.resolve_left hheld
      exact ⟨application, hid, .inr ⟨fun other hother heq => hheld ⟨other, hother, heq⟩, hstandard⟩⟩

/-- A catalog that is made of applications serves them. -/
theorem serves_of_madeOf (hcatalog : MadeOf applications catalog) :
    catalog.Serves applications := by
  obtain ⟨rfl, hdistinct⟩ := applications_of_madeOf hcatalog
  have hnamed : ∀ id application, catalog.resolve? id = some application → application.id = id :=
    fun id application hresolved => ((resolve?_eq_some_iff hdistinct).mp hresolved).1
  exact {
    holds := rfl
    distinct := hdistinct
    stored := fun id application => find?_eq_some_iff hdistinct
    known := fun id => isSome_resolve?_iff hdistinct
    named := hnamed
    unshadowed := fun application hmem =>
      (resolve?_eq_some_iff hdistinct).mpr ⟨rfl, .inl hmem⟩
    mapped := fun id entityCode mapping hmapping => by
      obtain ⟨application, hresolved, hentity⟩ := exists_entity_of_mapping hmapping
      exact ⟨application, hresolved, hnamed id application hresolved, hentity⟩ }

/-- There is no catalog of applications only if two of them have the same identifier. -/
theorem exists_ofApplications_error_iff :
    (∃ error, ofApplications applications = .error error) ↔
      ¬(applications.map Application.id).Nodup := by
  cases hresult : ofApplications applications with
  | ok catalog => simp [(ofApplications_eq_ok_iff.mp hresult).1]
  | error error =>
      refine iff_of_true ⟨error, rfl⟩ fun hnodup => ?_
      cases hresult.symm.trans (ofApplications_eq_ok_iff.mpr ⟨hnodup, rfl⟩)

/-- An application cannot be the default only if it is not held. -/
theorem exists_withDefault_error_iff {id : String} :
    (∃ error, catalog.withDefault id = .error error) ↔
      id ∉ catalog.applications.map Application.id := by
  unfold withDefault
  cases hfound : catalog.find? id with
  | none => simpa using find?_eq_none_iff.mp hfound
  | some found =>
      refine iff_of_false nofun (not_not_intro ?_)
      exact List.mem_map.mpr ⟨found, List.mem_of_find?_eq_some hfound,
        by simpa using List.find?_some hfound⟩

end Catalog

/-! ## A history of catalogs -/

namespace Registry

/-- The catalog that a step brings into effect, if it does. -/
def Step.loaded? : Step → Option Catalog
  | .reload catalog => some catalog
  | .hold => none

variable (registry : Registry) (script : List Step)

/-- The catalog in effect is the one that was loaded last. -/
theorem current_steps : (registry.steps script).current =
    (script.filterMap Step.loaded?).getLast?.getD registry.current := by
  induction script generalizing registry with
  | nil => rfl
  | cons step rest ih =>
      show ((registry.step step).steps rest).current = _
      rw [ih]
      cases step with
      | hold => rfl
      | reload catalog =>
          show _ = ((catalog :: rest.filterMap Step.loaded?).getLast?).getD _
          rw [List.getLast?_cons, Option.getD_some]
          rfl

/-- What was taken stays as it is, since more is only put after it. -/
theorem held_steps {registry : Registry} {position : Nat} {catalog : Catalog}
    (hheld : registry.held[position]? = some catalog) :
    (registry.steps script).held[position]? = some catalog := by
  induction script generalizing registry with
  | nil => exact hheld
  | cons step rest ih =>
      cases step with
      | hold =>
          refine ih (List.getElem?_append_left ?_ |>.trans hheld)
          exact (List.getElem?_eq_some_iff.mp hheld).1
      | reload catalog => exact ih hheld

/-- Whatever holds of the catalog in effect and of those that are loaded holds of all that are
in effect or held later. -/
theorem forall_steps {motive : Catalog → Prop}
    (hcurrent : motive registry.current) (hheld : ∀ catalog ∈ registry.held, motive catalog)
    (hscript : ∀ catalog, .reload catalog ∈ script → motive catalog) :
    motive (registry.steps script).current ∧
      ∀ catalog ∈ (registry.steps script).held, motive catalog := by
  induction script generalizing registry with
  | nil => exact ⟨hcurrent, hheld⟩
  | cons step rest ih =>
      have hrest := fun catalog hmem => hscript catalog (List.mem_cons_of_mem _ hmem)
      cases step with
      | hold =>
          refine ih (registry.step .hold) hcurrent (fun catalog hmem => ?_) hrest
          rcases List.mem_append.mp hmem with hbefore | htaken
          · exact hheld catalog hbefore
          · rw [List.mem_singleton.mp htaken]
            exact hcurrent
      | reload catalog =>
          exact ih (registry.step (.reload catalog)) (hscript catalog List.mem_cons_self) hheld
            hrest

/-- In every history of catalogs that are made of applications, the one that was loaded last
answers alone, and it answers as a catalog of its applications does.  What is taken is the
catalog in effect at the time, and it stays as it is whatever happens later.  There is no
catalog of applications of which two have one identifier, and no default that is not held; all
others there are. -/
theorem serves_history {start : Catalog} {before after : List Step} {registry : Registry}
    (hregistry : registry = (ofCatalog start).steps before)
    (hstart : ∃ applications, Catalog.MadeOf applications start)
    (hscript : ∀ catalog, .reload catalog ∈ before ++ after →
      ∃ applications, Catalog.MadeOf applications catalog) :
    (∃ applications, Catalog.MadeOf applications registry.current ∧
      registry.current.Serves applications) ∧
    (∀ id, registry.application? id =
      ((before.filterMap Step.loaded?).getLast?.getD start).resolve? id) ∧
    (∀ catalog ∈ (registry.steps after).held, ∃ applications, catalog.Serves applications) ∧
    (∀ (position : Nat) catalog, registry.held[position]? = some catalog →
      (registry.steps after).held[position]? = some catalog) ∧
    ((registry.step .hold).steps after).held[registry.held.length]? = some registry.current ∧
    (∀ applications, (∃ error, Catalog.ofApplications applications = .error error) ↔
      ¬(applications.map Application.id).Nodup) ∧
    ∀ catalog id, (∃ error, Catalog.withDefault catalog id = .error error) ↔
      id ∉ catalog.applications.map Application.id := by
  subst hregistry
  obtain ⟨⟨applications, hcurrent⟩, hheld⟩ := forall_steps (ofCatalog start) before
    hstart (List.forall_mem_nil _)
    fun catalog hmem => hscript catalog (List.mem_append_left _ hmem)
  obtain ⟨-, hheldLater⟩ := forall_steps _ after ⟨applications, hcurrent⟩ hheld
    fun catalog hmem => hscript catalog (List.mem_append_right _ hmem)
  refine ⟨⟨applications, hcurrent, Catalog.serves_of_madeOf hcurrent⟩, fun id => ?_,
    fun catalog hmem => ?_, fun position catalog => held_steps after,
    held_steps after List.getElem?_concat_length,
    fun _ => Catalog.exists_ofApplications_error_iff,
    fun _ _ => Catalog.exists_withDefault_error_iff⟩
  · unfold application?
    rw [current_steps]
    rfl
  · obtain ⟨others, hmade⟩ := hheldLater catalog hmem
    exact ⟨others, Catalog.serves_of_madeOf hmade⟩

/-- An application of a name. -/
def named (id name : String) : Application :=
  ⟨id, name, [EntityDefinition.sample], []⟩

/-- A catalog whose fallback has the identifier of an application that it holds. -/
def shadowing : Catalog :=
  ⟨[named "crm" "Customers", named "shop" "Shop"], some (named "crm" "Demo")⟩

theorem madeOf_shadowing : Catalog.MadeOf shadowing.applications shadowing := by
  have hcollected : Catalog.ofApplications shadowing.applications =
      .ok ⟨shadowing.applications, some (named "crm" "Customers")⟩ :=
    Catalog.ofApplications_eq_ok_iff.mpr ⟨by decide, rfl⟩
  have hshop : Catalog.withDefault ⟨shadowing.applications, some (named "crm" "Customers")⟩
      "shop" = .ok ⟨shadowing.applications, some (named "shop" "Shop")⟩ := by
    decide
  exact ((Catalog.MadeOf.ofApplications hcollected).withDefault hshop).withFallback
    (named "crm" "Demo")

/-- A request that took this catalog gets the application that it holds, after there have ceased
to be any. -/
theorem serves_history_shadowing :
    ∃ registry, registry = (ofCatalog shadowing).steps [.hold, .reload Catalog.empty] ∧
      (∀ id, registry.application? id = none) ∧
      (registry.steps [.hold, .reload shadowing]).held[0]? = some shadowing ∧
      shadowing.resolve? "crm" = some (named "crm" "Customers") := by
  have hempty : Catalog.MadeOf [] Catalog.empty := .ofApplications rfl
  have hscript : ∀ catalog,
      Step.reload catalog ∈ [.hold, .reload Catalog.empty] ++ [.hold, .reload shadowing] →
        ∃ applications, Catalog.MadeOf applications catalog := by
    intro catalog hmem
    obtain rfl | rfl : catalog = Catalog.empty ∨ catalog = shadowing := by simpa using hmem
    · exact ⟨_, hempty⟩
    · exact ⟨_, madeOf_shadowing⟩
  obtain ⟨-, hanswer, hserves, hheld, -⟩ := serves_history rfl ⟨_, madeOf_shadowing⟩ hscript
  refine ⟨_, rfl, hanswer, hheld 0 shadowing rfl, ?_⟩
  obtain ⟨applications, hserves⟩ := hserves shadowing List.mem_cons_self
  refine hserves.unshadowed (named "crm" "Customers") ?_
  rw [← hserves.holds]
  exact List.mem_cons_self

end Registry

end ListQuery
