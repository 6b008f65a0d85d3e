import ListQuery.Proofs.Statement
import Mathlib.Data.List.Nodup

/-!
# What a catalog holds

A catalog is made of applications with different identifiers (`ofApplications_eq_ok_iff`), and
then its default may be changed to one of them or to a fallback.  None of this touches the
applications that it holds, so in whatever way a catalog is made (`MadeOf`), an application that
it holds is found under its own identifier and under no other one.

An identifier means the application that is held under it; only an identifier under which none
is held can mean the default (`resolve?_eq_some_iff`).
-/

namespace ListQuery.Catalog

variable {catalog result : Catalog} {applications : List Application} {application : Application}
variable {id : String}

/-! ## Finding applications -/

/-- That no two applications of a catalog have the same identifier. -/
def IsDistinct (catalog : Catalog) : Prop :=
  (catalog.applications.map Application.id).Nodup

theorem find?_eq_none_iff :
    catalog.find? id = none ↔ ∀ application ∈ catalog.applications, application.id ≠ id := by
  simp [find?]

/-- If identifiers are different, an application is found under its own. -/
theorem find?_eq_some_iff (hdistinct : catalog.IsDistinct) :
    catalog.find? id = some application ↔
      application ∈ catalog.applications ∧ application.id = id := by
  constructor
  · intro hfound
    exact ⟨List.mem_of_find?_eq_some hfound, by simpa using List.find?_some hfound⟩
  · rintro ⟨hmem, rfl⟩
    cases hfound : catalog.find? application.id with
    | none => exact absurd rfl (find?_eq_none_iff.mp hfound application hmem)
    | some found =>
        have hid : found.id = application.id := by simpa using List.find?_some hfound
        rw [List.inj_on_of_nodup_map hdistinct (List.mem_of_find?_eq_some hfound) hmem hid]

/-- What an identifier means: the application that is held under it, or the default of that
identifier if none is. -/
theorem resolve?_eq_some_iff (hdistinct : catalog.IsDistinct) :
    catalog.resolve? id = some application ↔
      application.id = id ∧ (application ∈ catalog.applications ∨
        (∀ other ∈ catalog.applications, other.id ≠ id) ∧ catalog.standard = some application) := by
  unfold resolve?
  cases hfound : catalog.find? id with
  | some found =>
      obtain ⟨hmem, hid⟩ := (find?_eq_some_iff hdistinct).mp hfound
      rw [or_iff_left (fun hdefault => hdefault.1 found hmem hid), and_comm,
        ← find?_eq_some_iff hdistinct, hfound]
  | none =>
      have hnone := find?_eq_none_iff.mp hfound
      simp only [Option.filter_eq_some_iff, beq_iff_eq]
      constructor
      · rintro ⟨hstandard, hid⟩
        exact ⟨hid, .inr ⟨hnone, hstandard⟩⟩
      · rintro ⟨hid, hheld | ⟨-, hstandard⟩⟩
        · exact absurd hid (hnone application hheld)
        · exact ⟨hstandard, hid⟩

/-! ## Making catalogs -/

theorem add_eq_ok_iff : catalog.add application = .ok result ↔
    (∀ other ∈ catalog.applications, other.id ≠ application.id) ∧
      result = ⟨catalog.applications ++ [application],
        some (catalog.standard.getD application)⟩ := by
  unfold add
  rw [← find?_eq_none_iff]
  cases catalog.find? application.id with
  | none => simp [eq_comm]
  | some found => simp

/-- With another application identifiers stay different if the new one is. -/
theorem isDistinct_concat_iff (hdistinct : catalog.IsDistinct) {standard : Option Application} :
    IsDistinct ⟨catalog.applications ++ [application], standard⟩ ↔
      ∀ other ∈ catalog.applications, other.id ≠ application.id := by
  unfold IsDistinct
  rw [List.map_append, List.map_singleton, List.nodup_append]
  constructor
  · rintro ⟨-, -, hnew⟩ other hother
    exact hnew _ (List.mem_map_of_mem hother) _ List.mem_cons_self
  · intro hnew
    exact ⟨hdistinct, List.nodup_singleton _, by simpa using hnew⟩

/-- Adding applications to a catalog succeeds if all identifiers are different.  The first
application becomes the default if there was none. -/
theorem foldlM_add_eq_ok_iff (hdistinct : catalog.IsDistinct) :
    applications.foldlM add catalog = .ok result ↔
      ((catalog.applications ++ applications).map Application.id).Nodup ∧
        result = ⟨catalog.applications ++ applications,
          catalog.standard.or applications.head?⟩ := by
  induction applications generalizing catalog with
  | nil =>
      have hsame : ((catalog.applications ++ []).map Application.id).Nodup := by
        rwa [List.append_nil]
      rw [and_iff_right hsame]
      simp [pure, Except.pure, eq_comm]
  | cons application rest ih =>
      have hstandard : (some (catalog.standard.getD application)).or rest.head? =
          catalog.standard.or (application :: rest).head? := by
        cases catalog.standard <;> rfl
      -- The application at hand is added first, and the rest to the catalog with it.
      have hrest : ∀ hnext : IsDistinct ⟨catalog.applications ++ [application],
          some (catalog.standard.getD application)⟩, _ := fun hnext => ih hnext
      simp only [List.append_assoc, List.singleton_append, hstandard] at hrest
      rw [List.foldlM_cons]
      constructor
      · intro hresult
        obtain ⟨next, hadd, hadded⟩ := bind_eq_ok_iff.mp hresult
        obtain ⟨hnew, rfl⟩ := add_eq_ok_iff.mp hadd
        exact (hrest ((isDistinct_concat_iff hdistinct).mpr hnew)).mp hadded
      · rintro ⟨hnodup, rfl⟩
        have hnext : IsDistinct ⟨catalog.applications ++ [application],
            some (catalog.standard.getD application)⟩ := by
          refine hnodup.sublist (List.Sublist.map _ ?_)
          exact List.Sublist.append_left (List.singleton_sublist.mpr List.mem_cons_self) _
        have hadd := add_eq_ok_iff.mpr ⟨(isDistinct_concat_iff hdistinct).mp hnext, rfl⟩
        exact bind_eq_ok_iff.mpr ⟨_, hadd, (hrest hnext).mpr ⟨hnodup, rfl⟩⟩

/-- A catalog can be made of applications with different identifiers, and the first of them is
its default. -/
theorem ofApplications_eq_ok_iff : ofApplications applications = .ok catalog ↔
    (applications.map Application.id).Nodup ∧ catalog = ⟨applications, applications.head?⟩ := by
  unfold ofApplications
  rw [foldlM_add_eq_ok_iff (show empty.IsDistinct from List.nodup_nil)]
  rfl

theorem isDistinct_ofApplications (hcatalog : ofApplications applications = .ok catalog) :
    catalog.IsDistinct := by
  obtain ⟨hnodup, rfl⟩ := ofApplications_eq_ok_iff.mp hcatalog
  exact hnodup

/-- The default can be any application that is held. -/
theorem withDefault_eq_ok_iff (hdistinct : catalog.IsDistinct) :
    catalog.withDefault id = .ok result ↔
      ∃ application ∈ catalog.applications, application.id = id ∧
        result = ⟨catalog.applications, some application⟩ := by
  unfold withDefault
  cases hfound : catalog.find? id with
  | none =>
      have hnone := find?_eq_none_iff.mp hfound
      constructor
      · nofun
      · rintro ⟨application, hmem, hid, -⟩
        exact absurd hid (hnone application hmem)
  | some found =>
      obtain ⟨hmem, hid⟩ := (find?_eq_some_iff hdistinct).mp hfound
      constructor
      · intro hresult
        exact ⟨found, hmem, hid, (Except.ok.inj hresult).symm⟩
      · rintro ⟨application, happlication, rfl, rfl⟩
        rw [(find?_eq_some_iff hdistinct).mpr ⟨happlication, rfl⟩] at hfound
        rw [Option.some.inj hfound]

/-- The catalogs that are made of applications. -/
inductive MadeOf (applications : List Application) : Catalog → Prop
  | ofApplications {catalog : Catalog} (hcatalog : ofApplications applications = .ok catalog) :
      MadeOf applications catalog
  | withDefault {catalog result : Catalog} {id : String} (hcatalog : MadeOf applications catalog)
      (hresult : catalog.withDefault id = .ok result) : MadeOf applications result
  | withFallback {catalog : Catalog} (hcatalog : MadeOf applications catalog)
      (fallback : Application) : MadeOf applications (catalog.withFallback fallback)

/-- In whatever way a catalog is made of applications, it holds just these, and their
identifiers are different. -/
theorem applications_of_madeOf (hcatalog : MadeOf applications catalog) :
    catalog.applications = applications ∧ catalog.IsDistinct := by
  induction hcatalog with
  | ofApplications hcatalog =>
      obtain ⟨hnodup, rfl⟩ := ofApplications_eq_ok_iff.mp hcatalog
      exact ⟨rfl, hnodup⟩
  | withDefault _ hresult ih =>
      obtain ⟨standard, -, -, rfl⟩ := (withDefault_eq_ok_iff ih.2).mp hresult
      exact ih
  | withFallback _ fallback ih => exact ih

/-! ## Entities -/

/-- What an application of the catalog declares is found under its identifier. -/
theorem exists_mapping_of_mem (hdistinct : catalog.IsDistinct) {entity : EntityDefinition}
    (happlication : application ∈ catalog.applications) (hentity : entity ∈ application.entities) :
    ∃ declared : EntityDefinition,
      catalog.mapping application.id entity.code = .ok declared.mapping := by
  have hresolved : catalog.resolve? application.id = some application :=
    (resolve?_eq_some_iff hdistinct).mpr ⟨rfl, .inl happlication⟩
  -- Codes may occur twice in an application, and then the first entity is the one found.
  obtain ⟨declared, hdeclared⟩ := Option.isSome_iff_exists.mp
    (List.find?_isSome (p := (·.code == entity.code)).mpr
      ⟨entity, hentity, beq_self_eq_true _⟩)
  refine ⟨declared, ?_⟩
  unfold mapping Application.entity?
  simp only [hresolved, hdeclared]

end ListQuery.Catalog
