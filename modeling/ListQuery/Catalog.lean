import ListQuery.Definition

/-!
# The applications that lists can be asked of

A catalog holds applications under their identifiers and may have one that is
used by default.  The default can also be an application of its own, a fallback,
which is then found under its identifier as well.
-/

namespace ListQuery

/-- The applications at hand. -/
structure Catalog where
  /-- The applications in the order in which they were given. -/
  applications : List Application
  /-- The application by default. -/
  standard : Option Application
deriving DecidableEq

namespace Catalog

/-- No applications. -/
def empty : Catalog := ⟨[], none⟩

/-- The application that is held under an identifier. -/
def find? (catalog : Catalog) (id : String) : Option Application :=
  catalog.applications.find? (·.id == id)

/-- The catalog with another application, whose identifier must be new.  The first
one is the default. -/
def add (catalog : Catalog) (application : Application) : Except DefinitionError Catalog :=
  if (catalog.find? application.id).isSome then .error (.invalid (.duplicateId application.id))
  else .ok ⟨catalog.applications ++ [application], some (catalog.standard.getD application)⟩

/-- The catalog of several applications. -/
def ofApplications (applications : List Application) : Except DefinitionError Catalog :=
  applications.foldlM add empty

/-- The catalog with one of its applications as the default. -/
def withDefault (catalog : Catalog) (id : String) : Except DefinitionError Catalog :=
  match catalog.find? id with
  | some application => .ok { catalog with standard := some application }
  | none => .error (.invalid (.unknownDefault id))

/-- The catalog with an application as the default that it need not hold. -/
def withFallback (catalog : Catalog) (application : Application) : Catalog :=
  { catalog with standard := some application }

/-- The application that a request means by an identifier: the one held under it, or
else the default if that is its identifier. -/
def resolve? (catalog : Catalog) (id : String) : Option Application :=
  match catalog.find? id with
  | some application => some application
  | none => catalog.standard.filter (·.id == id)

/-- The catalog that definitions describe.  The texts are read in their order, and
the default and the fallback are looked at after them. -/
def ofDefinitions (definitions : List String) (standard fallback : Option String) :
    Except DefinitionError Catalog := do
  let applications ← definitions.mapM Application.ofJsonText
  let catalog ← ofApplications applications
  let catalog ← match standard with
    | some id => catalog.withDefault id
    | none => pure catalog
  match fallback with
  | some definition => return catalog.withFallback (← Application.ofJsonText definition)
  | none => return catalog

end Catalog

end ListQuery
