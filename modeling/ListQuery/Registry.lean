import ListQuery.Catalog

/-!
# The catalog in effect

Requests are served from the catalog in effect, which may be replaced at any time.  Whoever
takes a catalog keeps it, so that a request goes on with the catalog it began with.
-/

namespace ListQuery

/-- The catalog in effect, and those that were taken, in the order in which they were. -/
structure Registry where
  current : Catalog
  held : List Catalog

namespace Registry

/-- A registry of a catalog that nobody has taken yet. -/
def ofCatalog (catalog : Catalog) : Registry := ⟨catalog, []⟩

/-- A registry without applications. -/
def empty : Registry := ofCatalog Catalog.empty

/-- The application that a request means by an identifier. -/
def application? (registry : Registry) (id : String) : Option Application :=
  registry.current.resolve? id

/-- What may happen to a registry. -/
inductive Step where
  /-- Another catalog comes into effect. -/
  | reload (catalog : Catalog)
  /-- The catalog in effect is taken. -/
  | hold

/-- The registry after a step. -/
def step (registry : Registry) : Step → Registry
  | .reload catalog => { registry with current := catalog }
  | .hold => { registry with held := registry.held ++ [registry.current] }

/-- The registry after several steps. -/
def steps (registry : Registry) (script : List Step) : Registry :=
  script.foldl step registry

end Registry

end ListQuery
