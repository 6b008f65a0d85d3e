import ListQuery.Catalog
import ListQuery.Files.Path
import ListQuery.Toml.Reader
import ListQuery.Wire.Configuration

/-!
# Configuration files

The application definitions that a configuration file names are found from the
directory of that file.
-/

namespace ListQuery

/-! ## Why there is no configuration -/

/-- Why there is no configuration. -/
inductive ConfigurationError where
  /-- The file is not there. -/
  | missing (path : String)
  /-- The file cannot be read. -/
  | unreadable (path : String) (failure : FileFailure)
  /-- The text is not that of a configuration. -/
  | malformed (path : String)
  | invalid (fault : ConfigurationFault)
  /-- An application that it names cannot be had. -/
  | definition (error : DefinitionError)
deriving DecidableEq

namespace ConfigurationError

/-- The error as text. -/
def message : ConfigurationError → String
  | .missing path => "config not found: " ++ path
  | .unreadable path failure => "failed to read " ++ path ++ ": " ++ failure.message
  | .malformed path => "failed to parse " ++ path ++ ":"
  | .invalid fault => "invalid config: " ++ fault.message
  | .definition error => error.message

/-- The error for a file that cannot be read. -/
def ofFailure (path : String) : FileFailure → ConfigurationError
  | .notFound => .missing path
  | failure => .unreadable path failure

end ConfigurationError

namespace Configuration

/-! ## Reading a configuration -/

/-- The configuration file that is used if none is named. -/
def standardPath : String := "dynlist.toml"

/-- The configuration that the text of a file describes. -/
def ofText (path text : String) : Except ConfigurationError Configuration :=
  match (Toml.read? text).bind read? with
  | none => .error (.malformed path)
  | some configuration =>
    match configuration.fault? with
    | some fault => .error (.invalid fault)
    | none => .ok configuration

/-- The configuration that a file describes. -/
def load {m : Type → Type} [Monad m] [FileAccess m] (path : String) :
    m (Except ConfigurationError Configuration) := do
  let content ← FileAccess.readText path
  return (content.mapError (ConfigurationError.ofFailure path)).bind (ofText path)

/-! ## Reading the applications -/

/-- The paths of the application definitions, the configuration being in a directory. -/
def applicationPaths (configuration : Configuration) (directory : String) : List String :=
  configuration.applications.map (Path.join directory)

/-- The applications in some files, up to the first that cannot be had. -/
def loadApplications {m : Type → Type} [Monad m] [FileAccess m] :
    List String → m (Except DefinitionError (List Application))
  | [] => return .ok []
  | path :: rest => do
    match ← Application.load path with
    | .error error => return .error error
    | .ok application => return (← loadApplications rest).map (application :: ·)

/-- The catalog of applications, with the one by default that is configured. -/
def catalogOf (configuration : Configuration) (applications : List Application) :
    Except DefinitionError Catalog := do
  let catalog ← Catalog.ofApplications applications
  match configuration.defaultApplication with
  | some id => catalog.withDefault id
  | none => return catalog

/-- The catalog of the applications in the files that a configuration names. -/
def loadCatalog {m : Type → Type} [Monad m] [FileAccess m] (configuration : Configuration)
    (directory : String) : m (Except ConfigurationError Catalog) := do
  let applications ← loadApplications (configuration.applicationPaths directory)
  return (applications.bind configuration.catalogOf).mapError .definition

end Configuration

end ListQuery
