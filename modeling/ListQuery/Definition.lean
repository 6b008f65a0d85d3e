import ListQuery.Application
import ListQuery.Files
import ListQuery.Files.Path
import ListQuery.Text.Blank
import ListQuery.Toml.Reader
import ListQuery.Wire.Application

/-!
# Accepting an application definition

A definition has to be readable and well formed: an application has an
identifier and entities, an entity has a code and fields, and every field has a
code.
-/

namespace ListQuery

/-! ## What can be wrong -/

/-- What can be wrong with a definition, or with several together. -/
inductive DefinitionFault where
  | blankId
  | noEntities (id : String)
  | blankEntityCode
  | noFields (entity : String)
  | blankFieldCode (entity fieldName : String)
  | duplicateId (id : String)
  | unknownDefault (id : String)
deriving DecidableEq

/-- The fault as text. -/
def DefinitionFault.message : DefinitionFault → String
  | .blankId => "appId must not be empty"
  | .noEntities id => "application " ++ id ++ " declares no entities"
  | .blankEntityCode => "entity code must not be empty"
  | .noFields entity => "entity " ++ entity ++ " declares no fields"
  | .blankFieldCode entity fieldName =>
    "entity " ++ entity ++ " has a field with an empty code (" ++ fieldName ++ ")"
  | .duplicateId id => "duplicate application id " ++ id
  | .unknownDefault id => "default application " ++ id ++ " is not registered"

/-- Why there is no application. -/
inductive DefinitionError where
  /-- The file is not there. -/
  | missing (path : String)
  /-- The file cannot be read. -/
  | unreadable (path : String) (failure : FileFailure)
  /-- The text is not that of a definition. -/
  | malformed
  | invalid (fault : DefinitionFault)
deriving DecidableEq

/-- The error as text. -/
def DefinitionError.message : DefinitionError → String
  | .missing path => "application file not found: " ++ path
  | .unreadable path failure => "failed to read " ++ path ++ ": " ++ failure.message
  | .malformed => "failed to parse application definition:"
  | .invalid fault => "invalid application definition: " ++ fault.message

/-! ## Checking a definition -/

/-- Whether a text has nothing but blanks. -/
def isBlankText (text : String) : Bool :=
  text.toList.all Text.isBlank

/-- The first fault of a declared entity, if it has one. -/
def EntityDefinition.fault? (entity : EntityDefinition) : Option DefinitionFault :=
  if isBlankText entity.code then some .blankEntityCode
  else if entity.fields.isEmpty then some (.noFields entity.code)
  else
    (entity.fields.find? fun field => isBlankText field.code).map fun field =>
      .blankFieldCode entity.code field.name

/-- The first fault of an application, if it has one. -/
def Application.fault? (application : Application) : Option DefinitionFault :=
  if isBlankText application.id then some .blankId
  else if application.entities.isEmpty then some (.noEntities application.id)
  else application.entities.findSome? EntityDefinition.fault?

/-- The application, if it has no fault. -/
def Application.check (application : Application) : Except DefinitionError Application :=
  match application.fault? with
  | some fault => .error (.invalid fault)
  | none => .ok application

/-- The application that a document defines. -/
def Application.ofDocument {σ : Type} [Wire.Document σ] (document : Option σ) :
    Except DefinitionError Application :=
  match document.bind Application.read? with
  | some application => application.check
  | none => .error .malformed

/-- The application that a JSON text defines. -/
def Application.ofJsonText (text : String) : Except DefinitionError Application :=
  Application.ofDocument (Json.Doc.read? text)

/-- The application that the text of a configuration file defines. -/
def Application.ofTomlText (text : String) : Except DefinitionError Application :=
  Application.ofDocument (Toml.read? text)

/-- The application that the text of a file defines; the extension of the file says
how it is written. -/
def Application.ofFileText (path text : String) : Except DefinitionError Application :=
  if Path.extension? path = some "toml" then ofTomlText text else ofJsonText text

/-- The error for a file that cannot be read. -/
def DefinitionError.ofFailure (path : String) : FileFailure → DefinitionError
  | .notFound => .missing path
  | failure => .unreadable path failure

/-- The application that a file defines. -/
def Application.load {m : Type → Type} [Monad m] [FileAccess m] (path : String) :
    m (Except DefinitionError Application) := do
  let content ← FileAccess.readText path
  return (content.mapError (DefinitionError.ofFailure path)).bind (ofFileText path)

end ListQuery
