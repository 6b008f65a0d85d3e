import ListQuery.Command
import ListQuery.Command.Report
import ListQuery.Configuration.Template
import ListQuery.Request
import ListQuery.Text.Lines

/-!
# Doing what a command line asks for

The commands need files and variables of the environment, but no database: to run
the statement of a list is more than this library does.
-/

namespace ListQuery

/-! ## Outcomes -/

/-- Why a command failed. -/
inductive CommandError where
  | configuration (error : ConfigurationError)
  | list (failure : Failure)
  /-- The file with a context cannot be read. -/
  | unreadableContext (path : String) (failure : FileFailure)
  | unwritable (failure : FileFailure)
  /-- No application is named, and none is the default. -/
  | noApplication
  | noDatabase
  | alreadyConfigured
  | checkFailed

/-- The error as text. -/
def CommandError.message : CommandError → String
  | .configuration error => "Configuration error: " ++ error.message
  | .list failure => failure.display
  | .unreadableContext path failure => "I/O error: " ++ path ++ ": " ++ failure.message
  | .unwritable failure => "I/O error: " ++ failure.message
  | .noApplication => "No application given and no default application configured"
  | .noDatabase =>
    "No database URL: set [database] url in " ++ Configuration.standardPath ++ " or DATABASE_URL"
  | .alreadyConfigured =>
    Configuration.standardPath ++ " already exists. Delete it first to reinitialize."
  | .checkFailed => "config check failed"

/-- What the program leaves behind when it ends. -/
structure Outcome where
  status : UInt32
  output : String
  errors : String
deriving DecidableEq

/-- The line about an error. -/
def CommandError.report (error : CommandError) : StyledLine :=
  [.styled .alarm "Error:", .plain (" " ++ error.message)]

namespace Outcome

/-- A command that did what it should. -/
def success (output : String) : Outcome := ⟨0, output, ""⟩

/-- A command that failed after some output. -/
def failure (colored : Bool) (output : String) (error : CommandError) : Outcome :=
  ⟨1, output, StyledLine.renderAll colored [error.report]⟩

/-- A command line that asks for nothing. -/
def misuse (error : UsageError) : Outcome :=
  ⟨2, "", "error: " ++ error.message ++ "\n"⟩

end Outcome

/-! ## What commands need -/

section

variable {m : Type → Type} [Monad m] [FileAccess m]

/-- A catalog with the configuration that it belongs to. -/
structure Configured where
  configuration : Configuration
  catalog : Catalog

namespace Command

/-- A result as the step of a command. -/
def require {α ε : Type} (error : ε → CommandError) (result : Except ε α) :
    ExceptT CommandError m α :=
  ExceptT.mk (pure (result.mapError error))

/-- The configuration in a file. -/
def configuration (path : String) : ExceptT CommandError m Configuration :=
  ExceptT.mk do return (← Configuration.load path).mapError .configuration

/-- The configuration in a file and its catalog. -/
def configured (path : String) : ExceptT CommandError m Configured := do
  let configuration ← configuration path
  let catalog ← ExceptT.mk do
    return (← configuration.loadCatalog (Path.parent path)).mapError .configuration
  return ⟨configuration, catalog⟩

/-- The application that is meant: the named one, or else the default. -/
def application (catalog : Catalog) (named : Option String) : Except CommandError String :=
  match named.or (catalog.standard.map Application.id) with
  | some id => .ok id
  | none => .error .noApplication

/-- The text of a context: the one that is given, or that of the file that is named
after an at sign. -/
def contextText (given : String) : ExceptT CommandError m String :=
  match given.toList with
  | '@' :: path =>
    let path := String.ofList path
    ExceptT.mk do return (← FileAccess.readText path).mapError (.unreadableContext path)
  | _ => return given

/-- The context of a list. -/
def context (given : Option String) (limit : UInt32) : ExceptT CommandError m Context := do
  let text ← match given with
    | none => pure none
    | some given => some <$> contextText given
  require (fun fault => .list (.rejected fault.rejection))
    (Context.ofGiven (text.map Json.text) limit)

/-! ## Commands -/

/-- Shows the statement of a list. -/
def runRender (colored : Bool) (path : String) (target : ListTarget) (asJson : Bool) :
    ExceptT CommandError m String := do
  let ⟨configuration, catalog⟩ ← configured path
  let application ← require id (application catalog target.application)
  let settings := configuration.settings
  let context ← context target.context settings.defaultLimit
  let planned := Planner.plan ⟨catalog, .empty, settings⟩ application target.entity context
  let plan ← require .list planned.outcome
  return if asJson then plan.queryJson.renderIndented ++ "\n"
    else StyledLine.renderAll colored plan.report

/-- Sees to it that the statement of a list could be sent, and then gives up. -/
def runList (environment : Environment) (path : String) (target : ListTarget) :
    ExceptT CommandError m String := do
  let ⟨configuration, catalog⟩ ← configured path
  let _ ← require id (application catalog target.application)
  let _ ← require id
    (((configuration.databaseUrl? environment).map Except.ok).getD (.error .noDatabase))
  let _ ← context target.context configuration.settings.defaultLimit
  throw (.list (.execution "no database can be reached"))

/-- What is written about a new configuration. -/
def initReport (application : String) : List StyledLine :=
  [[.styled .success ("Created " ++ Configuration.standardPath)], [],
    [.plain "Next steps:"],
    [.plain ("  1. Describe your entities in " ++ application)],
    [.plain ("  2. Set the database url in " ++ Configuration.standardPath ++ " or DATABASE_URL")],
    [.plain "  3. Run ", .styled .heading "dynlist check", .plain " to validate the setup"]]

/-- Writes a new configuration. -/
def runInit (colored : Bool) (application : String) : ExceptT CommandError m String := do
  if ← (FileAccess.pathExists Configuration.standardPath : m Bool) then throw .alreadyConfigured
  ExceptT.mk do
    let text := Configuration.template application
    return (← FileAccess.writeText Configuration.standardPath text).mapError .unwritable
  return StyledLine.renderAll colored (initReport application)

/-- The name and the version of the program. -/
def versionText : String := "dynlist 0.1.5"

/-- Looks whether the configuration and the applications are in order. -/
def runCheck (environment : Environment) (colored : Bool) (path : String) : m Outcome := do
  match ← Configuration.load path with
  | .error error => return .failure colored "" (.configuration error)
  | .ok configuration =>
    let catalog ← configuration.loadCatalog (Path.parent path)
    let output := StyledLine.renderAll colored (configuration.report environment catalog)
    match catalog with
    | .ok _ => return .success output
    | .error _ => return .failure colored output .checkFailed

/-- The outcome of a command that either has an output or fails. -/
def outcomeOf (colored : Bool) (command : ExceptT CommandError m String) : m Outcome := do
  match ← command.run with
  | .ok output => return .success output
  | .error error => return .failure colored "" error

end Command

/-- Does what is asked for, and writes with or without control sequences. -/
def Invocation.run (environment : Environment) (colored : Bool) (invocation : Invocation) :
    m Outcome :=
  let path := invocation.configuration.getD Configuration.standardPath
  match invocation.command with
  | .render target asJson =>
    Command.outcomeOf colored (Command.runRender colored path target asJson)
  | .list target => Command.outcomeOf colored (Command.runList environment path target)
  | .check => Command.runCheck environment colored path
  | .init application => Command.outcomeOf colored (Command.runInit colored application)
  | .version => return .success (Text.ofLines [Command.versionText])

/-! ## The program -/

/-- The file with variables that is read first. -/
def environmentPath : String := ".env"

/-- The environment with the variables of the file, if it is there. -/
def Environment.load (environment : Environment) : m Environment := do
  match ← FileAccess.readBytes environmentPath with
  | .ok content => return environment.addFile content
  | .error _ => return environment

/-- Runs the program with some arguments; `toTerminal` tells where its output goes. -/
def runProgram (environment : Environment) (toTerminal : Bool) (arguments : List String) :
    m Outcome := do
  let environment ← environment.load
  match Invocation.ofArguments arguments with
  | .ok invocation => invocation.run environment (environment.allowsColors toTerminal)
  | .error error => return .misuse error

end

end ListQuery
