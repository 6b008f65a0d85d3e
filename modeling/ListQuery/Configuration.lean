import ListQuery.Environment
import ListQuery.Settings
import ListQuery.Text.Decimal

/-!
# Configuring the program

A configuration names the application definitions, and it may say which
application is meant if none is named, how the database is reached, and how the
settings of the service deviate from the standard ones.
-/

namespace ListQuery

/-! ## What can be configured -/

/-- How the database is reached. -/
structure DatabaseAccess where
  url : Option String
  maximumConnections : UInt32
deriving DecidableEq

/-- The access to the database if nothing is configured. -/
def DatabaseAccess.standard : DatabaseAccess := ⟨none, 5⟩

/-- What takes the place of the standard settings. -/
structure SettingsOverride where
  maximumLimit : Option UInt32
  defaultLimit : Option UInt32
  /-- In milliseconds. -/
  timeout : Option UInt64
  reportedLength : Option UInt64
deriving DecidableEq

/-- Every setting stays as it is. -/
def SettingsOverride.nothing : SettingsOverride := ⟨none, none, none, none⟩

/-- A configuration. -/
structure Configuration where
  /-- The files with the application definitions. -/
  applications : List String
  /-- The application that is meant if none is named. -/
  defaultApplication : Option String
  database : DatabaseAccess
  settingsOverride : SettingsOverride
deriving DecidableEq

/-! ## What follows from a configuration -/

/-- The settings with some of them replaced. -/
def SettingsOverride.apply (override : SettingsOverride) (settings : Settings) : Settings where
  maximumLimit := override.maximumLimit.getD settings.maximumLimit
  defaultLimit := override.defaultLimit.getD settings.defaultLimit
  timeout := override.timeout.or settings.timeout
  reportedLength := (override.reportedLength.map UInt64.toNat).getD settings.reportedLength

namespace Configuration

/-- The settings of the service. -/
def settings (configuration : Configuration) : Settings :=
  configuration.settingsOverride.apply Settings.standard

/-- The variables that can hold the URL of the database, the one that counts more
first. -/
def urlVariables : List String := ["DATABASE_URL", "APP_DATABASE_URL"]

/-- The URL of the database: the configured one, or else the one in the environment,
where an empty text is as good as none. -/
def databaseUrl? (configuration : Configuration) (environment : Environment) : Option String :=
  configuration.database.url.or
    (urlVariables.findSome? fun name => (environment.lookup name).filter fun url => !url.isEmpty)

end Configuration

/-! ## What can be wrong -/

/-- What can be wrong with a configuration. -/
inductive ConfigurationFault where
  | noApplications
  | noConnections
  | noMaximumLimit
  | defaultLimitOutOfRange (maximum : UInt32)
deriving DecidableEq

/-- The fault as text. -/
def ConfigurationFault.message : ConfigurationFault → String
  | .noApplications => "at least one application file is required"
  | .noConnections => "database.maxConnections must be at least 1"
  | .noMaximumLimit => "engine.maxLimit must be at least 1"
  | .defaultLimitOutOfRange maximum =>
    "engine.defaultLimit must be between 1 and " ++ Text.natText maximum.toNat

/-- The first fault of a configuration, if it has one.  A default page size is looked
at only if it is configured. -/
def Configuration.fault? (configuration : Configuration) : Option ConfigurationFault :=
  let maximum := configuration.settings.maximumLimit
  if configuration.applications.isEmpty then some .noApplications
  else if configuration.database.maximumConnections = 0 then some .noConnections
  else if maximum = 0 then some .noMaximumLimit
  else match configuration.settingsOverride.defaultLimit with
    | some limit =>
      if 1 ≤ limit ∧ limit ≤ maximum then none else some (.defaultLimitOutOfRange maximum)
    | none => none

end ListQuery
