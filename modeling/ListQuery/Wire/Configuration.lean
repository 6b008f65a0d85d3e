import ListQuery.Configuration
import ListQuery.Wire.Document

/-!
# Configurations as documents
-/

namespace ListQuery

open Wire

/-- The access to the database that a document describes. -/
def DatabaseAccess.read? {σ : Type} [Document σ] (value : σ) : Option DatabaseAccess := do
  let parts ← parts? ["url", "maxConnections"] value
  let url ← parts.optional "url" text?
  let maximumConnections ← parts.withDefault "maxConnections" standard.maximumConnections uint32?
  return ⟨url, maximumConnections⟩

/-- The replaced settings that a document describes. -/
def SettingsOverride.read? {σ : Type} [Document σ] (value : σ) : Option SettingsOverride := do
  let parts ← parts? ["maxLimit", "defaultLimit", "statementTimeoutMs", "logStatementMaxLen"] value
  let maximumLimit ← parts.optional "maxLimit" uint32?
  let defaultLimit ← parts.optional "defaultLimit" uint32?
  let timeout ← parts.optional "statementTimeoutMs" uint64?
  let reportedLength ← parts.optional "logStatementMaxLen" uint64?
  return ⟨maximumLimit, defaultLimit, timeout, reportedLength⟩

/-- The configuration that a document describes. -/
def Configuration.read? {σ : Type} [Document σ] (value : σ) : Option Configuration := do
  let parts ← parts? ["applications", "defaultApp", "database", "engine"] value
  let applications ← parts.withDefault "applications" [] (list? text?)
  let defaultApplication ← parts.optional "defaultApp" text?
  let database ← parts.withDefault "database" .standard DatabaseAccess.read?
  let settingsOverride ← parts.withDefault "engine" .nothing SettingsOverride.read?
  return ⟨applications, defaultApplication, database, settingsOverride⟩

end ListQuery
