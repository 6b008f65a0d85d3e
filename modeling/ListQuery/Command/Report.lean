import ListQuery.Configuration.File
import ListQuery.DatabaseUrl
import ListQuery.Json.Printer
import ListQuery.Mapping.Derivation
import ListQuery.Plan
import ListQuery.Styled

/-!
# What the commands report

A report is a list of lines.  Reports are about a plan and about a configuration
with its applications.
-/

namespace ListQuery

/-! ## Plans -/

namespace Plan

/-- The lines about bound values; `position` is the number of the first. -/
def parameterLines (position : Nat) : List Scalar → List StyledLine
  | [] => []
  | value :: rest =>
    [.plain "  ", .styled .label ("$" ++ Text.natText position),
        .plain (" = " ++ value.toJson.render)]
      :: parameterLines (position + 1) rest

/-- The report about a plan. -/
def report (plan : Plan) : List StyledLine :=
  let query := plan.query
  let parameters :=
    if query.parameters.isEmpty then [[.plain "  ", .styled .muted "(none)"]]
    else parameterLines 1 query.parameters
  let manner := if plan.customQueryApplied then "(custom query)" else "(generated)"
  [[.styled .heading "SQL"], [.plain ("  " ++ query.text)], [], [.styled .heading "Params"]]
    ++ parameters
    ++ [[], [.styled .label "List:", .plain (" " ++ plan.listCode ++ " "), .styled .muted manner]]

/-- The query of a plan as a JSON value. -/
def queryJson (plan : Plan) : Json :=
  .object [("text", .text plan.query.text),
    ("params", .array (plan.query.parameters.map Scalar.toJson))]

end Plan

/-! ## Applications -/

/-- The line about an entity. -/
def EntityDefinition.reportLine (entity : EntityDefinition) : StyledLine :=
  let mapping := entity.mapping
  let sort := String.intercalate ", " (mapping.defaultSort.map SortKey.field)
  [.plain ("      " ++ entity.code ++ " "),
    .styled .muted ("-> " ++ mapping.schema ++ ".\"" ++ mapping.table ++ "\""),
    .plain " ",
    .styled .muted (Text.natText mapping.visibleFields.length ++ " fields, sorted by "
      ++ (if sort.isEmpty then "-" else sort))]

/-- The lines about an application. -/
def Application.report (application : Application) (isDefault : Bool) : List StyledLine :=
  ([.plain "    ", .styled .label application.id]
      ++ if isDefault then [.styled .muted " (default)"] else [])
    :: application.entities.map EntityDefinition.reportLine

/-- The lines about the applications of a catalog, which are sorted by their
identifiers. -/
def Catalog.report (catalog : Catalog) : List StyledLine :=
  let sorted := catalog.applications.mergeSort fun a b => decide (a.id ≤ b.id)
  sorted.flatMap fun application =>
    application.report (catalog.standard.map Application.id == some application.id)

/-! ## Configurations -/

namespace Configuration

/-- The lines about the settings of the service. -/
def settingsLines (settings : Settings) : List StyledLine :=
  [[.plain "  ", .styled .label "Page size",
      .plain (": " ++ Text.natText settings.defaultLimit.toNat
        ++ " (max " ++ Text.natText settings.maximumLimit.toNat ++ ")")]]
    ++ match settings.timeout with
      | some milliseconds =>
        [[.plain "  ", .styled .label "Statement timeout",
          .plain (": " ++ Text.natText milliseconds.toNat ++ "ms")]]
      | none => []

/-- The line about something that is checked, with the result. -/
def checkedLine (subject : String) (result : Span) : StyledLine :=
  [.plain "  ", .styled .label "Checking", .plain (" " ++ subject ++ "... "), result]

/-- The lines about the applications. -/
def catalogLines : Except ConfigurationError Catalog → List StyledLine
  | .ok catalog => checkedLine "Applications" (.styled .good "OK") :: catalog.report
  | .error error =>
    [checkedLine "Applications" (.styled .bad "ERROR"), [.plain ("    " ++ error.message)]]

/-- The lines about the database. -/
def databaseLines (maximumConnections : UInt32) : Option String → List StyledLine
  | some url => [checkedLine "Database" (.styled .good "OK"),
      [.plain "    ", .styled .label "PostgreSQL", .plain (": " ++ DatabaseUrl.masked url)],
      [.plain "    ", .styled .label "Max connections",
        .plain (": " ++ Text.natText maximumConnections.toNat)]]
  | none => [checkedLine "Database" (.styled .warning "NOT SET")]

/-- The lines with the result of a check. -/
def verdictLines (url : Option String) : Except ConfigurationError Catalog → List StyledLine
  | .error _ => [[.styled .bad "Configuration has errors."]]
  | .ok _ => match url with
    | some _ => [[.styled .success "Configuration OK."]]
    | none => [[.styled .warning "1 warning(s):"], [.plain "  - No database URL (needed for list)"]]

/-- The report about a configuration and the catalog that it leads to. -/
def report (configuration : Configuration) (environment : Environment)
    (catalog : Except ConfigurationError Catalog) : List StyledLine :=
  let url := configuration.databaseUrl? environment
  [[.styled .heading "Checking configuration..."], []] ++ settingsLines configuration.settings
    ++ [[]] ++ catalogLines catalog
    ++ [[]] ++ databaseLines configuration.database.maximumConnections url
    ++ [[]] ++ verdictLines url catalog

end Configuration

end ListQuery
