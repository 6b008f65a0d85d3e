import ListQuery.Context

/-!
# Settings of the service
-/

namespace ListQuery

/-- The settings of the service. -/
structure Settings where
  /-- The greatest page size that a request may ask for. -/
  maximumLimit : UInt32
  /-- The page size of a request that does not ask for one. -/
  defaultLimit : UInt32
  /-- How many milliseconds a statement may take. -/
  timeout : Option UInt64
  /-- How many characters of a failed statement are reported. -/
  reportedLength : Nat
deriving DecidableEq

/-- The settings if nothing is configured. -/
def Settings.standard : Settings :=
  ⟨standardMaximumPageSize, standardPageSize, none, 2048⟩

/-- The part of a statement that is reported when it fails. -/
def Settings.reported (settings : Settings) (sql : String) : String :=
  String.ofList (sql.toList.take settings.reportedLength)

end ListQuery
