import ListQuery.Json.Basic

/-!
# Rejections and failures

A request can be rejected for what it says, it can name something that is not
there, and its statement can fail to run.  The three have different codes, and
only the first two tell the caller their cause.
-/

namespace ListQuery

/-- Why a request is not acceptable. -/
structure Rejection where
  message : String
  /-- The part of the request that is at fault. -/
  field : Option String
  /-- Anything more there is to say. -/
  details : Option Json

/-- A rejection of a whole request. -/
def Rejection.general (message : String) : Rejection := ⟨message, none, none⟩

/-- A rejection of a part of a request. -/
def Rejection.ofField (field message : String) : Rejection := ⟨message, some field, none⟩

/-- The outcome of a list request that has no page. -/
inductive Failure where
  | rejected (rejection : Rejection)
  /-- What was named does not exist. -/
  | notFound (what : String)
  /-- The statement could not be run, or its result not be used. -/
  | execution (reason : String)

/-- What is told to the caller about a failure. -/
structure ErrorBody where
  error : String
  message : String
  details : Option Json

namespace Failure

/-- The failure as one line of text. -/
def display : Failure → String
  | .rejected rejection => "Validation error: " ++ rejection.message
  | .notFound what => "Not found: " ++ what
  | .execution reason => "Execution error: " ++ reason

/-- The status code of a response that reports the failure. -/
def status : Failure → Nat
  | .rejected _ => 400
  | .notFound _ => 404
  | .execution _ => 500

/-- The name of the kind of failure. -/
def code : Failure → String
  | .rejected _ => "VALIDATION_ERROR"
  | .notFound _ => "NOT_FOUND"
  | .execution _ => "EXECUTION_ERROR"

/-- The message in the body of a response.  It keeps silent about why a statement
failed, since that may tell how the database is set up. -/
def publicMessage : Failure → String
  | .rejected rejection => rejection.message
  | .notFound what => what
  | .execution _ => "failed to execute list query"

/-- The details in the body of a response. -/
def publicDetails : Failure → Option Json
  | .rejected ⟨_, none, none⟩ => none
  | .rejected ⟨_, field, details⟩ =>
    some (.object [("field", Json.ofText? field), ("details", details.getD .null)])
  | .notFound _ | .execution _ => none

/-- The body of a response that reports the failure. -/
def body (failure : Failure) : ErrorBody :=
  ⟨failure.code, failure.publicMessage, failure.publicDetails⟩

end Failure

end ListQuery
