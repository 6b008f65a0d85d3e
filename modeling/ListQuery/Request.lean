import ListQuery.Text.Blank
import ListQuery.Wire.Context

/-!
# List requests

A request is an object that names an application and gives a context, either as
an object, or as the JSON text of one, or not at all.  A context that does not
say how long a page is gets the page size that is configured.
-/

namespace ListQuery

/-- A list request. -/
structure Request where
  applicationCode : String
  context : Context

/-- What can be wrong with a request. -/
inductive RequestFault where
  | notJson
  | notObject
  | noApplicationCode
  /-- The context is a text but not a JSON text. -/
  | contextNotJson
  /-- The context is the text of something else than an object. -/
  | contextTextNotObject
  /-- The context is neither an object nor a text. -/
  | contextNotObject
  /-- A member of the context is not what it should be. -/
  | contextMismatch
deriving DecidableEq

/-- The rejection of a request with a fault. -/
def RequestFault.rejection : RequestFault → Rejection
  | .notJson => .general "Invalid request JSON:"
  | .notObject => .general "request body must be a JSON object"
  | .noApplicationCode => .ofField "appCode" "appCode must be a non-empty string"
  | .contextNotJson =>
    ⟨"Invalid context JSON", some "context", some (.text "the text is not a JSON text")⟩
  | .contextTextNotObject => .ofField "context" "context must be a JSON object"
  | .contextNotObject => .ofField "context" "context must be an object or a JSON string"
  | .contextMismatch =>
    ⟨"context does not match the list context schema", some "context",
      some (.text "a member is missing or has an unexpected form")⟩

/-! ## Contexts -/

namespace Context

/-- The members of a page request with a limit, if they had none. -/
def pageWithLimit (limit : UInt32) (members : List (String × Json)) : List (String × Json) :=
  match Json.member? "limit" members with
  | some _ => members
  | none => Json.insertMember "limit" (.ofNat limit.toNat) members

/-- The members of a context with a limit in its page request, if that is an object
without one, or null, or absent. -/
def membersWithLimit (limit : UInt32) (members : List (String × Json)) : List (String × Json) :=
  match Json.member? "pagination" members with
  | none | some .null => Json.insertMember "pagination" (.object (pageWithLimit limit [])) members
  | some (.object page) =>
    Json.insertMember "pagination" (.object (pageWithLimit limit page)) members
  | some _ => members

/-- The members that a context is given by. -/
def givenMembers : Option Json → Except RequestFault (List (String × Json))
  | none | some .null => .ok []
  | some (.text text) =>
    if text.toList.all Text.isBlank then .ok []
    else
      match Json.read? text with
      | some (.object members) => .ok members
      | some _ => .error .contextTextNotObject
      | none => .error .contextNotJson
  | some (.object members) => .ok members
  | some _ => .error .contextNotObject

/-- The context that a request gives, whose page has the given limit unless it says
otherwise. -/
def ofGiven (given : Option Json) (limit : UInt32) : Except RequestFault Context := do
  let members ← givenMembers given
  match Context.read? (Json.object (membersWithLimit limit members)) with
  | some context => return context
  | none => throw .contextMismatch

end Context

/-! ## Whole requests -/

namespace Request

/-- The request that a JSON value is. -/
def ofJson (body : Json) (limit : UInt32) : Except RequestFault Request := do
  let .object members := body | throw .notObject
  let code ← match Json.member? "appCode" members with
    | some (.text code) => if code.isEmpty then throw .noApplicationCode else pure code
    | _ => throw .noApplicationCode
  let context ← Context.ofGiven (Json.member? "context" members) limit
  return ⟨code, context⟩

/-- The request that a text is. -/
def ofText (body : String) (limit : UInt32) : Except RequestFault Request :=
  match Json.read? body with
  | some body => ofJson body limit
  | none => .error .notJson

end Request

end ListQuery
