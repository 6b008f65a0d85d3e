import ListQuery.Context
import ListQuery.Wire.Document

/-!
# Contexts as documents

For each part of a context there is a reader over any kind of document and a
writer to a JSON value.  Members without a value are left out when written.
-/

namespace ListQuery

open Wire

/-! ## Scalars and operands -/

/-- The scalar that a document is. -/
def Scalar.read? {σ : Type} [Document σ] (value : σ) : Option Scalar :=
  match Document.view? value with
  | some .null => some .null
  | some (.bool value) => some (.bool value)
  | some (.number value) => some (.ofNumber value)
  | some (.text value) => some (.text value)
  | some (.items _) | some (.members _) | none => none

/-- The operand that a document is: a scalar, a list of scalars, or a record of
scalars in which the last entry of a name counts. -/
def Operand.read? {σ : Type} [Document σ] (value : σ) : Option Operand :=
  match Document.view? value with
  | some (.items items) => (items.mapM Scalar.read?).map .list
  | some (.members members) => do
    let entries ← members.mapM fun (name, value) => do return (← name, ← Scalar.read? value)
    return .record (Json.orderedMembers entries)
  | _ => (Scalar.read? value).map .scalar

/-- The JSON value of an operand. -/
def Operand.toJson : Operand → Json
  | .scalar value => value.toJson
  | .list values => .array (values.map Scalar.toJson)
  | .record entries => .object (entries.map fun (name, value) => (name, value.toJson))

/-! ## Names of choices -/

namespace Direction

/-- Both directions. -/
def all : List Direction := [.ascending, .descending]

/-- The name of a direction in a request. -/
def name : Direction → String
  | .ascending => "asc"
  | .descending => "desc"

end Direction

namespace NullPlacement

/-- Every placement. -/
def all : List NullPlacement := [.first, .last, .standard]

/-- The name of a placement in a request. -/
def name : NullPlacement → String
  | .first => "first"
  | .last => "last"
  | .standard => "default"

end NullPlacement

namespace SearchMode

/-- Every mode. -/
def all : List SearchMode := [.anywhere, .atStart, .whole]

/-- The name of a mode in a request. -/
def name : SearchMode → String
  | .anywhere => "contains"
  | .atStart => "prefix"
  | .whole => "exact"

end SearchMode

namespace PageDirection

/-- Both directions. -/
def all : List PageDirection := [.forward, .backward]

/-- The name of a direction in a request. -/
def name : PageDirection → String
  | .forward => "forward"
  | .backward => "backward"

end PageDirection

/-! ## Filters, sorts and searches -/

/-- The filter that a document is. -/
def Filter.read? {σ : Type} [Document σ] (value : σ) : Option Filter := do
  let parts ← parts? ["field", "operator", "value", "negate", "context"] value
  let field ← parts.required "field" text?
  let operator ← parts.required "operator" (choice? FilterOperator.all FilterOperator.name)
  let operand ← parts.optional "value" Operand.read?
  let negate ← parts.withDefault "negate" false bool?
  let context ← parts.optional "context" text?
  return ⟨field, operator, operand, negate, context⟩

/-- The JSON value of a filter. -/
def Filter.toJson (filter : Filter) : Json :=
  .object ([("field", .text filter.field), ("operator", .text filter.operator.name)]
    ++ memberOf? "value" Operand.toJson filter.value
    ++ [("negate", .bool filter.negate)]
    ++ memberOf? "context" .text filter.context)

/-- The sort that a document is. -/
def SortKey.read? {σ : Type} [Document σ] (value : σ) : Option SortKey := do
  let parts ← parts? ["field", "direction", "nulls", "context"] value
  let field ← parts.required "field" text?
  let direction ← parts.required "direction" (choice? Direction.all Direction.name)
  let nulls ← parts.optional "nulls" (choice? NullPlacement.all NullPlacement.name)
  let context ← parts.optional "context" text?
  return ⟨field, direction, nulls, context⟩

/-- The JSON value of a sort. -/
def SortKey.toJson (sort : SortKey) : Json :=
  .object ([("field", .text sort.field), ("direction", .text sort.direction.name)]
    ++ memberOf? "nulls" (fun nulls => .text nulls.name) sort.nulls
    ++ memberOf? "context" .text sort.context)

/-- The search that a document is. -/
def Search.read? {σ : Type} [Document σ] (value : σ) : Option Search := do
  let parts ← parts? ["term", "fields", "mode"] value
  let term ← parts.required "term" text?
  let fields ← parts.optional "fields" (list? text?)
  let mode ← parts.optional "mode" (choice? SearchMode.all SearchMode.name)
  return ⟨term, fields, mode⟩

/-- The JSON value of a search. -/
def Search.toJson (search : Search) : Json :=
  .object ([("term", .text search.term)]
    ++ memberOf? "fields" Json.ofTexts search.fields
    ++ memberOf? "mode" (fun mode => .text mode.name) search.mode)

/-! ## Pages and contexts -/

/-- The page that a document asks for. -/
def PageRequest.read? {σ : Type} [Document σ] (value : σ) : Option PageRequest := do
  let parts ← parts? ["direction", "after", "before", "limit"] value
  let direction ←
    parts.withDefault "direction" .forward (choice? PageDirection.all PageDirection.name)
  let after ← parts.optional "after" text?
  let before ← parts.optional "before" text?
  let limit ← parts.withDefault "limit" standardPageSize uint32?
  return ⟨direction, after, before, limit⟩

/-- The JSON value of a page request. -/
def PageRequest.toJson (page : PageRequest) : Json :=
  .object ([("direction", .text page.direction.name)]
    ++ memberOf? "after" .text page.after
    ++ memberOf? "before" .text page.before
    ++ [("limit", .ofNat page.limit.toNat)])

/-- The names of the members of a context, in their order. -/
def Context.memberNames : List String :=
  ["listCode", "filters", "sorts", "pagination", "search", "viewPreferences", "session"]

/-- The context that a document is. -/
def Context.read? {σ : Type} [JsonDocument σ] (value : σ) : Option Context := do
  let parts ← parts? memberNames value
  let listCode ← parts.optional "listCode" text?
  let filters ← parts.withDefault "filters" [] (list? Filter.read?)
  let sorts ← parts.withDefault "sorts" [] (list? SortKey.read?)
  let page ← parts.withDefault "pagination" .standard PageRequest.read?
  let search ← parts.optional "search" Search.read?
  let viewPreferences ← parts.optional "viewPreferences" (jsonObject? 1)
  let session ← parts.optional "session" (jsonObject? 1)
  return ⟨listCode, filters, sorts, page, search, viewPreferences, session⟩

/-- The JSON value of a context. -/
def Context.toJson (context : Context) : Json :=
  .object (memberOf? "listCode" .text context.listCode
    ++ [("filters", .array (context.filters.map Filter.toJson)),
      ("sorts", .array (context.sorts.map SortKey.toJson)),
      ("pagination", context.page.toJson)]
    ++ memberOf? "search" Search.toJson context.search
    ++ memberOf? "viewPreferences" .object context.viewPreferences
    ++ memberOf? "session" .object context.session)

end ListQuery
