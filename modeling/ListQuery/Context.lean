import ListQuery.Ordering
import ListQuery.Rejection
import ListQuery.Scalar

/-!
# What a caller asks of a list

A context says which rows of an entity are wanted, in which order, and which
page of them.  It is purely declarative: names in it are names of fields, and
whether such fields exist is not its concern.
-/

namespace ListQuery

/-! ## Filters -/

/-- How a filter compares a field with its operand. -/
inductive FilterOperator where
  | equals | notEquals
  | within | notWithin
  | less | lessOrEqual | greater | greaterOrEqual
  | between
  | contains | startsWith | endsWith
  | isNull | isNotNull
  /-- Left to an amendment of the list. -/
  | custom
deriving DecidableEq

namespace FilterOperator

/-- Every operator. -/
def all : List FilterOperator :=
  [.equals, .notEquals, .within, .notWithin, .less, .lessOrEqual, .greater, .greaterOrEqual,
    .between, .contains, .startsWith, .endsWith, .isNull, .isNotNull, .custom]

/-- The name of an operator in a request. -/
def name : FilterOperator → String
  | .equals => "equals"
  | .notEquals => "not_equals"
  | .within => "in"
  | .notWithin => "not_in"
  | .less => "lt"
  | .lessOrEqual => "lte"
  | .greater => "gt"
  | .greaterOrEqual => "gte"
  | .between => "between"
  | .contains => "contains"
  | .startsWith => "starts_with"
  | .endsWith => "ends_with"
  | .isNull => "is_null"
  | .isNotNull => "is_not_null"
  | .custom => "custom"

end FilterOperator

/-- What a filter compares with. -/
inductive Operand where
  | scalar (value : Scalar)
  | list (values : List Scalar)
  /-- Named values, each name once. -/
  | record (entries : List (String × Scalar))
deriving DecidableEq

/-- The name of an operand's shape in error messages. -/
def Operand.kind : Operand → String
  | .scalar _ => "scalar"
  | .list _ => "array"
  | .record _ => "object"

/-- A condition on one field. -/
structure Filter where
  field : String
  operator : FilterOperator
  value : Option Operand
  negate : Bool
  /-- A remark that the caller attaches and nothing reads. -/
  context : Option String
deriving DecidableEq

/-! ## Sorting and searching -/

/-- One level of the wanted order. -/
structure SortKey where
  field : String
  direction : Direction
  nulls : Option NullPlacement
  /-- A remark that the caller attaches and nothing reads. -/
  context : Option String
deriving DecidableEq

/-- An ascending sort without further wishes. -/
def SortKey.ascending (field : String) : SortKey := ⟨field, .ascending, none, none⟩

/-- Where the search term has to stand in a text. -/
inductive SearchMode where
  | anywhere
  | atStart
  /-- It has to be the whole text. -/
  | whole
deriving DecidableEq

/-- A search through the texts of a row. -/
structure Search where
  term : String
  /-- The fields to look at, if not all searchable ones. -/
  fields : Option (List String)
  mode : Option SearchMode
deriving DecidableEq

/-! ## Pages -/

/-- Whether a page follows its cursor or precedes it. -/
inductive PageDirection where
  | forward
  | backward
deriving DecidableEq

/-- The page that is wanted. -/
structure PageRequest where
  direction : PageDirection
  after : Option String
  before : Option String
  limit : UInt32
deriving DecidableEq

/-- The page size if nothing else is said anywhere. -/
def standardPageSize : UInt32 := 50

/-- The greatest page size if nothing else is said anywhere. -/
def standardMaximumPageSize : UInt32 := 500

/-- The first page of the standard size. -/
def PageRequest.standard : PageRequest := ⟨.forward, none, none, standardPageSize⟩

/-- The cursor that counts in the page's direction, which an empty text is not. -/
def PageRequest.activeCursor (page : PageRequest) : Option String :=
  let cursor := match page.direction with
    | .forward => page.after
    | .backward => page.before
  cursor.filter fun text => !text.isEmpty

/-! ## The whole request -/

/-- What a caller asks of a list. -/
structure Context where
  listCode : Option String
  filters : List Filter
  sorts : List SortKey
  page : PageRequest
  search : Option Search
  /-- Settings of the caller's display, kept for it. -/
  viewPreferences : Option (List (String × Json))
  /-- The caller's session, kept for it. -/
  session : Option (List (String × Json))

namespace Context

/-- The context of a caller who asks for nothing in particular. -/
def standard : Context := ⟨none, [], [], PageRequest.standard, none, none, none⟩

/-- The code of the list: the one asked for, or the one named after the entity. -/
def resolvedListCode (context : Context) (entityCode : String) : String :=
  context.listCode.getD (entityCode ++ "List")

/-- The cursor that the page starts from, if there is one. -/
def activeCursor (context : Context) : Option String :=
  context.page.activeCursor

/-! ## Acceptable contexts -/

/-- What can be wrong with a context whatever entity it is for. -/
inductive Fault where
  | limitOutOfRange (maximum limit : UInt32)
  | emptyFilterField
  | emptySortField
  | emptySearchFields
deriving DecidableEq

/-- The rejection of a context with a fault. -/
def Fault.rejection : Fault → Rejection
  | .limitOutOfRange maximum limit =>
    .ofField "pagination.limit" ("limit must be between 1 and " ++ Text.natText maximum.toNat
      ++ ", got " ++ Text.natText limit.toNat)
  | .emptyFilterField => .ofField "filters" "filter field must not be empty"
  | .emptySortField => .ofField "sorts" "sort field must not be empty"
  | .emptySearchFields => .ofField "search.fields" "search fields must not be empty when provided"

/-- The first fault of a context, if it has one. -/
def fault? (context : Context) (maximum : UInt32) : Option Fault :=
  if context.page.limit = 0 ∨ maximum < context.page.limit then
    some (.limitOutOfRange maximum context.page.limit)
  else if context.filters.any (·.field.isEmpty) then some .emptyFilterField
  else if context.sorts.any (·.field.isEmpty) then some .emptySortField
  else if (context.search.bind Search.fields).any List.isEmpty then some .emptySearchFields
  else none

end Context

end ListQuery
