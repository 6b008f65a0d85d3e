import ListQuery.Ordering
import ListQuery.Sql.Fragment

/-!
# The `SELECT` statement of a list

The statement is kept as its parts until it is written.  Its conditions hold
together: every one of them has to be true of a row.
-/

namespace ListQuery.Sql

/-- A table and the name under which the statement refers to it. -/
structure Table where
  schema : String
  name : String
  aliasName : String
deriving DecidableEq

/-- What happens to rows without a partner in a joined table. -/
inductive JoinKind where
  /-- They are dropped. -/
  | inner
  /-- They are kept. -/
  | left
deriving DecidableEq

/-- A table joined on a condition. -/
structure Join where
  kind : JoinKind
  table : Table
  on : Fragment
deriving DecidableEq

/-- A selected expression and its name in the result. -/
structure Column where
  expression : Fragment
  aliasName : String
deriving DecidableEq

/-- An entry of the ordering, remembered with the field it stands for. -/
structure Order where
  field : String
  expression : Fragment
  direction : Direction
  nulls : Option NullPlacement
  /-- The type that a value compared with the expression is converted to. -/
  cast : Option String
deriving DecidableEq

/-- Whether rows without a value come first. -/
def Order.nullsFirst (order : Order) : Bool :=
  nullsComeFirst order.direction order.nulls

/-- The entry that orders rows the other way round. -/
def Order.reversed (order : Order) : Order :=
  { order with
    direction := order.direction.reversed
    nulls := order.nulls.map NullPlacement.reversed }

/-- A `SELECT` statement. -/
structure Select where
  columns : List Column
  source : Table
  joins : List Join
  conditions : List Fragment
  ordering : List Order
  limit : Option UInt32
deriving DecidableEq

namespace Select

/-- The statement that selects everything from a table. -/
def all (source : Table) : Select :=
  ⟨[], source, [], [], [], none⟩

/-- The column with a name. -/
def column? (statement : Select) (aliasName : String) : Option Column :=
  statement.columns.find? (·.aliasName == aliasName)

/-- The statement with another condition; an empty fragment is none. -/
def withCondition (statement : Select) (condition : Fragment) : Select :=
  if condition.isEmpty then statement
  else { statement with conditions := statement.conditions ++ [condition] }

/-! ## The statement as a fragment -/

/-- A table with its alias. -/
def tableFragment (table : Table) : Fragment :=
  Fragment.named (Fragment.column table.schema table.name) table.aliasName

/-- The selected columns, or a star if there are none. -/
def columnsFragment (columns : List Column) : Fragment :=
  if columns.isEmpty then Fragment.ofToken .star
  else Fragment.join .comma (columns.map fun column => column.expression.named column.aliasName)

/-- A joined table and its condition. -/
def joinFragment (join : Join) : Fragment :=
  let kind := match join.kind with
    | .inner => Keyword.inner
    | .left => Keyword.left
  Fragment.word kind ++ Fragment.word .join ++ tableFragment join.table
    ++ Fragment.word .on ++ join.on

/-- The conditions, each in parentheses. -/
def conditionsFragment (conditions : List Fragment) : Fragment :=
  if conditions.isEmpty then []
  else Fragment.word .whereWord
    ++ Fragment.join (.word .and) (conditions.map Fragment.parenthesized)

/-- The explicit placement of nulls, if there is one. -/
def nullsFragment : Option NullPlacement → Fragment
  | some .first => Fragment.word .nulls ++ Fragment.word .first
  | some .last => Fragment.word .nulls ++ Fragment.word .last
  | some .standard | none => []

/-- An entry of the ordering. -/
def orderFragment (order : Order) : Fragment :=
  let direction := match order.direction with
    | .ascending => Keyword.asc
    | .descending => Keyword.desc
  order.expression ++ Fragment.word direction ++ nullsFragment order.nulls

/-- The ordering. -/
def orderingFragment (ordering : List Order) : Fragment :=
  if ordering.isEmpty then []
  else
    Fragment.word .order ++ Fragment.word .byWord
      ++ Fragment.join .comma (ordering.map orderFragment)

/-- The greatest number of rows. -/
def limitFragment : Option UInt32 → Fragment
  | some limit => Fragment.word .limit ++ [.integer limit.toNat]
  | none => []

/-- The whole statement. -/
def fragment (statement : Select) : Fragment :=
  Fragment.word .select ++ columnsFragment statement.columns
    ++ Fragment.word .fromWord ++ tableFragment statement.source
    ++ statement.joins.flatMap joinFragment
    ++ conditionsFragment statement.conditions
    ++ orderingFragment statement.ordering
    ++ limitFragment statement.limit

/-- The statement as it is sent to a database. -/
def query (statement : Select) : Query :=
  statement.fragment.query

end Select

end ListQuery.Sql
