import ListQuery.Proofs.Sql.Reading
import ListQuery.Response
import Mathlib.Order.Compare

/-!
# What a database answers

A database is given by its rows and by what single values mean to it.  To answer a
statement it reads the conditions as written, keeps the rows on which all of them are
true in three-valued logic, sorts these by the ordering as written, and cuts the result
off at the limit.

Nulls are placed the way PostgreSQL does it: after all values in ascending order and
before them in descending order, unless the ordering says `NULLS FIRST` or
`NULLS LAST`.
-/

namespace ListQuery.Sql

/-! ## Three-valued logic -/

/-- Whether something holds, as far as that is known. -/
inductive Truth where
  | true
  | false
  | unknown
deriving DecidableEq

namespace Truth

/-- What is known to hold or not to hold. -/
def ofBool : Bool → Truth
  | .true => .true
  | .false => .false

/-- Negation. -/
def not : Truth → Truth
  | .true => .false
  | .false => .true
  | .unknown => .unknown

/-- Conjunction. -/
def and : Truth → Truth → Truth
  | .false, _ | _, .false => .false
  | .true, .true => .true
  | _, _ => .unknown

/-- Disjunction. -/
def or : Truth → Truth → Truth
  | .true, _ | _, .true => .true
  | .false, .false => .false
  | _, _ => .unknown

@[simp] theorem ofBool_eq_true {known : Bool} : ofBool known = .true ↔ known = .true := by
  cases known <;> simp [ofBool]

@[simp] theorem not_ofBool (known : Bool) : (ofBool known).not = ofBool (!known) := by
  cases known <;> rfl

@[simp] theorem and_eq_true {first second : Truth} :
    first.and second = .true ↔ first = .true ∧ second = .true := by
  cases first <;> cases second <;> simp [and]

@[simp] theorem or_eq_true {first second : Truth} :
    first.or second = .true ↔ first = .true ∨ second = .true := by
  cases first <;> cases second <;> simp [or]

end Truth

/-! ## Values and rows -/

/-- A row of the joined tables: the value of each column of each table, by the alias of
the table and the name of the column. -/
abbrev Record (V : Type) := String → String → Option V

/-- A database whose values are those of a type; a null is the absence of one. -/
structure Database (V : Type) where
  /-- The rows of a table with the joined ones. -/
  rows : Table → List Join → List (Record V)
  /-- The two truth values. -/
  literal : Bool → V
  literal_ne : literal false ≠ literal true
  /-- What a bound value stands for if it is converted to a type. -/
  bound : Scalar → Option String → Option V
  /-- A value converted to a type. -/
  convert : String → V → Option V
  /-- Whether a value matches a pattern regardless of case. -/
  matchesPattern : V → V → Bool
  /-- The value of an expression that is not a column. -/
  compute : Fragment → Record V → Option V
  /-- A value as it is returned. -/
  output : Option V → Json

/-- The texts that stand for the truth values in a database of texts are different. -/
theorem Database.falseText_ne_trueText : "false" ≠ "true" := by decide

/-- Whether two values stand in a relation. -/
def Comparison.holds {V : Type} [LinearOrder V] (sign : Comparison) (left right : V) : Bool :=
  match sign with
  | .eq => (compare left right).isEq
  | .ne => (compare left right).isNe
  | .lt => (compare left right).isLT
  | .gt => (compare left right).isGT
  | .le => (compare left right).isLE
  | .ge => (compare left right).isGE

/-- The comparison of two values, about which nothing is known if one is missing. -/
def Comparison.truth {V : Type} [LinearOrder V] (sign : Comparison) :
    Option V → Option V → Truth
  | some left, some right => .ofBool (sign.holds left right)
  | _, _ => .unknown

namespace Database

variable {V : Type} [LinearOrder V] (database : Database V)

omit [LinearOrder V] in
/-- The value of a term on a row. -/
def term (record : Record V) : Term → Option V
  | .column table name none => record table name
  | .column table name (some type) => (record table name).bind (database.convert type)
  | .parameter value type => database.bound value type
  | .literal value => some (database.literal value)

omit [LinearOrder V] in
/-- The value of an expression on a row. -/
def value (record : Record V) (expression : Fragment) : Option V :=
  match Term.read? expression with
  | some (term, []) => database.term record term
  | _ => database.compute expression record

/-- Whether a condition holds of a row. -/
def truth (record : Record V) : Condition → Truth
  | .term term => Comparison.eq.truth (database.term record term) (some (database.literal true))
  | .compare sign left right =>
    sign.truth (database.term record left) (database.term record right)
  -- `ANY` is a disjunction over the list and `ALL` a conjunction.
  | .compareAny sign left right =>
    (right.map fun term => sign.truth (database.term record left) (database.term record term)).foldr
      Truth.or .false
  | .compareAll sign left right =>
    (right.map fun term => sign.truth (database.term record left) (database.term record term)).foldr
      Truth.and .true
  | .isNull term => .ofBool (database.term record term).isNone
  | .isDistinct left right =>
    .ofBool (database.term record left ≠ database.term record right)
  | .between term lower upper =>
    (Comparison.ge.truth (database.term record term) (database.term record lower)).and
      (Comparison.le.truth (database.term record term) (database.term record upper))
  | .ilike term pattern =>
    match database.term record term, database.term record pattern with
    | some value, some pattern => .ofBool (database.matchesPattern value pattern)
    | _, _ => .unknown
  | .not condition => (truth record condition).not
  | .and first second => (truth record first).and (truth record second)
  | .or first second => (truth record first).or (truth record second)

/-- Whether a fragment is a condition that is true of a row. -/
def satisfies (record : Record V) (fragment : Fragment) : Bool :=
  match Condition.read? fragment with
  | some condition => database.truth record condition = .true
  | none => false

end Database

/-! ## Sorting -/

/-- An entry of an ordering as a database reads it. -/
structure Sorting where
  expression : Fragment
  descending : Bool
  nullsFirst : Bool
deriving DecidableEq

namespace Sorting

/-- The entry that a fragment is. -/
def read? (fragment : Fragment) : Option Sorting :=
  -- The direction stands at the end, before it the expression, which may be long.
  match fragment.reverse with
  | .token (.word .asc) :: expression => some ⟨expression.reverse, false, false⟩
  | .token (.word .desc) :: expression => some ⟨expression.reverse, true, true⟩
  | .token (.word .first) :: .token (.word .nulls) :: .token (.word .asc) :: expression =>
    some ⟨expression.reverse, false, true⟩
  | .token (.word .first) :: .token (.word .nulls) :: .token (.word .desc) :: expression =>
    some ⟨expression.reverse, true, true⟩
  | .token (.word .last) :: .token (.word .nulls) :: .token (.word .asc) :: expression =>
    some ⟨expression.reverse, false, false⟩
  | .token (.word .last) :: .token (.word .nulls) :: .token (.word .desc) :: expression =>
    some ⟨expression.reverse, true, false⟩
  | _ => none

/-- The entry that an entry of a statement is read as. -/
def ofOrder (order : Order) : Sorting :=
  ⟨order.expression, order.direction = .descending, order.nullsFirst⟩

/-- How two values of the entry are ordered. -/
def compareValues {V : Type} [LinearOrder V] (sorting : Sorting) :
    Option V → Option V → Ordering
  | none, none => .eq
  | none, some _ => if sorting.nullsFirst then .lt else .gt
  | some _, none => if sorting.nullsFirst then .gt else .lt
  | some first, some second =>
    if sorting.descending then compare second first else compare first second

/-- How two tuples of values are ordered, one value for each entry. -/
def compareTuples {V : Type} [LinearOrder V] :
    List Sorting → List (Option V) → List (Option V) → Ordering
  | sorting :: rest, first :: firsts, second :: seconds =>
    (sorting.compareValues first second).then (compareTuples rest firsts seconds)
  | _, _, _ => .eq

end Sorting

namespace Database

variable {V : Type} [LinearOrder V] (database : Database V)

omit [LinearOrder V] in
/-- The values of a row in the entries of an ordering. -/
def tuple (sortings : List Sorting) (record : Record V) : List (Option V) :=
  sortings.map fun sorting => database.value record sorting.expression

/-- How two rows are ordered. -/
def compareRecords (sortings : List Sorting) (first second : Record V) : Ordering :=
  Sorting.compareTuples sortings (database.tuple sortings first) (database.tuple sortings second)

/-- The rows in their order. -/
def sort (sortings : List Sorting) (records : List (Record V)) : List (Record V) :=
  records.mergeSort fun first second => (database.compareRecords sortings first second).isLE

/-! ## Answers -/

/-- The rows of the tables of a statement of which all its conditions are true. -/
def matching (statement : Select) : List (Record V) :=
  (database.rows statement.source statement.joins).filter fun record =>
    statement.conditions.all (database.satisfies record)

omit [LinearOrder V] in
/-- The row of the result for a row of the tables. -/
def project (columns : List Column) (record : Record V) : Row :=
  columns.map fun column =>
    (column.aliasName, database.output (database.value record column.expression))

/-- The result of a statement, if all that is written in it can be read. -/
def answer? (statement : Select) : Option (List Row) := do
  -- A condition or an entry that cannot be read is an error of the whole statement.
  let _ ← statement.conditions.mapM Condition.read?
  let sortings ← statement.ordering.mapM fun order => Sorting.read? (Select.orderFragment order)
  let sorted := database.sort sortings (database.matching statement)
  let records := match statement.limit with
    | some limit => sorted.take limit.toNat
    | none => sorted
  return records.map (database.project statement.columns)

end Database

end ListQuery.Sql
