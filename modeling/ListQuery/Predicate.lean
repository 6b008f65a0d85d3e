import ListQuery.Mapping
import ListQuery.Sql.Fragment
import ListQuery.Text.Blank
import ListQuery.Text.Number

/-!
# Filters as conditions

A filter on a mapped field becomes a condition of the statement.  The operand is
first brought to what the column holds: a number, a truth value or a text.
Whatever the caller wrote ends up as a bound value and never as text of the
condition.
-/

namespace ListQuery

open Sql

/-! ## What can be wrong with an operand -/

/-- What an operator asks of its operand. -/
inductive Requirement where
  | nonNullScalar
  /-- A scalar, where an operand of another shape was given. -/
  | scalar (given : String)
  | nonNull
  | nonEmptyList
  | listWithoutNulls
  | bounds
  | namedBounds
  | nonNullBounds
deriving DecidableEq

/-- The requirement as text. -/
def Requirement.text : Requirement → String
  | .nonNullScalar => "a non-null scalar value"
  | .scalar given => "a scalar value, got " ++ given
  | .nonNull => "a non-null value"
  | .nonEmptyList => "a non-empty array value"
  | .listWithoutNulls => "an array without nulls"
  | .bounds => "a two-element array or a \x7bfrom, to\x7d object"
  | .namedBounds => "a \x7bfrom, to\x7d object"
  | .nonNullBounds => "non-null bounds"

/-- Why a filter has no condition. -/
inductive FilterFault where
  /-- The operand does not suit the operator. -/
  | operand (operator : FilterOperator) (requirement : Requirement)
  /-- A value does not suit the column; `expected` and `given` name kinds. -/
  | value (expected given : String)
deriving DecidableEq

/-- The rejection of a filter on a field. -/
def FilterFault.rejection (field : String) : FilterFault → Rejection
  | .operand operator requirement =>
    .ofField field (operator.name ++ " filter on " ++ field ++ " requires " ++ requirement.text)
  | .value expected given =>
    .ofField field ("value for field " ++ field ++ " must be " ++ expected ++ ", got " ++ given)

/-! ## Bringing values to the column's type -/

/-- The number that a text writes: an integer if it fits in a word, and otherwise a
finite double. -/
def Scalar.ofNumberText? (text : String) : Option Scalar :=
  let chars := Text.trimChars text.toList
  match Text.int64? chars with
  | some value => some (.int value)
  | none => (Text.finite? chars).map .float

/-- The truth value that a text names, in any case of its ASCII letters. -/
def Scalar.ofBoolText? (text : String) : Option Scalar :=
  match (Text.trimChars text.toList).map Char.toLower with
  | ['t', 'r', 'u', 'e'] => some (.bool true)
  | ['f', 'a', 'l', 's', 'e'] => some (.bool false)
  | _ => none

/-- The value as a column of the given type holds it.  Null stays null. -/
def Scalar.coerce (type : ColumnType) (value : Scalar) : Except FilterFault Scalar :=
  match type, value with
  | _, .null => .ok .null
  | .number, .int _ | .number, .float _ => .ok value
  | .number, .text written =>
    match ofNumberText? written with
    | some number => .ok number
    | none => .error (.value "a number" value.kind)
  | .number, .bool _ => .error (.value "a number" value.kind)
  | .boolean, .bool _ => .ok value
  | .boolean, .text written =>
    match ofBoolText? written with
    | some truth => .ok truth
    | none => .error (.value "a boolean" value.kind)
  | .boolean, .int _ | .boolean, .float _ => .error (.value "a boolean" value.kind)
  -- Columns of every other type are compared as texts.
  | _, value => .ok (.text value.display)

namespace Filter

/-! ## Operands by operator -/

/-- A fault of the filter's operand. -/
def operandFault {α : Type} (filter : Filter) (requirement : Requirement) : Except FilterFault α :=
  .error (.operand filter.operator requirement)

/-- The operand of a comparison that allows null, which stands for a missing operand
too. -/
def scalarOperand (type : ColumnType) (filter : Filter) : Except FilterFault Scalar :=
  match filter.value with
  | none => .ok .null
  | some (.scalar value) => value.coerce type
  | some other => filter.operandFault (.scalar other.kind)

/-- The operand of a comparison that does not allow null. -/
def nonNullOperand (type : ColumnType) (filter : Filter) : Except FilterFault Scalar := do
  match ← filter.scalarOperand type with
  | .null => filter.operandFault .nonNull
  | value => return value

/-- A member of a list operand. -/
def memberOperand (type : ColumnType) (filter : Filter) (value : Scalar) :
    Except FilterFault Scalar :=
  if value.isNull then filter.operandFault .listWithoutNulls else value.coerce type

/-- The operand of a membership test. -/
def listOperand (type : ColumnType) (filter : Filter) : Except FilterFault (List Scalar) :=
  match filter.value with
  | some (.list (value :: rest)) => (value :: rest).mapM (filter.memberOperand type)
  | _ => filter.operandFault .nonEmptyList

/-- The two bounds that an operand gives. -/
def givenBounds (filter : Filter) : Except FilterFault (Scalar × Scalar) :=
  match filter.value with
  | some (.list [lower, upper]) => .ok (lower, upper)
  | some (.record entries) =>
    match entries.lookup "from", entries.lookup "to" with
    | some lower, some upper => .ok (lower, upper)
    | _, _ => filter.operandFault .namedBounds
  | _ => filter.operandFault .bounds

/-- The operand of a range test. -/
def boundsOperand (type : ColumnType) (filter : Filter) : Except FilterFault (Scalar × Scalar) := do
  let (lower, upper) ← filter.givenBounds
  if lower.isNull || upper.isNull then filter.operandFault .nonNullBounds
  let lower ← lower.coerce type
  let upper ← upper.coerce type
  return (lower, upper)

/-- The operand of a text match, as text. -/
def textOperand (filter : Filter) : Except FilterFault String :=
  match filter.value with
  | some (.scalar value) =>
    if value.isNull then filter.operandFault .nonNullScalar else .ok value.display
  | _ => filter.operandFault .nonNullScalar

end Filter

/-! ## Conditions -/

namespace MappedField

/-- The column of a field. -/
def expression (field : MappedField) : Fragment :=
  Fragment.column field.table field.column

/-- The test whether a field has no value. -/
def isNull (field : MappedField) : Fragment :=
  field.expression ++ Fragment.word .is ++ Fragment.word .null

/-- The test whether a field has a value. -/
def isNotNull (field : MappedField) : Fragment :=
  field.expression ++ Fragment.word .is ++ Fragment.word .not ++ Fragment.word .null

/-- The comparison of a field with a value. -/
def compare (field : MappedField) (sign : Comparison) (value : Scalar) : Fragment :=
  field.expression ++ Fragment.comparison sign ++ Fragment.parameter value field.type.parameterCast

/-- The comparison of a field with the values of a list, `ANY` or `ALL` of them. -/
def compareEach (field : MappedField) (sign : Comparison) (quantifier : Callee)
    (values : List Scalar) : Fragment :=
  field.expression ++ Fragment.comparison sign
    ++ Fragment.call (.call quantifier)
      (Fragment.word .array ++ Fragment.ofToken .openBracket
        ++ Fragment.parameters values field.type.parameterCast
        ++ Fragment.ofToken .closeBracket)

/-- The test whether a field lies between two bounds, both included. -/
def between (field : MappedField) (lower upper : Scalar) : Fragment :=
  field.expression ++ Fragment.word .between ++ Fragment.parameter lower field.type.parameterCast
    ++ Fragment.word .and ++ Fragment.parameter upper field.type.parameterCast

/-- The match of a field with a pattern, regardless of case.  A column that is no
text is converted to one. -/
def matchesPattern (field : MappedField) (pattern : String) : Fragment :=
  field.expression ++ Fragment.castTo (if field.type.isTextual then none else some "text")
    ++ Fragment.word .ilike ++ Fragment.parameter (.text pattern) none

/-- The condition of a filter before it is negated.  A filter that is left to an
amendment of the list has none. -/
def condition? (field : MappedField) (filter : Filter) : Except FilterFault (Option Fragment) :=
  match filter.operator with
  -- No value is equal to null, so these two test for null instead.
  | .equals => do
    match ← filter.scalarOperand field.type with
    | .null => return some field.isNull
    | value => return some (field.compare .eq value)
  | .notEquals => do
    match ← filter.scalarOperand field.type with
    | .null => return some field.isNotNull
    | value => return some (field.compare .ne value)
  | .less => do return some (field.compare .lt (← filter.nonNullOperand field.type))
  | .lessOrEqual => do return some (field.compare .le (← filter.nonNullOperand field.type))
  | .greater => do return some (field.compare .gt (← filter.nonNullOperand field.type))
  | .greaterOrEqual => do return some (field.compare .ge (← filter.nonNullOperand field.type))
  | .within => do return some (field.compareEach .eq .any (← filter.listOperand field.type))
  | .notWithin => do return some (field.compareEach .ne .all (← filter.listOperand field.type))
  | .between => do
    let (lower, upper) ← filter.boundsOperand field.type
    return some (field.between lower upper)
  | .contains => do return some (field.matchesPattern ("%" ++ (← filter.textOperand) ++ "%"))
  | .startsWith => do return some (field.matchesPattern ((← filter.textOperand) ++ "%"))
  | .endsWith => do return some (field.matchesPattern ("%" ++ (← filter.textOperand)))
  | .isNull => .ok (some field.isNull)
  | .isNotNull => .ok (some field.isNotNull)
  | .custom => .ok none

/-- The condition of a filter. -/
def predicate? (field : MappedField) (filter : Filter) : Except FilterFault (Option Fragment) := do
  let condition ← field.condition? filter
  return condition.map fun condition =>
    if filter.negate then Fragment.word .not ++ condition.parenthesized else condition

end MappedField

end ListQuery
