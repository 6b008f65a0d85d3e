import ListQuery.Binary64.Text
import ListQuery.Json.Basic

/-!
# Scalars

A scalar is what one statement parameter can carry, and what a row has to hold
under a field for a cursor to remember it.  Integers and doubles are different
scalars even where they are numerically equal.
-/

namespace ListQuery

/-- A value that can be bound to a statement. -/
inductive Scalar where
  | null
  | bool (value : Bool)
  | int (value : Int64)
  | float (value : Binary64)
  | text (value : String)
deriving DecidableEq

namespace Scalar

/-- Whether this is the null scalar. -/
def isNull : Scalar → Bool
  | .null => true
  | _ => false

/-- Whether this is a double that is an infinity or a NaN. -/
def isNonFinite : Scalar → Bool
  | .float x => !x.isFinite
  | _ => false

/-- The name of a scalar's kind in error messages. -/
def kind : Scalar → String
  | .null => "null"
  | .bool _ => "boolean"
  | .int _ => "integer"
  | .float _ => "float"
  | .text _ => "string"

/-- The text of a scalar in a pattern or where a text is called for. -/
def display : Scalar → String
  | .null => "null"
  | .bool true => "true"
  | .bool false => "false"
  | .int value => Text.intText value.toInt
  | .float value => value.toPlain
  | .text value => value

/-! ## As a JSON value -/

/-- The scalar of a JSON number: a signed word if it fits in one, and otherwise
the nearest double. -/
def ofNumber : Json.Number → Scalar
  | .integer value _ =>
    if value < 0x8000000000000000 then .int (Int64.ofInt value) else .float (Binary64.ofInt value)
  | .float value _ => .float value

/-- The scalar of a JSON value.  Arrays and objects are none. -/
def ofJson? : Json → Option Scalar
  | .null => some .null
  | .bool value => some (.bool value)
  | .number value => some (ofNumber value)
  | .text value => some (.text value)
  | .array _ => none
  | .object _ => none

/-- The JSON value of a scalar.  Infinities and NaNs have none and become null. -/
def toJson : Scalar → Json
  | .null => .null
  | .bool value => .bool value
  | .int value => .ofInt64 value
  | .float value => .ofBinary64 value
  | .text value => .text value

end Scalar

end ListQuery
