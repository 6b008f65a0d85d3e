import ListQuery.Wire.Document

/-!
# Values of configuration files

A configuration file consists of named values.  Numbers with a fraction and
points in time can occur in a file but nothing in this library has a use for
one, so of these it is only kept that they are there.

A table remembers how it came about, since that decides whether later lines of
the file may add to it.
-/

namespace ListQuery.Toml

/-- How a table came about. -/
inductive Origin where
  /-- It was written in braces. -/
  | inlined
  /-- It has a header. -/
  | header
  /-- A header names something inside of it. -/
  | implied
  /-- A dotted key names something inside of it. -/
  | dotted
deriving DecidableEq

/-- A value in a configuration file. -/
inductive Value where
  | text (value : String)
  | integer (value : Int)
  | bool (value : Bool)
  /-- A number with a fraction or an exponent. -/
  | fractional
  /-- A number that is too large or has not only digits.  It can stand only where
  nothing looks at it. -/
  | unusable
  /-- A date, a time of day, or both. -/
  | moment
  /-- An array, which may consist of tables with headers. -/
  | array (ofTables : Bool) (items : List Value)
  | table (origin : Origin) (members : List (String × Value))

/-- Named values in the order of their names. -/
abbrev Members := List (String × Value)

mutual

/-- Whether a value holds no number that is of no use. -/
def Value.isUsable : Value → Bool
  | .unusable => false
  | .array _ items => Value.areUsable items
  | .table _ members => Value.haveUsable members
  | _ => true

/-- Whether all of some values hold no number that is of no use. -/
def Value.areUsable : List Value → Bool
  | [] => true
  | value :: rest => value.isUsable && Value.areUsable rest

/-- Whether all of some named values hold no number that is of no use. -/
def Value.haveUsable : Members → Bool
  | [] => true
  | (_, value) :: rest => value.isUsable && Value.haveUsable rest

end

/-- A value of a configuration file as a document.  An integer beyond sixty-four bits
is a value that no reader accepts, and a point in time has no member that any reader
knows.  Numbers with a fraction are of no use to a reader at all. -/
instance : Wire.Document Value where
  view?
    | .text value => some (.text value)
    | .integer value => (Json.Number.ofInt? value).map .number
    | .bool value => some (.bool value)
    | .fractional => none
    | .unusable => none
    | .moment => some (.members [])
    | .array _ items => some (.items items)
    | .table _ members => some (.members (members.map fun (name, value) => (some name, value)))
  isUnit
    | .array _ items => items.isEmpty
    | .table _ members => members.isEmpty
    | _ => false
  isIgnorable := Value.isUsable
  toleratesSurplus := true

end ListQuery.Toml
