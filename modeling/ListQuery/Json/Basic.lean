import ListQuery.Binary64

/-!
# JSON values

A number is kept the way it was written: as an integer if it is one and fits in
sixty-four bits, with or without a sign, and as a finite double otherwise.  The
two kinds are different values even where they are numerically equal.

The members of an object stand in a list.  Reading a document gives one member
per name, in the order of the names, and the functions below preserve that.
-/

namespace ListQuery

namespace Json

/-- A JSON number. -/
inductive Number where
  /-- An integer that a signed or an unsigned word of sixty-four bits holds. -/
  | integer (value : Int) (fits : -0x8000000000000000 ≤ value ∧ value < 0x10000000000000000)
  /-- Any other number. -/
  | float (value : Binary64) (finite : value.isFinite = true)
deriving DecidableEq

/-- The integer as a JSON number, if it fits. -/
def Number.ofInt? (value : Int) : Option Number :=
  if fits : -0x8000000000000000 ≤ value ∧ value < 0x10000000000000000 then
    some (.integer value fits)
  else none

/-- The double as a JSON number, if it is finite. -/
def Number.ofBinary64? (value : Binary64) : Option Number :=
  if finite : value.isFinite = true then some (.float value finite) else none

end Json

/-- A JSON value. -/
inductive Json where
  | null
  | bool (value : Bool)
  | number (value : Json.Number)
  | text (value : String)
  | array (items : List Json)
  | object (members : List (String × Json))

namespace Json

/-! ## Building values -/

/-- A natural number, of which the lowest sixty-four bits count. -/
def ofNat (n : Nat) : Json :=
  .number (.integer (n % 0x10000000000000000 : Nat) (by
    have : n % 0x10000000000000000 < 0x10000000000000000 := Nat.mod_lt _ (by decide)
    omega))

/-- A signed word. -/
def ofInt64 (n : Int64) : Json :=
  .number (.integer n.toInt (by
    have := n.minValue_le_toInt
    have := n.toInt_lt
    simp at *
    omega))

/-- A double, or null where it has no JSON text. -/
def ofBinary64 (x : Binary64) : Json :=
  match Number.ofBinary64? x with
  | some value => .number value
  | none => .null

/-- A text, or null where there is none. -/
def ofText? : Option String → Json
  | some value => .text value
  | none => .null

/-- An array of texts. -/
def ofTexts (texts : List String) : Json :=
  .array (texts.map .text)

/-! ## The members of an object -/

/-- Members in the order of their names with one more, which takes the place of the
one that has its name. -/
def insertMember {α : Type} (name : String) (value : α) : List (String × α) → List (String × α)
  | [] => [(name, value)]
  | (other, old) :: rest =>
    if name < other then (name, value) :: (other, old) :: rest
    else if name = other then (name, value) :: rest
    else (other, old) :: insertMember name value rest

/-- The members in the order of their names.  Of several with one name the last
counts. -/
def orderedMembers {α : Type} (members : List (String × α)) : List (String × α) :=
  members.foldl (fun ordered (name, value) => insertMember name value ordered) []

/-- The value of the first member with a name. -/
def member? (name : String) (members : List (String × Json)) : Option Json :=
  members.lookup name

end Json

end ListQuery
