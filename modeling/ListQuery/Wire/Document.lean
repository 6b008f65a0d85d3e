import ListQuery.Json.Grammar

/-!
# Reading typed values out of documents

A document is anything that can be looked at one level at a time: the text of a
JSON document, a JSON value, or a configuration file.  The readers of this
library's types are written once, over any kind of document, so that all of them
accept the same forms:

* a structure is an object whose members have the declared names, other members
  being ignored and none of the declared ones repeated, or it is an array of
  the declared members in their order, the last of them left out if they have a
  value by default;
* a member that may be absent may also be null;
* a choice between names is the name as a text, or an object with the one member
  of that name.
-/

namespace ListQuery.Wire

/-- One level of a document. -/
inductive View (σ : Type) where
  | null
  | bool (value : Bool)
  | number (value : Json.Number)
  | text (value : String)
  | items (items : List σ)
  /-- Members in their order; a name is absent if it is no sequence of characters. -/
  | members (members : List (Option String × σ))

/-- Something that can be looked at one level at a time. -/
class Document (σ : Type) where
  /-- The topmost level, unless it holds something that is no value. -/
  view? : σ → Option (View σ)
  /-- Whether this can accompany the name of a choice. -/
  isUnit : σ → Bool
  /-- Whether this can be a member that a structure does not declare. -/
  isIgnorable : σ → Bool
  /-- Whether an array in place of a structure may be longer than the structure. -/
  toleratesSurplus : Bool

/-- A document of which any part can be kept as it is. -/
class JsonDocument (σ : Type) extends Document σ where
  /-- The value of a part in which no more than the given number of brackets is
  nested. -/
  toJson? : Nat → σ → Option Json
  /-- The members of such a part, if it is an object. -/
  toMembers? : Nat → σ → Option (List (String × Json))

/-- The text of a JSON document. -/
instance : JsonDocument Json.Doc where
  view?
    | .null => some .null
    | .bool value => some (.bool value)
    | .numeral value => value.toNumber?.map .number
    | .text value => value.map .text
    | .array items => some (.items items)
    | .object members => some (.members members)
  isUnit
    | .null => true
    | _ => false
  isIgnorable _ := true
  toleratesSurplus := false
  toJson? := Json.Doc.toJson? Json.read?
  toMembers? := Json.Doc.toMembers?

/-- A JSON value.  Its parts are kept with their texts resolved. -/
instance : JsonDocument Json where
  view?
    | .null => some .null
    | .bool value => some (.bool value)
    | .number value => some (.number value)
    | .text value => some (.text value)
    | .array items => some (.items items)
    | .object members => some (.members (members.map fun (name, value) => (some name, value)))
  isUnit
    | .null => true
    | _ => false
  isIgnorable _ := true
  toleratesSurplus := false
  toJson? _ value := value.resolve?
  toMembers? _
    | .object members => Json.resolveMembers? members
    | _ => none

section

variable {σ : Type} [Document σ] {α : Type}

/-! ## Leaves -/

/-- A text. -/
def text? (value : σ) : Option String :=
  match Document.view? value with
  | some (.text value) => some value
  | _ => none

/-- A truth value. -/
def bool? (value : σ) : Option Bool :=
  match Document.view? value with
  | some (.bool value) => some value
  | _ => none

/-- A whole number below a bound. -/
def natBelow? (bound : Nat) (value : σ) : Option Nat :=
  match Document.view? value with
  | some (.number (.integer value _)) =>
    if 0 ≤ value ∧ value.toNat < bound then some value.toNat else none
  | _ => none

/-- A whole number of thirty-two bits. -/
def uint32? (value : σ) : Option UInt32 :=
  (natBelow? 0x100000000 value).map UInt32.ofNat

/-- A whole number of sixty-four bits. -/
def uint64? (value : σ) : Option UInt64 :=
  (natBelow? 0x10000000000000000 value).map UInt64.ofNat

/-- A list of values. -/
def list? (read : σ → Option α) (value : σ) : Option (List α) :=
  match Document.view? value with
  | some (.items items) => items.mapM read
  | _ => none

/-- A value that may be null. -/
def nullable? (read : σ → Option α) (value : σ) : Option (Option α) :=
  match Document.view? value with
  | some .null => some none
  | some _ => (read value).map some
  | none => none

/-- One of several values, each of which has a name. -/
def choice? (values : List α) (name : α → String) (value : σ) : Option α :=
  match Document.view? value with
  | some (.text text) => values.find? (name · == text)
  | some (.members [(some member, value)]) =>
    if Document.isUnit value then values.find? (name · == member) else none
  | _ => none

/-! ## Structures -/

/-- The members of a structure that a document gives. -/
structure Parts (σ : Type) where
  members : List (String × σ)
  /-- Whether they are given in their order and without names. -/
  positional : Bool

/-- Whether a name is declared and given more than once. -/
def repeatsDeclared (names : List String) : List String → Bool
  | [] => false
  | name :: rest => names.contains name && rest.contains name || repeatsDeclared names rest

/-- The members of a structure with the declared names. -/
def parts? (names : List String) (value : σ) : Option (Parts σ) :=
  match Document.view? value with
  | some (.members members) => do
    let members ← members.mapM fun (name, value) => name.map (·, value)
    if repeatsDeclared names (members.map Prod.fst) then none
    else if members.all fun (name, value) => names.contains name || Document.isIgnorable value then
      some ⟨members, false⟩
    else none
  | some (.items items) =>
    if !Document.toleratesSurplus σ && names.length < items.length then none
    else some ⟨names.zip items, true⟩
  | _ => none

namespace Parts

/-- The member with a name. -/
def find? (parts : Parts σ) (name : String) : Option σ :=
  parts.members.lookup name

/-- A member that has to be given. -/
def required (parts : Parts σ) (name : String) (read : σ → Option α) : Option α :=
  (parts.find? name).bind read

/-- A member with a value by default. -/
def withDefault (parts : Parts σ) (name : String) (standard : α) (read : σ → Option α) : Option α :=
  match parts.find? name with
  | some value => read value
  | none => some standard

/-- A member that may be null or absent. -/
def optional (parts : Parts σ) (name : String) (read : σ → Option α) : Option (Option α) :=
  parts.withDefault name none (nullable? read)

/-- A member that may be null, and absent if the others are given by name. -/
def optionalByName (parts : Parts σ) (name : String) (read : σ → Option α) : Option (Option α) :=
  match parts.find? name with
  | some value => nullable? read value
  | none => if parts.positional then none else some none

end Parts

end

/-! ## Parts kept as they are -/

section

variable {σ : Type} [JsonDocument σ]

/-- A part with a value of its own below a number of enclosing brackets. -/
def json? (enclosing : Nat) (value : σ) : Option Json :=
  JsonDocument.toJson? (Json.maximumNesting - enclosing) value

/-- The members of a part that is an object. -/
def jsonObject? (enclosing : Nat) (value : σ) : Option (List (String × Json)) :=
  JsonDocument.toMembers? (Json.maximumNesting - enclosing) value

end

/-! ## Writing structures -/

/-- A member that is written only if there is something to write. -/
def memberOf? {α : Type} (name : String) (write : α → Json) : Option α → List (String × Json)
  | some value => [(name, write value)]
  | none => []

end ListQuery.Wire
