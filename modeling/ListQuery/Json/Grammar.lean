import ListQuery.Json.Numeral

/-!
# The grammar of JSON texts

A text is first read into a `Doc`, which records what the grammar sees and no
more: numerals are kept as digits and the members of an object as they stand,
repeated names included.  Nothing in a `Doc` is rejected for its value, so a
part that a reader skips over may hold a numeral beyond every double, or a
string with half of a surrogate pair, or any number of nested brackets.

Whoever looks at a part gets its value through `Doc.toJson?` or the typed
readers, and these are strict.

A text may hold the text of a value in place of the value.  It then has an object
whose first member has a name that is set aside for this and whose only member
that is.
-/

namespace ListQuery.Json

/-- A text as the grammar sees it.  A string is absent if it holds half of a
surrogate pair, since then it is no sequence of characters. -/
inductive Doc where
  | null
  | bool (value : Bool)
  | numeral (value : Numeral)
  | text (value : Option String)
  | array (items : List Doc)
  | object (members : List (Option String × Doc))

/-- The name of the member that says that an object stands for a text. -/
def embeddingName : String := "$serde_json::private::RawValue"

namespace Doc

/-! ## Tokens -/

/-- The four characters that may stand between tokens. -/
def isBlank (c : Char) : Bool :=
  c == ' ' || c == '\n' || c == '\t' || c == '\r'

/-- The text after any blanks. -/
def skipBlank (chars : List Char) : List Char :=
  chars.dropWhile isBlank

/-- The value of a hexadecimal digit. -/
def hexValue? (c : Char) : Option Nat :=
  if '0' ≤ c ∧ c ≤ '9' then some (c.toNat - '0'.toNat)
  else if 'a' ≤ c ∧ c ≤ 'f' then some (c.toNat - 'a'.toNat + 10)
  else if 'A' ≤ c ∧ c ≤ 'F' then some (c.toNat - 'A'.toNat + 10)
  else none

/-- The value of four hexadecimal digits. -/
def hexUnit? (a b c d : Char) : Option Nat := do
  let a ← hexValue? a
  let b ← hexValue? b
  let c ← hexValue? c
  let d ← hexValue? d
  return ((a * 16 + b) * 16 + c) * 16 + d

/-- The character that a one-letter escape stands for. -/
def escaped? : Char → Option Char
  | '"' => some '"'
  | '\\' => some '\\'
  | '/' => some '/'
  | 'b' => some '\x08'
  | 'f' => some '\x0c'
  | 'n' => some '\n'
  | 'r' => some '\r'
  | 't' => some '\t'
  | _ => none

/-- The code points of a string after its opening quote, surrogates of `\u`
escapes among them, and what follows the closing quote. -/
def stringUnits : List Char → Option (List Nat × List Char)
  | [] => none
  | '"' :: rest => some ([], rest)
  | '\\' :: 'u' :: a :: b :: c :: d :: rest => do
    let unit ← hexUnit? a b c d
    let (units, rest) ← stringUnits rest
    return (unit :: units, rest)
  | '\\' :: c :: rest => do
    let value ← escaped? c
    let (units, rest) ← stringUnits rest
    return (value.toNat :: units, rest)
  | c :: rest => do
    if c.toNat < 0x20 then failure
    let (units, rest) ← stringUnits rest
    return (c.toNat :: units, rest)

/-- Whether a code point is the first half of a surrogate pair. -/
def isLeading (unit : Nat) : Bool := 0xD800 ≤ unit && unit < 0xDC00

/-- Whether a code point is the second half of a surrogate pair. -/
def isTrailing (unit : Nat) : Bool := 0xDC00 ≤ unit && unit < 0xE000

/-- The characters of a sequence of code points, the two halves of a surrogate
pair taken together.  A half that stands alone is no character. -/
def characters? : List Nat → Option (List Char)
  | [] => some []
  | [unit] => if isLeading unit || isTrailing unit then none else some [Char.ofNat unit]
  | unit :: next :: rest =>
    if isLeading unit then
      if isTrailing next then
        let code := 0x10000 + (unit - 0xD800) * 0x400 + (next - 0xDC00)
        (characters? rest).map (Char.ofNat code :: ·)
      else none
    else if isTrailing unit then none
    else (characters? (next :: rest)).map (Char.ofNat unit :: ·)

/-- A string after its opening quote. -/
def string? (chars : List Char) : Option (Option String × List Char) := do
  let (units, rest) ← stringUnits chars
  return ((characters? units).map String.ofList, rest)

/-- The digits at the front of a text, and what follows them. -/
def digits (chars : List Char) : List Char × List Char :=
  chars.span Char.isDigit

/-- The digits before the point: at least one, and no zero before another. -/
def whole? (chars : List Char) : Option (List Char × List Char) :=
  match digits chars with
  | ([], _) => none
  | ('0' :: _ :: _, _) => none
  | found => some found

/-- A point with at least one digit, if there is a point. -/
def fraction? : List Char → Option (Option (List Char) × List Char)
  | '.' :: rest =>
    match digits rest with
    | ([], _) => none
    | (found, rest) => some (some found, rest)
  | chars => some (none, chars)

/-- The sign of an exponent, positive if none is written. -/
def exponentSign : List Char → Bool × List Char
  | '-' :: rest => (true, rest)
  | '+' :: rest => (false, rest)
  | chars => (false, chars)

/-- An exponent with at least one digit, if there is an exponent letter. -/
def exponent? : List Char → Option (Option (Bool × List Char) × List Char)
  | c :: rest =>
    if c = 'e' ∨ c = 'E' then
      let (negative, rest) := exponentSign rest
      match digits rest with
      | ([], _) => none
      | (found, rest) => some (some (negative, found), rest)
    else some (none, c :: rest)
  | [] => some (none, [])

/-- A numeral after its sign. -/
def unsignedNumeral? (negative : Bool) (chars : List Char) : Option (Numeral × List Char) := do
  let (whole, rest) ← whole? chars
  let (fraction, rest) ← fraction? rest
  let (exponent, rest) ← exponent? rest
  return (⟨negative, whole, fraction, exponent⟩, rest)

/-- A numeral. -/
def numeral? : List Char → Option (Numeral × List Char)
  | '-' :: rest => unsignedNumeral? true rest
  | chars => unsignedNumeral? false chars

/-! ## Values -/

mutual

/-- A value at the front of a text, and what follows it. -/
def value? : Nat → List Char → Option (Doc × List Char)
  | 0, _ => none
  | fuel + 1, chars =>
    match chars with
    | 'n' :: 'u' :: 'l' :: 'l' :: rest => some (.null, rest)
    | 't' :: 'r' :: 'u' :: 'e' :: rest => some (.bool true, rest)
    | 'f' :: 'a' :: 'l' :: 's' :: 'e' :: rest => some (.bool false, rest)
    | '"' :: rest => do
      let (value, rest) ← string? rest
      return (.text value, rest)
    | '[' :: rest =>
      match skipBlank rest with
      | ']' :: rest => some (.array [], rest)
      | rest => do
        let (items, rest) ← items? fuel rest
        return (.array items, rest)
    | '{' :: rest =>
      match skipBlank rest with
      | '}' :: rest => some (.object [], rest)
      | rest => do
        let (members, rest) ← members? fuel rest
        return (.object members, rest)
    | chars => do
      let (value, rest) ← numeral? chars
      return (.numeral value, rest)

/-- The items of an array up to its closing bracket. -/
def items? : Nat → List Char → Option (List Doc × List Char)
  | 0, _ => none
  | fuel + 1, chars => do
    let (item, rest) ← value? fuel chars
    match skipBlank rest with
    | ']' :: rest => return ([item], rest)
    | ',' :: rest =>
      let (items, rest) ← items? fuel (skipBlank rest)
      return (item :: items, rest)
    | _ => failure

/-- The members of an object up to its closing brace. -/
def members? : Nat → List Char → Option (List (Option String × Doc) × List Char)
  | 0, _ => none
  | fuel + 1, chars =>
    match chars with
    | '"' :: rest => do
      let (name, rest) ← string? rest
      match skipBlank rest with
      | ':' :: rest =>
        let (value, rest) ← value? fuel (skipBlank rest)
        match skipBlank rest with
        | '}' :: rest => return ([(name, value)], rest)
        | ',' :: rest =>
          let (members, rest) ← members? fuel (skipBlank rest)
          return ((name, value) :: members, rest)
        | _ => failure
      | _ => failure
    | _ => none

end

/-- The document that a text holds.  A bracket uses up two rounds of reading and
two characters, so twice the length bounds the rounds. -/
def read? (text : String) : Option Doc := do
  let chars := text.toList
  let (doc, rest) ← value? (2 * chars.length + 2) (skipBlank chars)
  if (skipBlank rest).isEmpty then return doc else failure

/-! ## The value of a document -/

/-- The text that an object stands for, if its first member says that it stands for a
text.  There is none if it has more members or no text in this one. -/
def embedded? : List (Option String × Doc) → Option (Option String)
  | (some name, value) :: rest =>
    if name = embeddingName then
      match value, rest with
      | .text content, [] => some content
      | _, _ => some none
    else none
  | _ => none

mutual

/-- The value of a document in which no more than `levels` brackets are nested;
`read` gives the value of a text in place of one.  Of members with one name the
last one counts. -/
def toJson? (read : String → Option Json) (levels : Nat) : Doc → Option Json
  | .null => some .null
  | .bool value => some (.bool value)
  | .numeral value => value.toNumber?.map .number
  | .text value => value.map .text
  | .array items =>
    match levels with
    | 0 => none
    | levels + 1 => (itemsToJson? read levels items).map .array
  | .object members =>
    match levels with
    | 0 => none
    | levels + 1 =>
      match embedded? members with
      | some content => content.bind read
      | none =>
        (membersToJson? read levels members).map fun members => .object (orderedMembers members)

/-- The values of the items of an array. -/
def itemsToJson? (read : String → Option Json) (levels : Nat) : List Doc → Option (List Json)
  | [] => some []
  | item :: rest => do
    let value ← toJson? read levels item
    let values ← itemsToJson? read levels rest
    return value :: values

/-- The names and values of the members of an object. -/
def membersToJson? (read : String → Option Json) (levels : Nat) :
    List (Option String × Doc) → Option (List (String × Json))
  | [] => some []
  | (name, member) :: rest => do
    let name ← name
    let value ← toJson? read levels member
    let values ← membersToJson? read levels rest
    return (name, value) :: values

end

end Doc

/-- How many brackets may be nested in a text whose value is read. -/
def maximumNesting : Nat := 127

/-- The value of a text, in which no more than `depth` texts stand inside one another in
place of values, the whole one included. -/
def readWithin? : Nat → String → Option Json
  | 0, _ => none
  | depth + 1, written => (Doc.read? written).bind (Doc.toJson? (readWithin? depth) maximumNesting)

/-- The value of a text.  A text inside of another is shorter, so the length bounds how
many can stand inside one another. -/
def read? (text : String) : Option Json :=
  readWithin? (text.length + 1) text

/-- The members of an object in the text of a document, whatever their names. -/
def Doc.toMembers? (levels : Nat) : Doc → Option (List (String × Json))
  | .object members =>
    match levels with
    | 0 => none
    | levels + 1 => (membersToJson? Json.read? levels members).map orderedMembers
  | _ => none

/-! ## Values in place of others -/

mutual

/-- The value with what stands in it for a text replaced by the value of that text. -/
def resolve? : Json → Option Json
  | .array items => (resolveItems? items).map .array
  | .object members =>
    match members with
    | [] => some (.object [])
    | (name, value) :: rest =>
      if name = embeddingName then
        match value, rest with
        | .text content, [] => read? content
        | _, _ => none
      else (resolveMembers? ((name, value) :: rest)).map .object
  | value => some value

/-- The resolved items of an array. -/
def resolveItems? : List Json → Option (List Json)
  | [] => some []
  | item :: rest => do
    let item ← resolve? item
    let rest ← resolveItems? rest
    return item :: rest

/-- The resolved members of an object. -/
def resolveMembers? : List (String × Json) → Option (List (String × Json))
  | [] => some []
  | (name, value) :: rest => do
    let value ← resolve? value
    let rest ← resolveMembers? rest
    return (name, value) :: rest

end

end ListQuery.Json
