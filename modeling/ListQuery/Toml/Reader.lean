import ListQuery.Toml.Plain
import ListQuery.Toml.Table

/-!
# Reading configuration files

A file consists of lines: headers, which say in which table the following lines
are, and keys with their values.  Only arrays, tables in braces and strings in
three quotes go over several lines.
-/

namespace ListQuery.Toml

/-! ## Between values -/

/-- The text without a mark of the order of octets at its beginning. -/
def withoutMark : List Char → List Char
  | c :: rest => if c.toNat = 0xFEFF then rest else c :: rest
  | [] => []

/-- The text after any blanks within the line. -/
def skipSpace (chars : List Char) : List Char :=
  chars.dropWhile isSpace

/-- The text after any blanks, line ends and comments; none if a comment has a
control character. -/
def skipFiller (inComment : Bool) : List Char → Option (List Char)
  | [] => some []
  | c :: rest =>
    if isLineEnd c rest then skipFiller false rest
    else if inComment then if isControl c then none else skipFiller true rest
    else if isSpace c then skipFiller false rest
    else if c = '#' then skipFiller true rest
    else some (c :: rest)

/-- The text after a comment and the end of its line. -/
def afterComment? : List Char → Option (List Char)
  | [] => some []
  | '\n' :: rest => some rest
  | '\r' :: '\n' :: rest => some rest
  | c :: rest => if isControl c then none else afterComment? rest

/-- The text after the end of a line, which may have blanks and a comment first. -/
def lineEnd? (chars : List Char) : Option (List Char) :=
  match skipSpace chars with
  | [] => some []
  | '\n' :: rest => some rest
  | '\r' :: '\n' :: rest => some rest
  | '#' :: rest => afterComment? rest
  | _ => none

/-! ## Keys -/

/-- Whether a character can stand in a key without quotes. -/
def isKeyChar (c : Char) : Bool :=
  c.isAlphanum || c == '_' || c == '-'

/-- A part of a key at the front of a text. -/
def keyPart? (chars : List Char) : Option (String × List Char) :=
  match chars with
  | '"' :: rest => (quotedLine .plain rest).map fun (key, rest) => (String.ofList key, rest)
  | '\'' :: rest => (literalLine rest).map fun (key, rest) => (String.ofList key, rest)
  | chars =>
    match chars.span isKeyChar with
    | ([], _) => none
    | (key, rest) => some (String.ofList key, rest)

/-- A key of no more than the given number of parts: its parts before the last, its
last part, and what follows it.  Blanks may stand around the dots and after the key. -/
def keyOf? : Nat → List Char → Option (List String × String × List Char)
  | 0, _ => none
  | parts + 1, chars => do
    let (part, rest) ← keyPart? (skipSpace chars)
    match skipSpace rest with
    | '.' :: rest =>
      let (path, last, rest) ← keyOf? parts rest
      return (part :: path, last, rest)
    | rest => return ([], part, rest)

/-- How many brackets and braces may be nested, and how many parts a key may have. -/
def maximumNesting : Nat := 80

/-- A key at the front of a text. -/
def key? (chars : List Char) : Option (List String × String × List Char) :=
  keyOf? maximumNesting chars

/-! ## Values -/

mutual

/-- A value at the front of a text, and what follows it; no more than `levels`
brackets and braces may be nested. -/
def value? (levels : Nat) : Nat → List Char → Option (Value × List Char)
  | 0, _ => none
  | fuel + 1, chars =>
    match chars with
    | '"' :: _ | '\'' :: _ => (string? chars).map fun (text, rest) => (.text text, rest)
    | '[' :: rest =>
      match levels with
      | 0 => none
      | levels + 1 => do
        let (items, rest) ← items? levels fuel rest
        return (.array false items, rest)
    | '\x7b' :: rest =>
      match levels with
      | 0 => none
      | levels + 1 => do
        let (members, rest) ← members? levels fuel [] rest
        return (.table .inlined members, rest)
    | chars => plainValue? chars

/-- The items of an array up to its closing bracket.  A comma may follow the last. -/
def items? (levels : Nat) : Nat → List Char → Option (List Value × List Char)
  | 0, _ => none
  | fuel + 1, chars => do
    match ← skipFiller false chars with
    | ']' :: rest => return ([], rest)
    | chars =>
      let (item, rest) ← value? levels fuel chars
      match ← skipFiller false rest with
      | ']' :: rest => return ([item], rest)
      | ',' :: rest =>
        let (items, rest) ← items? levels fuel rest
        return (item :: items, rest)
      | _ => failure

/-- The members of a table up to its closing brace, added to those before.  A comma
may follow the last, and a line may end anywhere but within a key. -/
def members? (levels : Nat) : Nat → Members → List Char → Option (Members × List Char)
  | 0, _, _ => none
  | fuel + 1, members, chars => do
    match ← skipFiller false chars with
    | '\x7d' :: rest => return (members, rest)
    | chars =>
      let (path, key, rest) ← key? chars
      let '=' :: rest ← skipFiller false rest | failure
      let (value, rest) ← value? levels fuel (← skipFiller false rest)
      let members ← insertValue path key value .inlined members
      match ← skipFiller false rest with
      | '\x7d' :: rest => return (members, rest)
      | ',' :: rest => members? levels fuel members rest
      | _ => failure

end

/-! ## Lines -/

/-- A header after its opening bracket: the path of the table and whether it is
another table of an array. -/
def header? (chars : List Char) : Option (Bool × List String × String × List Char) :=
  match chars with
  | '[' :: rest => do
    let (path, key, rest) ← key? rest
    let ']' :: ']' :: rest := rest | failure
    return (true, path, key, rest)
  | chars => do
    let (path, key, rest) ← key? chars
    let ']' :: rest := rest | failure
    return (false, path, key, rest)

/-- The members that the lines of a text add to those before; `header` is the path of
the table that the lines are in. -/
def lines? : Nat → List String → Members → List Char → Option Members
  | 0, _, _, _ => none
  | fuel + 1, header, root, chars => do
    match ← skipFiller false chars with
    | [] => return root
    | '[' :: rest =>
      let (inArray, path, key, rest) ← header? rest
      let root ← if inArray then openTableInArray path key root else openTable path key root
      lines? fuel (path ++ [key]) root (← lineEnd? rest)
    | chars =>
      let (path, key, rest) ← key? chars
      let '=' :: rest := rest | failure
      let (value, rest) ← value? maximumNesting fuel (skipSpace rest)
      let root ← insertUnder header path key value root
      lines? fuel header root (← lineEnd? rest)

/-- The table that the text of a file holds. -/
def read? (text : String) : Option Value := do
  let chars := withoutMark text.toList
  let members ← lines? (2 * chars.length + 2) [] [] chars
  return .table .header members

end ListQuery.Toml
