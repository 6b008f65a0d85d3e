import ListQuery.Binary64.Text
import ListQuery.Json.Basic

/-!
# Writing JSON

`render` writes a value without any blanks and `renderIndented` with one item or
member a line.  In strings the quote, the backslash and the control characters
are escaped and every other character stands for itself.
-/

namespace ListQuery.Json

/-! ## Leaves -/

/-- A hexadecimal digit, in lower case. -/
def hexDigit (n : Nat) : Char := Nat.digitChar n

/-- A character as it is written inside a string. -/
def escapeChar (c : Char) : List Char :=
  match c with
  | '"' => ['\\', '"']
  | '\\' => ['\\', '\\']
  | '\x08' => ['\\', 'b']
  | '\x0c' => ['\\', 'f']
  | '\n' => ['\\', 'n']
  | '\r' => ['\\', 'r']
  | '\t' => ['\\', 't']
  | c =>
    if c.toNat < 0x20 then ['\\', 'u', '0', '0', hexDigit (c.toNat / 16), hexDigit (c.toNat % 16)]
    else [c]

/-- A string in its quotes. -/
def quote (text : String) : List Char :=
  '"' :: (text.toList.flatMap escapeChar ++ ['"'])

/-- The numeral of a number. -/
def Number.render : Number → List Char
  | .integer value _ => Text.intDigits value
  | .float value _ => value.toNumeral.toList

/-! ## Without blanks -/

mutual

/-- The characters of a value. -/
def renderChars : Json → List Char
  | .null => ['n', 'u', 'l', 'l']
  | .bool true => ['t', 'r', 'u', 'e']
  | .bool false => ['f', 'a', 'l', 's', 'e']
  | .number value => value.render
  | .text value => quote value
  | .array items => '[' :: (renderItems items ++ [']'])
  | .object members => '\x7b' :: (renderMembers members ++ ['\x7d'])

/-- The items of an array, a comma between any two. -/
def renderItems : List Json → List Char
  | [] => []
  | [item] => renderChars item
  | item :: next :: rest => renderChars item ++ ',' :: renderItems (next :: rest)

/-- The members of an object, a comma between any two. -/
def renderMembers : List (String × Json) → List Char
  | [] => []
  | [(name, value)] => quote name ++ ':' :: renderChars value
  | (name, value) :: next :: rest =>
    quote name ++ ':' :: (renderChars value ++ ',' :: renderMembers (next :: rest))

end

/-- The text of a value. -/
def render (value : Json) : String :=
  String.ofList value.renderChars

/-! ## One item a line -/

/-- A line break and the indentation of a nesting level. -/
def lineBreak (level : Nat) : List Char :=
  '\n' :: List.replicate (2 * level) ' '

mutual

/-- The characters of a value that stands at a nesting level.  Empty arrays and
objects stay on one line. -/
def indentedChars (level : Nat) : Json → List Char
  | .array [] => ['[', ']']
  | .array (item :: rest) =>
    '[' :: (lineBreak (level + 1) ++ indentedItems (level + 1) (item :: rest)
      ++ lineBreak level ++ [']'])
  | .object [] => ['\x7b', '\x7d']
  | .object (entry :: rest) =>
    '\x7b' :: (lineBreak (level + 1) ++ indentedMembers (level + 1) (entry :: rest)
      ++ lineBreak level ++ ['\x7d'])
  | .null => ['n', 'u', 'l', 'l']
  | .bool true => ['t', 'r', 'u', 'e']
  | .bool false => ['f', 'a', 'l', 's', 'e']
  | .number value => value.render
  | .text value => quote value

/-- The items of an array, each on a line of its own. -/
def indentedItems (level : Nat) : List Json → List Char
  | [] => []
  | [item] => indentedChars level item
  | item :: next :: rest =>
    indentedChars level item ++ ',' :: (lineBreak level ++ indentedItems level (next :: rest))

/-- The members of an object, each on a line of its own. -/
def indentedMembers (level : Nat) : List (String × Json) → List Char
  | [] => []
  | [(name, value)] => quote name ++ ':' :: ' ' :: indentedChars level value
  | (name, value) :: next :: rest =>
    quote name ++ ':' :: ' ' :: (indentedChars level value
      ++ ',' :: (lineBreak level ++ indentedMembers level (next :: rest)))

end

/-- The text of a value over several lines. -/
def renderIndented (value : Json) : String :=
  String.ofList (value.indentedChars 0)

end ListQuery.Json
