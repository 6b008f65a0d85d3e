import ListQuery.Toml.Moment
import ListQuery.Toml.Number
import ListQuery.Toml.Quoted

/-!
# Values without quotes or brackets

Truth values, numbers, and points in time.
-/

namespace ListQuery.Toml

/-! ## Where they end -/

/-- Whether a character can stand in a value without quotes and brackets. -/
def isPlainChar (c : Char) : Bool :=
  !("=,[]\x7b\x7d \t#\r\n".toList.contains c)

/-- Whether a value without quotes and brackets can go on with a character, given
whether there are blanks before it. -/
def continuesPlain (afterBlanks : Bool) (c : Char) : Bool :=
  isPlainChar c && !(afterBlanks && (c == '.' || c == '"' || c == '\''))

/-- The text of a value without quotes and brackets, and what follows it.  Blanks with
more text after them belong to the value; `blanks` holds, last one first, those that
have been read. -/
def splitPlain (blanks : List Char) : List Char → List Char × List Char
  | [] => ([], blanks.reverse)
  | c :: rest =>
    if isSpace c then splitPlain (c :: blanks) rest
    else if continuesPlain (!blanks.isEmpty) c then
      let (text, rest) := splitPlain [] rest
      (blanks.reverse ++ c :: text, rest)
    else ([], blanks.reverse ++ c :: rest)

/-! ## What they stand for -/

/-- The value that a text without quotes and brackets stands for. -/
def plain? (chars : List Char) : Option Value :=
  if chars = "true".toList then some (.bool true)
  else if chars = "false".toList then some (.bool false)
  else if isMoment chars then some .moment
  else
    let (negative, rest) := Text.splitSign chars
    number? (rest.length < chars.length) negative rest

/-- A value without quotes and brackets at the front of a text, and what follows it. -/
def plainValue? (chars : List Char) : Option (Value × List Char) :=
  let (text, rest) := splitPlain [] chars
  (plain? text).map (·, rest)

end ListQuery.Toml
