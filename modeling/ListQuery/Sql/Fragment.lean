import ListQuery.Sql.Chunk

/-!
# Fragments

A fragment is a sequence of chunks.  The values it binds are part of it, so a
fragment can be moved, dropped or repeated and its parameters go with it.  Only
when a whole statement is written are the placeholders numbered, from one up and
in the order in which they stand in the text.
-/

namespace ListQuery.Sql

/-- A sequence of chunks. -/
abbrev Fragment := List Chunk

namespace Fragment

/-! ## Building fragments -/

/-- A single token. -/
def ofToken (token : Token) : Fragment := [.token token]

/-- A single keyword. -/
def word (keyword : Keyword) : Fragment := [.token (.word keyword)]

/-- A single comparison sign. -/
def comparison (sign : Comparison) : Fragment := [.token (.compare sign)]

/-- A column of a table. -/
def column (table name : String) : Fragment :=
  [.identifier table, .token .dot, .identifier name]

/-- The conversion to a type, if one is asked for. -/
def castTo : Option String → Fragment
  | some type => [.cast type]
  | none => []

/-- A bound value, converted to a type if one is given. -/
def parameter (value : Scalar) (type : Option String) : Fragment :=
  .parameter value :: castTo type

/-- Fragments with a separator between any two. -/
def join (separator : Token) (fragments : List Fragment) : Fragment :=
  List.intercalate [.token separator] fragments

/-- Bound values with commas between them, each converted to the same type. -/
def parameters (values : List Scalar) (type : Option String) : Fragment :=
  join .comma (values.map fun value => parameter value type)

/-- A fragment in parentheses. -/
def parenthesized (fragment : Fragment) : Fragment :=
  .token .openParen :: (fragment ++ [.token .closeParen])

/-- A function applied to arguments. -/
def call (function : Token) (arguments : Fragment) : Fragment :=
  .token function :: arguments.parenthesized

/-- A fragment under an output name. -/
def named (fragment : Fragment) (name : String) : Fragment :=
  fragment ++ [.token (.word .asWord), .identifier name]

/-! ## Clauses with question marks -/

/-- Text as a chunk, unless it is empty. -/
def verbatim (chars : List Char) : Fragment :=
  if chars.isEmpty then [] else [.verbatim (String.ofList chars)]

/-- A clause in which question marks stand for values.  `text` holds, last one
first, the characters since the previous question mark.  Once the values run out
a question mark is itself text. -/
def ofClauseChars (text : List Char) : List Char → List Scalar → Fragment
  | [], _ => verbatim text.reverse
  | '?' :: rest, value :: values =>
    verbatim text.reverse ++ .parameter value :: ofClauseChars [] rest values
  | '?' :: rest, [] =>
    verbatim text.reverse ++ .verbatim "?" :: ofClauseChars [] rest []
  | c :: rest, values => ofClauseChars (c :: text) rest values

/-- A clause in which question marks stand for the given values in turn. -/
def ofClause (clause : String) (values : List Scalar) : Fragment :=
  ofClauseChars [] clause.toList values

/-! ## Writing a fragment -/

/-- The values that a fragment binds, in the order of their placeholders. -/
def values (fragment : Fragment) : List Scalar :=
  fragment.filterMap Chunk.value?

/-- The characters of a fragment whose first placeholder has the number `index`. -/
def charsFrom (index : Nat) : Fragment → List Char
  | [] => []
  | [chunk] => chunk.chars index
  | chunk :: next :: rest =>
    chunk.chars index ++ ((if chunk.spaceBetween next then [' '] else [])
      ++ charsFrom (if chunk.value?.isSome then index + 1 else index) (next :: rest))

/-- The text of a fragment, its placeholders numbered from one. -/
def text (fragment : Fragment) : String :=
  String.ofList (fragment.charsFrom 1)

end Fragment

/-- A text with placeholders and the values that belong to them, in order. -/
structure Query where
  text : String
  parameters : List Scalar
deriving DecidableEq

/-- A fragment as it is sent to a database. -/
def Fragment.query (fragment : Fragment) : Query :=
  ⟨fragment.text, fragment.values⟩

end ListQuery.Sql
