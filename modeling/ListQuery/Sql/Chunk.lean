import ListQuery.Scalar
import ListQuery.Sql.Token

/-!
# The pieces of a statement

A statement is a sequence of chunks.  A chunk knows its own text, save for a
parameter, whose text is the number of its placeholder; and two chunks know
whether they are to be kept apart by a space.
-/

namespace ListQuery.Sql

/-- A piece of a statement. -/
inductive Chunk where
  /-- A keyword, function name, comparison or mark. -/
  | token (token : Token)
  /-- A name, written in double quotes. -/
  | identifier (name : String)
  /-- Text that is written as it stands.  It comes from an entity's mapping or from
  the library itself and never from a caller. -/
  | verbatim (text : String)
  /-- A value, of which only the placeholder is written. -/
  | parameter (value : Scalar)
  /-- A type that the preceding chunk is converted to. -/
  | cast (type : String)
  /-- A whole number. -/
  | integer (value : Nat)
deriving DecidableEq

namespace Chunk

/-- A name in double quotes, the quotes inside it doubled. -/
def quoteIdentifier (name : String) : List Char :=
  '"' :: (name.toList.flatMap (fun c => if c = '"' then ['"', '"'] else [c]) ++ ['"'])

/-- The characters of a chunk; `index` is the number of the placeholder if the
chunk is a parameter. -/
def chars (index : Nat) : Chunk → List Char
  | .token sign => sign.text.toList
  | .identifier name => quoteIdentifier name
  | .verbatim text => text.toList
  | .parameter _ => '$' :: Text.natDigits index
  | .cast type => ':' :: ':' :: type.toList
  | .integer value => Text.natDigits value

/-- The value that a chunk binds, if it binds one. -/
def value? : Chunk → Option Scalar
  | .parameter value => some value
  | _ => none

/-- Whether a space has to stand between this chunk and another such chunk. -/
def isWordLike : Chunk → Bool
  | .token sign => !sign.isPunctuation
  | _ => true

/-- Whether verbatim text already separates itself from what follows. -/
def endsOpen : Chunk → Bool
  | .verbatim text => text.toList.getLast?.any fun c => c == ' ' || c == '('
  | _ => false

/-- Whether verbatim text already separates itself from what precedes. -/
def startsClosed : Chunk → Bool
  | .verbatim text => text.toList.head?.any fun c => c == ' ' || c == ')' || c == ','
  | _ => false

/-- Whether a space is written between two neighbours. -/
def spaceBetween (current next : Chunk) : Bool :=
  if current.endsOpen || next.startsClosed then false
  else match current, next with
    | _, .cast _ => false
    -- Brackets, commas and points stand next to what they belong to.
    | _, .token .closeParen | _, .token .closeBracket | _, .token .comma | _, .token .dot => false
    | .token .openParen, _ | .token .openBracket, _ | .token .dot, _ => false
    | .token .comma, _ => true
    | .token (.call _), .token .openParen => false
    | .token (.word .array), .token .openBracket => false
    | .token .closeParen, next | .token .closeBracket, next => next.isWordLike
    | current, .token .openParen => current.isWordLike
    | .token (.compare _), _ => true
    | _, .token (.compare _) => true
    | current, next => current.isWordLike && next.isWordLike

end Chunk

end ListQuery.Sql
